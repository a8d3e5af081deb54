import RequestBinding.Record
import RequestBinding.Function.IntegerType

/-!
# Comparisons with a bound

The test that a generated function makes before it reports a bound: the value of an integer field
against a 64-bit bound. It is carried out in 128 bits with a sign, so that the bound need not fit
the type of the field (`Widening`). `Comparison.text` writes the test, `Comparison.value?` is its
value; a test that does not fit the type of the field has none.
-/

namespace RequestBinding.Function

/-- On which side of the bound a value is refused. -/
inductive Side where
  | below
  | above
deriving Repr, DecidableEq

namespace Side

def symbol : Side → String
  | below => "<"
  | above => ">"

/-- The value lies on this side of the bound. -/
def test : Side → Int → Int → Bool
  | below, value, bound => value < bound
  | above, value, bound => value > bound

/-- The words for the bound in an error message. -/
def words : Side → String
  | below => "at least"
  | above => "at most"

end Side

/-- How a value reaches 128 bits with a sign. -/
inductive Widening where
  /-- The value has that type. -/
  | none
  /-- The value may be too large; then the test has this value. -/
  | attempt (otherwise : Bool)
  /-- The width of the type depends on the platform. -/
  | cast
  /-- Every value of the type fits. -/
  | exact
deriving Repr, DecidableEq

/--
The widening for a test of a primitive integer type. What is too large for 128 bits with a sign lies
above every bound.
-/
def Widening.ofType (side : Side) : String → Widening
  | "i128" => none
  | "u128" => attempt (side == .above)
  | "usize" => cast
  | "isize" => cast
  | _ => exact

/-- A field is compared with a bound. -/
structure Comparison where
  field : String
  widening : Widening
  side : Side
  bound : Int64
deriving Repr, DecidableEq

namespace Comparison

/-- The written side and bound. -/
def operand (c : Comparison) : String := c.side.symbol ++ " " ++ toString c.bound.toInt

/-- The written test. -/
def text (c : Comparison) : String :=
  match c.widening with
  | .none => "s." ++ c.field ++ " " ++ c.operand
  | .attempt otherwise =>
    "i128::try_from(s." ++ c.field ++ ").map_or(" ++ (if otherwise then "true" else "false")
      ++ ", |v| v " ++ c.operand ++ ")"
  | .cast => "(s." ++ c.field ++ " as i128) " ++ c.operand
  | .exact => "i128::from(s." ++ c.field ++ ") " ++ c.operand

/--
The value of the test for a field with this value. Without a widening the bound must be a value of
the type; the exact one is there for 128 bits with a sign and for all types of a fixed smaller width.
-/
def value? {pointer : PointerWidth} {type : IntegerType} (c : Comparison)
    (value : type.Values pointer) : Option Bool :=
  match c.widening with
  | .none =>
    if type.admits pointer c.bound.toInt then some (c.side.test value c.bound.toInt) else none
  | .attempt otherwise =>
    if IntegerType.i128.admits pointer value then some (c.side.test value c.bound.toInt)
    else some otherwise
  | .cast =>
    some (c.side.test (Int.bmod value (IntegerWidth.bits128.size pointer)) c.bound.toInt)
  | .exact =>
    if type = .i128 || (type.width != .bits128 && type.width != .pointer) then
      some (c.side.test value c.bound.toInt)
    else none

end Comparison

end RequestBinding.Function
