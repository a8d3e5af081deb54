import RequestBinding.Text.Numeral

/-!
# Primitive integers

The types that an integer field may have, their values, and the reading of a text as a value of one
(`IntegerType.read`), which is what the helper `parse_integer` of a bindings module does
(`parseInteger`). The width of two of the types is that of the pointers of the platform.
-/

namespace RequestBinding.Function

/-- The width of the pointers of a platform. -/
inductive PointerWidth where
  | bits16
  | bits32
  | bits64
deriving Repr, DecidableEq

def PointerWidth.bits : PointerWidth → Nat
  | bits16 => 16
  | bits32 => 32
  | bits64 => 64

inductive IntegerWidth where
  | bits8
  | bits16
  | bits32
  | bits64
  | bits128
  /-- The width of a pointer. -/
  | pointer
deriving Repr, DecidableEq

namespace IntegerWidth

def bits (pointer : PointerWidth) : IntegerWidth → Nat
  | bits8 => 8
  | bits16 => 16
  | bits32 => 32
  | bits64 => 64
  | bits128 => 128
  | .pointer => pointer.bits

/-- The number of values of a type of this width. -/
def size (pointer : PointerWidth) (width : IntegerWidth) : Nat := Nat.pow 2 (width.bits pointer)

/-- The end of the name of a type of this width. -/
def word : IntegerWidth → String
  | bits8 => "8"
  | bits16 => "16"
  | bits32 => "32"
  | bits64 => "64"
  | bits128 => "128"
  | pointer => "size"

end IntegerWidth

structure IntegerType where
  signed : Bool
  width : IntegerWidth
deriving Repr, DecidableEq

namespace IntegerType

def i128 : IntegerType := ⟨true, .bits128⟩

def u128 : IntegerType := ⟨false, .bits128⟩

def name (type : IntegerType) : String := (if type.signed then "i" else "u") ++ type.width.word

/-- The number is a value of the type. -/
def admits (pointer : PointerWidth) (type : IntegerType) (n : Int) : Bool :=
  let size := type.width.size pointer
  if type.signed then -((size / 2 : Nat) : Int) ≤ n && n < (size / 2 : Nat)
  else 0 ≤ n && n < size

theorem admits_signed {pointer : PointerWidth} {width : IntegerWidth} {n : Int} :
    admits pointer ⟨true, width⟩ n = true
      ↔ -((width.size pointer / 2 : Nat) : Int) ≤ n ∧ n < (width.size pointer / 2 : Nat) := by
  simp [admits]

theorem admits_unsigned {pointer : PointerWidth} {width : IntegerWidth} {n : Int} :
    admits pointer ⟨false, width⟩ n = true ↔ 0 ≤ n ∧ n < width.size pointer := by
  simp [admits]

/-- The values of the type. -/
abbrev Values (pointer : PointerWidth) (type : IntegerType) := { n : Int // type.admits pointer n }

/-- The value of a numeral, if the type has it. A numeral with a minus has none without a sign. -/
def read (pointer : PointerWidth) (type : IntegerType) (text : List Char) :
    Option (type.Values pointer) :=
  if text.head? = some '-' && !type.signed then none
  else (Text.readInt text).bind fun n => if h : type.admits pointer n then some ⟨n, h⟩ else none

end IntegerType

/-- The helper for integers: the value of a text, or the message for the key it stands under. -/
def parseInteger (pointer : PointerWidth) (type : IntegerType) (raw key : String) :
    Except String (type.Values pointer) :=
  match type.read pointer raw.toList with
  | some n => .ok n
  | none =>
    if (IntegerType.i128.read pointer raw.toList).isSome
        || (IntegerType.u128.read pointer raw.toList).isSome then
      .error (key ++ " is out of range")
    else .error (key ++ " must be an integer")

end RequestBinding.Function
