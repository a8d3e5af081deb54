import RequestBinding.Function.Comparison

/-!
# Integers as bits

A platform keeps the values of the integer types as bits, and the tests of generated functions work
on them: a type with a sign is extended by it, comparisons depend on whether there is a sign, and a
type as wide as a pointer has any width up to 64 bits. `Comparison.eval?` carries out a test on
bits; `MachineInteger.number` is the number that bits stand for.
-/

namespace RequestBinding.Function

/-- The number of bits of a type if a pointer has so many. -/
def IntegerWidth.bitsWith (pointerBits : Nat) : IntegerWidth → Nat
  | .bits8 => 8
  | .bits16 => 16
  | .bits32 => 32
  | .bits64 => 64
  | .bits128 => 128
  | .pointer => pointerBits

/-- A value of an integer type. -/
structure MachineInteger (pointerBits : Nat) where
  type : IntegerType
  bits : BitVec (type.width.bitsWith pointerBits)

namespace MachineInteger

variable {pointerBits : Nat}

/-- The number that the bits stand for. -/
def number (x : MachineInteger pointerBits) : Int :=
  if x.type.signed then x.bits.toInt else x.bits.toNat

/-! ## Conversions to 128 bits with a sign -/

/-- A value of the type with 128 bits and a sign. -/
def wide (bits : BitVec 128) : MachineInteger pointerBits := ⟨.i128, bits⟩

/-- The conversion `as i128`, which all types have: extended by the sign, if there is one. -/
def cast (x : MachineInteger pointerBits) : MachineInteger pointerBits :=
  wide (if x.type.signed then x.bits.signExtend 128 else x.bits.setWidth 128)

/-- The conversion `i128::from`, which types have if all their values fit on every platform. -/
def lossless? (x : MachineInteger pointerBits) : Option (MachineInteger pointerBits) :=
  if x.type = .i128 || (x.type.width != .bits128 && x.type.width != .pointer) then some x.cast
  else none

/-- The conversion `i128::try_from`: nothing if the number does not fit. -/
def attempted? (x : MachineInteger pointerBits) : Option (MachineInteger pointerBits) :=
  if (BitVec.ofInt 128 x.number).toInt = x.number then some (wide (BitVec.ofInt 128 x.number))
  else none

/-! ## Comparisons of values of one type -/

/-- The bits of a literal of a type, which must be a value of it. -/
def literal? (pointerBits : Nat) (type : IntegerType) (n : Int) :
    Option (BitVec (type.width.bitsWith pointerBits)) :=
  if (⟨type, BitVec.ofInt _ n⟩ : MachineInteger pointerBits).number = n then some (BitVec.ofInt _ n)
  else none

/-- The comparison `<` of two values of a type. -/
def less (type : IntegerType) (x y : BitVec (type.width.bitsWith pointerBits)) : Bool :=
  if type.signed then x.slt y else x.ult y

/-- The comparison of a value with a literal of its type, if its type has the literal. -/
def compare? (x : MachineInteger pointerBits) (side : Side) (bound : Int) : Option Bool :=
  (literal? pointerBits x.type bound).map fun literal =>
    match side with
    | .below => less x.type x.bits literal
    | .above => less x.type literal x.bits

end MachineInteger

/-! ## Tests -/

variable {pointerBits : Nat}

/-- What is left of a value before it is compared. -/
inductive Widened (pointerBits : Nat) where
  /-- A value to be compared. -/
  | value (x : MachineInteger pointerBits)
  /-- No value: the test has this answer. -/
  | answer (holds : Bool)

/-- What a widening makes of a value, if its type has the conversion. -/
def Widening.applied? (x : MachineInteger pointerBits) : Widening → Option (Widened pointerBits)
  | none => some (.value x)
  | attempt otherwise =>
    match x.attempted? with
    | some converted => some (.value converted)
    | Option.none => some (.answer otherwise)
  | cast => some (.value x.cast)
  | exact => x.lossless?.map .value

/-- The answer of the test for a field with this value. -/
def Comparison.eval? (c : Comparison) (x : MachineInteger pointerBits) : Option Bool :=
  match c.widening.applied? x with
  | some (.value converted) => converted.compare? c.side c.bound.toInt
  | some (.answer holds) => some holds
  | none => none

end RequestBinding.Function
