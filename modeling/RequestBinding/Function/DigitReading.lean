import RequestBinding.Function.IntegerType

/-!
# Reading integers digit by digit

How a text becomes a value of an integer type when every number on the way must be a value of the
type as well: a sign first, then digit after digit. A digit multiplies what is read by ten and is
added to it, or taken away from it after a minus; a step that leaves the type ends the reading
without a result (`IntegerType.scan?`). A minus is only for types with a sign.
-/

namespace RequestBinding.Function.IntegerType

/-- A number with a minus or without one. -/
def withSign (negative : Bool) (n : Nat) : Int := if negative then -n else n

/-- The number, if it is a value of the type. -/
def checked? (pointer : PointerWidth) (type : IntegerType) (n : Int) : Option Int :=
  if type.admits pointer n then some n else none

/-- The value after one more digit: the product and then the sum must be values of the type. -/
def addDigit? (pointer : PointerWidth) (type : IntegerType) (negative : Bool) (value : Int)
    (c : Char) : Option Int :=
  if Text.isAsciiDigit c then
    (type.checked? pointer (10 * value)).bind fun product =>
      type.checked? pointer (product + withSign negative (c.toNat - '0'.toNat))
  else none

/-- The value of one or more digits, from the first to the last. -/
def readDigits? (pointer : PointerWidth) (type : IntegerType) (negative : Bool)
    (digits : List Char) : Option Int :=
  if digits.isEmpty then none else digits.foldlM (type.addDigit? pointer negative) 0

/-- The value of a text. -/
def scan? (pointer : PointerWidth) (type : IntegerType) (text : List Char) : Option Int :=
  match text with
  | '+' :: digits => type.readDigits? pointer false digits
  | '-' :: digits => if type.signed then type.readDigits? pointer true digits else none
  | digits => type.readDigits? pointer false digits

end RequestBinding.Function.IntegerType
