import RequestBinding.Text.LetterCase

/-!
# Numerals

An integer numeral is an optional sign and one or more ASCII digits; the number of digits is not
limited. `readInt64` reads a numeral whose value lies in the 64-bit range.
-/

namespace RequestBinding.Text

/-- The value of a text of ASCII digits; none if another character occurs or no digit at all. -/
def readNat (cs : List Char) : Option Nat :=
  if cs.isEmpty || !cs.all isAsciiDigit then none
  else some (cs.foldl (fun n c => 10 * n + (c.toNat - '0'.toNat)) 0)

/-- The value of an integer numeral. -/
def readInt (cs : List Char) : Option Int :=
  match cs with
  | '-' :: digits => (readNat digits).map fun n => -(n : Int)
  | '+' :: digits => (readNat digits).map fun n => (n : Int)
  | digits => (readNat digits).map fun n => (n : Int)

/-- The value of an integer numeral, if 64 bits with a sign hold it. -/
def readInt64 (cs : List Char) : Option Int64 :=
  (readInt cs).bind fun n =>
    if Int64.minValue.toInt ≤ n ∧ n ≤ Int64.maxValue.toInt then some (Int64.ofInt n) else none

/-! ## Written numbers -/

theorem isAsciiDigit_eq_isDigit (c : Char) : isAsciiDigit c = c.isDigit := by
  simp only [isAsciiDigit, Char.isDigit, Char.le_def]

/-- The decimal digits of a number are read back. -/
theorem readNat_toDigits (n : Nat) : readNat (Nat.toDigits 10 n) = some n := by
  have hall : (Nat.toDigits 10 n).all isAsciiDigit = true := by
    rw [List.all_eq_true]
    intro c hc
    rw [isAsciiDigit_eq_isDigit]
    exact Nat.isDigit_of_mem_toDigits (by decide) (by decide) hc
  have hne : (Nat.toDigits 10 n).isEmpty = false := by simp
  rw [readNat, hall, hne, if_neg (by simp)]
  exact congrArg some Nat.ofDigitChars_ten_toDigits

/-- The digits of a number start with no sign. -/
theorem readInt_toDigits (n : Nat) : readInt (Nat.toDigits 10 n) = some (n : Int) := by
  have hsign : ∀ c cs, Nat.toDigits 10 n = c :: cs → c.isDigit = true := by
    intro c cs h
    exact Nat.isDigit_of_mem_toDigits (b := 10) (by decide) (by decide) (h ▸ List.mem_cons_self)
  unfold readInt
  split
  · next cs h => exact absurd (hsign _ _ h) (by decide)
  · next cs h => exact absurd (hsign _ _ h) (by decide)
  · rw [readNat_toDigits]; rfl

theorem toList_toString_int (n : Int) :
    (toString n).toList
      = if 0 ≤ n then Nat.toDigits 10 n.toNat else '-' :: Nat.toDigits 10 (-n).toNat := by
  show (Int.repr n).toList = _
  rw [Int.repr_eq_if]
  split <;> simp

/-- A written integer is read back. -/
theorem readInt_toString (n : Int) : readInt (toString n).toList = some n := by
  rw [toList_toString_int]
  split
  · next h => rw [readInt_toDigits, Int.toNat_of_nonneg h]
  · next h =>
    have hn : ((-n).toNat : Int) = -n := Int.toNat_of_nonneg (by omega)
    simp [readInt, readNat_toDigits, hn]

/-- A written 64-bit integer is read back. -/
theorem readInt64_toString (n : Int64) : readInt64 (toString n.toInt).toList = some n := by
  have h3 : Int64.minValue.toInt = -2 ^ 63 := by decide
  have h4 : Int64.maxValue.toInt = 2 ^ 63 - 1 := by decide
  have h1 := n.le_toInt
  have h2 := n.toInt_lt
  rw [readInt64, readInt_toString, Option.bind_some, if_pos (by rw [h3, h4]; omega), Int64.ofInt_toInt]

/-- What is read is the value of the numeral: nothing is cut off. -/
theorem toInt_of_readInt64 {cs : List Char} {n : Int64} (h : readInt64 cs = some n) :
    readInt cs = some n.toInt := by
  obtain ⟨m, hm, h2⟩ := Option.bind_eq_some_iff.mp h
  split at h2
  · next hr =>
    rw [hm]
    simp only [Option.some.injEq] at h2
    have h3 : Int64.minValue.toInt = -2 ^ 63 := by decide
    have h4 : Int64.maxValue.toInt = 2 ^ 63 - 1 := by decide
    rw [h3, h4] at hr
    rw [← h2, Int64.toInt_ofInt_of_le hr.1 (by omega)]
  · simp at h2

end RequestBinding.Text
