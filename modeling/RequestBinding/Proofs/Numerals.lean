import RequestBinding.Text.Numeral
import Mathlib.Data.List.Induction
import Mathlib.Data.Nat.Digits.Defs

/-!
# The grammar of numerals

What an integer numeral is and which number it writes, apart from the readers. A digit counts by its
place, so zeros at the start are allowed in any number and change nothing.

## Main statements

* `readInt_eq_some_iff` — a text is read as a number exactly if it is a numeral of the number.
* `readInt64_eq_some_iff` — the same for numbers of 64 bits.
-/

namespace RequestBinding.Text

/-- The number that decimal digits write: the last digit counts once, the one before it ten times,
and so on. -/
def decimal (digits : List Char) : Nat :=
  Nat.ofDigits 10 (digits.reverse.map fun c => c.toNat - '0'.toNat)

/-- The text is one or more ASCII digits. -/
structure IsDigits (cs : List Char) : Prop where
  ne_nil : cs ≠ []
  chars : ∀ c ∈ cs, '0' ≤ c ∧ c ≤ '9'

/-- The text is a numeral of the number: digits, with a sign or without one. -/
inductive IsNumeral : Int → List Char → Prop
  | bare {digits : List Char} : IsDigits digits → IsNumeral (decimal digits) digits
  | plus {digits : List Char} : IsDigits digits → IsNumeral (decimal digits) ('+' :: digits)
  | minus {digits : List Char} : IsDigits digits → IsNumeral (-decimal digits) ('-' :: digits)

/-- Reading on from the left multiplies what is read by ten, which is to count by places. -/
theorem foldl_digits (cs : List Char) :
    cs.foldl (fun n c => 10 * n + (c.toNat - '0'.toNat)) 0 = decimal cs := by
  induction cs using List.reverseRecOn with
  | nil => rfl
  | append_singleton cs c ih =>
    rw [List.foldl_append, ih, decimal, decimal, List.reverse_append, List.reverse_singleton,
      List.singleton_append, List.map_cons, Nat.ofDigits_cons]
    exact Nat.add_comm _ _

theorem isDigits_iff {cs : List Char} :
    IsDigits cs ↔ (cs.isEmpty || !cs.all isAsciiDigit) = false := by
  have hchars : cs.all isAsciiDigit = true ↔ ∀ c ∈ cs, '0' ≤ c ∧ c ≤ '9' := by
    simp [isAsciiDigit]
  constructor
  · intro h
    simp [h.ne_nil, hchars.mpr h.chars]
  · intro h
    simp only [Bool.or_eq_false_iff, Bool.not_eq_false'] at h
    exact ⟨by simpa using h.1, hchars.mp h.2⟩

theorem readNat_eq_some_iff {cs : List Char} {n : Nat} :
    readNat cs = some n ↔ IsDigits cs ∧ decimal cs = n := by
  rw [readNat, foldl_digits, isDigits_iff]
  cases cs.isEmpty || !cs.all isAsciiDigit <;> simp

/-- Digits have no sign at their start. -/
theorem IsDigits.head_ne {c : Char} {cs : List Char} (h : IsDigits (c :: cs)) :
    c ≠ '-' ∧ c ≠ '+' := by
  have hc := h.chars c List.mem_cons_self
  constructor <;> (rintro rfl; exact absurd hc (by decide))

/-- **A text is read as a number exactly if it is a numeral of the number.** -/
theorem readInt_eq_some_iff {cs : List Char} {n : Int} :
    readInt cs = some n ↔ IsNumeral n cs := by
  constructor
  · intro h
    unfold readInt at h
    split at h
    all_goals
      obtain ⟨m, hm, rfl⟩ := Option.map_eq_some_iff.mp h
      obtain ⟨k, hk, hkm⟩ := Option.bind_eq_some_iff.mp hm
      cases hkm
      obtain ⟨hdigits, rfl⟩ := readNat_eq_some_iff.mp hk
    · exact .minus hdigits
    · exact .plus hdigits
    · exact .bare hdigits
  · intro h
    have hread : ∀ {digits}, IsDigits digits → readNat digits = some (decimal digits) :=
      fun hdigits => readNat_eq_some_iff.mpr ⟨hdigits, rfl⟩
    cases h with
    | bare hdigits =>
      obtain ⟨c, digits, rfl⟩ := List.exists_cons_of_ne_nil hdigits.ne_nil
      rw [readInt, hread hdigits]
      · rfl
      · exact fun _ he => hdigits.head_ne.1 (List.cons.inj he).1
      · exact fun _ he => hdigits.head_ne.2 (List.cons.inj he).1
    | plus hdigits => rw [readInt, hread hdigits]; rfl
    | minus hdigits => rw [readInt, hread hdigits]; rfl

/-- A text is a numeral of one number only. -/
theorem IsNumeral.unique {n m : Int} {cs : List Char} (hn : IsNumeral n cs) (hm : IsNumeral m cs) :
    n = m :=
  Option.some.inj ((readInt_eq_some_iff.mpr hn).symm.trans (readInt_eq_some_iff.mpr hm))

/-- What is written with a minus is not positive. -/
theorem IsNumeral.nonpos {n : Int} {cs : List Char} (h : IsNumeral n cs)
    (hminus : cs.head? = some '-') : n ≤ 0 := by
  cases h with
  | bare hdigits =>
    obtain ⟨digits, rfl⟩ := List.head?_eq_some_iff.mp hminus
    exact absurd rfl hdigits.head_ne.1
  | plus hdigits => cases hminus
  | minus hdigits => omega

/-- A numeral is read in 64 bits exactly if they hold its number. -/
theorem readInt64_eq_some_iff {cs : List Char} {n : Int64} :
    readInt64 cs = some n ↔ IsNumeral n.toInt cs := by
  refine ⟨fun h => readInt_eq_some_iff.mp (toInt_of_readInt64 h), fun h => ?_⟩
  rw [readInt64, readInt_eq_some_iff.mpr h, Option.bind_some, if_pos, Int64.ofInt_toInt]
  exact ⟨n.minValue_le_toInt, n.toInt_le⟩

end RequestBinding.Text
