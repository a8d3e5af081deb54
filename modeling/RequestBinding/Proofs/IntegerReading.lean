import RequestBinding.Function.DigitReading
import RequestBinding.Proofs.Numerals

/-!
# What the helper for integers answers

The helper of a bindings module reads a text as a value of the type of a field. Where that fails it
reads the text twice more, in 128 bits with a sign and without one, and takes it for a number if one
of these readings succeeds. The text is a numeral of a number or none; this decides the answer but
for numbers beyond 128 bits, which are taken for no numbers, and for a zero with a minus, which no
type without a sign reads.

## Steps

* **Digits.** What is read so far never exceeds the number that all digits write, so a reading that
  checks every step reads the numerals of the values of its type (`scan?_eq_some_iff`). This is what
  reading a number of any size and then asking for the range comes to (`read_eq_scan?`).
* **Number or not.** One of the readings in 128 bits succeeds exactly for numerals from -2¹²⁷ up to
  2¹²⁸ (`readsWide_iff`).
* `parseInteger_decided_iff` — the helper's answer against the one that the number decides.
-/

namespace RequestBinding.Function

open Text

variable {pointer : PointerWidth} {type : IntegerType}

namespace IntegerType

/-! ## Digit by digit -/

/-- The values of a type reach from each of them to zero. -/
theorem admits_withSign_of_le {negative : Bool} {m n : Nat} (hle : m ≤ n)
    (h : type.admits pointer (withSign negative n) = true) :
    type.admits pointer (withSign negative m) = true := by
  obtain ⟨signed, width⟩ := type
  unfold withSign at h ⊢
  cases signed with
  | true =>
    rw [admits_signed] at h ⊢
    cases negative <;> simp only [if_true, if_false, Bool.false_eq_true] at h ⊢ <;> omega
  | false =>
    rw [admits_unsigned] at h ⊢
    cases negative <;> simp only [if_true, if_false, Bool.false_eq_true] at h ⊢ <;> omega

theorem checked?_eq_some_iff {n m : Int} :
    type.checked? pointer n = some m ↔ n = m ∧ type.admits pointer n = true := by
  unfold checked?
  split
  · next h => simp [h]
  · next h => simp [h]

/-- The number that digits make of one that is read before them. -/
def extend (m : Nat) (digits : List Char) : Nat :=
  digits.foldl (fun n c => 10 * n + (c.toNat - '0'.toNat)) m

theorem le_extend (m : Nat) (digits : List Char) : m ≤ extend m digits := by
  induction digits generalizing m with
  | nil => exact Nat.le_refl m
  | cons c cs ih =>
    have hstep : m ≤ 10 * m + (c.toNat - '0'.toNat) := by omega
    exact Nat.le_trans hstep (ih _)

theorem withSign_step (negative : Bool) (m d : Nat) :
    10 * withSign negative m + withSign negative d = withSign negative (10 * m + d) := by
  cases negative with
  | true =>
    simp only [withSign, if_true]
    omega
  | false =>
    simp only [withSign, Bool.false_eq_true, if_false]
    omega

/-- A step succeeds for a digit after which the number is still a value of the type. -/
theorem addDigit?_eq_some_iff {negative : Bool} {m : Nat} {c : Char} {n : Int} :
    type.addDigit? pointer negative (withSign negative m) c = some n ↔
      isAsciiDigit c = true ∧ n = withSign negative (10 * m + (c.toNat - '0'.toNat)) ∧
        type.admits pointer n = true := by
  have hproduct : 10 * withSign negative m = withSign negative (10 * m) := by
    cases negative <;> simp [withSign]
  unfold addDigit?
  by_cases hc : isAsciiDigit c = true
  · rw [if_pos hc, Option.bind_eq_some_iff]
    simp only [checked?_eq_some_iff, hc, true_and]
    constructor
    · rintro ⟨product, ⟨rfl, -⟩, rfl, hsum⟩
      exact ⟨withSign_step negative m _, hsum⟩
    · rintro ⟨rfl, hsum⟩
      -- the product is not farther from zero than the sum
      have hbetween : type.admits pointer (withSign negative (10 * m)) = true :=
        admits_withSign_of_le (Nat.le_add_right _ _) hsum
      refine ⟨_, ⟨rfl, hproduct ▸ hbetween⟩, withSign_step negative m _, ?_⟩
      rw [withSign_step]
      exact hsum
  · simp [hc]

/-- Digits are read on from a number if what they make of it is a value of the type: the numbers on
the way are not farther from zero. -/
theorem foldlM_addDigit? {negative : Bool} {digits : List Char} {m : Nat} {n : Int}
    (hm : type.admits pointer (withSign negative m) = true) :
    digits.foldlM (type.addDigit? pointer negative) (withSign negative m) = some n ↔
      (∀ c ∈ digits, isAsciiDigit c = true) ∧ n = withSign negative (extend m digits) ∧
        type.admits pointer n = true := by
  induction digits generalizing m with
  | nil =>
    rw [List.foldlM_nil]
    constructor
    · rintro ⟨⟩
      exact ⟨by simp, rfl, hm⟩
    · rintro ⟨-, rfl, -⟩
      rfl
  | cons c cs ih =>
    have hextend : extend m (c :: cs) = extend (10 * m + (c.toNat - '0'.toNat)) cs := rfl
    rw [List.foldlM_cons, hextend, List.forall_mem_cons]
    constructor
    · intro h
      obtain ⟨next, hnext, hrest⟩ := Option.bind_eq_some_iff.mp h
      obtain ⟨hc, rfl, hadmits⟩ := addDigit?_eq_some_iff.mp hnext
      obtain ⟨hcs, hn, hlast⟩ := (ih hadmits).mp hrest
      exact ⟨⟨hc, hcs⟩, hn, hlast⟩
    · rintro ⟨⟨hc, hcs⟩, rfl, hlast⟩
      have hadmits := admits_withSign_of_le (le_extend _ cs) hlast
      exact Option.bind_eq_some_iff.mpr
        ⟨_, addDigit?_eq_some_iff.mpr ⟨hc, rfl, hadmits⟩, (ih hadmits).mpr ⟨hcs, rfl, hlast⟩⟩

theorem admits_zero : type.admits pointer 0 = true := by
  obtain ⟨signed, width⟩ := type
  have hsize : 2 ≤ width.size pointer := by
    cases width <;> cases pointer <;> decide
  cases signed with
  | true => exact admits_signed.mpr (by omega)
  | false => exact admits_unsigned.mpr (by omega)

theorem readDigits?_eq_some_iff {negative : Bool} {digits : List Char} {n : Int} :
    type.readDigits? pointer negative digits = some n ↔
      IsDigits digits ∧ n = withSign negative (decimal digits) ∧ type.admits pointer n = true := by
  have hzero : withSign negative 0 = 0 := by cases negative <;> rfl
  have hstart : type.admits pointer (withSign negative 0) = true := hzero ▸ admits_zero
  have hfold := @foldlM_addDigit? pointer type negative digits 0 n hstart
  rw [hzero, show extend 0 digits = decimal digits from foldl_digits digits] at hfold
  unfold readDigits?
  rw [isDigits_iff]
  cases digits with
  | nil => simp
  | cons c cs =>
    simp only [List.isEmpty_cons, Bool.false_eq_true, if_false, Bool.false_or, Bool.not_eq_false',
      List.all_eq_true]
    exact hfold

/-- A minus at the start of the text is for types with a sign. -/
def TakesSign (type : IntegerType) (text : List Char) : Prop :=
  text.head? = some '-' → type.signed = true

/-- **Reading digit by digit reads the numerals of the values.** -/
theorem scan?_eq_some_iff {text : List Char} {n : Int} :
    type.scan? pointer text = some n ↔
      IsNumeral n text ∧ type.admits pointer n = true ∧ type.TakesSign text := by
  constructor
  · intro h
    unfold scan? at h
    split at h
    · obtain ⟨hdigits, rfl, hadmits⟩ := readDigits?_eq_some_iff.mp h
      exact ⟨.plus hdigits, hadmits, by simp [TakesSign]⟩
    · split at h
      · next hsigned =>
        obtain ⟨hdigits, rfl, hadmits⟩ := readDigits?_eq_some_iff.mp h
        exact ⟨.minus hdigits, hadmits, fun _ => hsigned⟩
      · cases h
    · next hminus =>
      obtain ⟨hdigits, rfl, hadmits⟩ := readDigits?_eq_some_iff.mp h
      refine ⟨.bare hdigits, hadmits, fun hhead => ?_⟩
      obtain ⟨digits, rfl⟩ := List.head?_eq_some_iff.mp hhead
      exact absurd rfl (hminus digits)
  · rintro ⟨hnumeral, hadmits, hsign⟩
    cases hnumeral with
    | bare hdigits =>
      obtain ⟨c, digits, rfl⟩ := List.exists_cons_of_ne_nil hdigits.ne_nil
      unfold scan?
      split
      · next he => exact absurd (List.cons.inj he).1 hdigits.head_ne.2
      · next he => exact absurd (List.cons.inj he).1 hdigits.head_ne.1
      · exact readDigits?_eq_some_iff.mpr ⟨hdigits, rfl, hadmits⟩
    | plus hdigits => exact readDigits?_eq_some_iff.mpr ⟨hdigits, rfl, hadmits⟩
    | minus hdigits =>
      show (if type.signed = true then _ else none) = _
      rw [if_pos (hsign rfl)]
      exact readDigits?_eq_some_iff.mpr ⟨hdigits, rfl, hadmits⟩

/-- The least value has no counterpart without the minus. -/
example : (⟨true, .bits8⟩ : IntegerType).scan? .bits64 "-128".toList = some (-128) ∧
    (⟨true, .bits8⟩ : IntegerType).scan? .bits64 "+128".toList = none := by
  decide

/-! ## By the range -/

theorem read_eq_some_iff {text : List Char} {n : type.Values pointer} :
    type.read pointer text = some n ↔ IsNumeral n text ∧ type.TakesSign text := by
  unfold read
  split
  · next hminus =>
    simp only [Bool.and_eq_true, decide_eq_true_eq, Bool.not_eq_true'] at hminus
    simp [TakesSign, hminus.1, hminus.2]
  · next hminus =>
    have hsign : type.TakesSign text := by
      intro hhead
      simpa [hhead] using hminus
    rw [Option.bind_eq_some_iff]
    constructor
    · rintro ⟨m, hm, hvalue⟩
      split at hvalue
      · obtain rfl := Option.some.inj hvalue
        exact ⟨readInt_eq_some_iff.mp hm, hsign⟩
      · cases hvalue
    · rintro ⟨hnumeral, -⟩
      exact ⟨n, readInt_eq_some_iff.mpr hnumeral, dif_pos n.property⟩

/-- **Asking for the range afterwards is checking every step.** -/
theorem read_eq_scan? (text : List Char) :
    (type.read pointer text).map Subtype.val = type.scan? pointer text := by
  ext n
  rw [scan?_eq_some_iff, Option.map_eq_some_iff]
  constructor
  · rintro ⟨value, hvalue, rfl⟩
    obtain ⟨hnumeral, hsign⟩ := read_eq_some_iff.mp hvalue
    exact ⟨hnumeral, value.property, hsign⟩
  · rintro ⟨hnumeral, hadmits, hsign⟩
    exact ⟨⟨n, hadmits⟩, read_eq_some_iff.mpr ⟨hnumeral, hsign⟩, rfl⟩

theorem isSome_read_iff {text : List Char} :
    (type.read pointer text).isSome = true ↔
      ∃ n, IsNumeral n text ∧ type.admits pointer n = true ∧ type.TakesSign text := by
  simp only [← scan?_eq_some_iff, ← read_eq_scan?, ← Option.isSome_iff_exists, Option.isSome_map]

end IntegerType

/-! ## Number or not -/

/-- The texts that one of the readings in 128 bits takes are the numerals of what these bits hold
with a sign or without one. -/
theorem readsWide_iff {text : List Char} :
    ((IntegerType.i128.read pointer text).isSome || (IntegerType.u128.read pointer text).isSome)
        = true ↔
      ∃ n, IsNumeral n text ∧ -2 ^ 127 ≤ n ∧ n < 2 ^ 128 := by
  have hsize : IntegerWidth.bits128.size pointer = 2 ^ 128 := rfl
  have hsigned {n : Int} :
      IntegerType.i128.admits pointer n = true ↔ -2 ^ 127 ≤ n ∧ n < 2 ^ 127 := by
    rw [IntegerType.i128, IntegerType.admits_signed, hsize]
    omega
  have hunsigned {n : Int} : IntegerType.u128.admits pointer n = true ↔ 0 ≤ n ∧ n < 2 ^ 128 := by
    rw [IntegerType.u128, IntegerType.admits_unsigned, hsize]
    omega
  rw [Bool.or_eq_true, IntegerType.isSome_read_iff, IntegerType.isSome_read_iff]
  constructor
  · rintro (⟨n, hnumeral, hadmits, -⟩ | ⟨n, hnumeral, hadmits, -⟩)
    · have hrange := hsigned.mp hadmits
      exact ⟨n, hnumeral, by omega, by omega⟩
    · have hrange := hunsigned.mp hadmits
      exact ⟨n, hnumeral, by omega, by omega⟩
  · rintro ⟨n, hnumeral, hlow, hhigh⟩
    by_cases hlarge : n < 2 ^ 127
    · exact .inl ⟨n, hnumeral, hsigned.mpr ⟨hlow, hlarge⟩, fun _ => rfl⟩
    · refine .inr ⟨n, hnumeral, hunsigned.mpr ⟨by omega, hhigh⟩, fun hminus => ?_⟩
      -- so large a number has no minus
      have hnonpos := hnumeral.nonpos hminus
      omega

/-! ## Answers -/

theorem parseInteger_of_read {raw key : String} {n : type.Values pointer}
    (hnumeral : IsNumeral n raw.toList) (hsign : type.TakesSign raw.toList) :
    parseInteger pointer type raw key = .ok n := by
  unfold parseInteger
  rw [IntegerType.read_eq_some_iff.mpr ⟨hnumeral, hsign⟩]

/-- What the type does not read is out of range if 128 bits hold the number. -/
theorem parseInteger_of_wide {raw key : String} {n : Int} (hnumeral : IsNumeral n raw.toList)
    (hunread : ¬(type.admits pointer n = true ∧ type.TakesSign raw.toList))
    (hlow : -2 ^ 127 ≤ n) (hhigh : n < 2 ^ 128) :
    parseInteger pointer type raw key = .error (key ++ " is out of range") := by
  have hnone : type.read pointer raw.toList = none := by
    rw [← Option.not_isSome_iff_eq_none, IntegerType.isSome_read_iff]
    rintro ⟨m, hm, hadmits, hsign⟩
    obtain rfl := hm.unique hnumeral
    exact hunread ⟨hadmits, hsign⟩
  unfold parseInteger
  rw [hnone]
  exact if_pos (readsWide_iff.mpr ⟨n, hnumeral, hlow, hhigh⟩)

/-- A type has no values that 128 bits hold neither with a sign nor without one. -/
theorem admits_range {n : Int} (h : type.admits pointer n = true) : -2 ^ 127 ≤ n ∧ n < 2 ^ 128 := by
  obtain ⟨signed, width⟩ := type
  have hsize : width.size pointer ≤ 2 ^ 128 := by
    cases width <;> cases pointer <;> decide
  cases signed with
  | true =>
    have hrange := IntegerType.admits_signed.mp h
    omega
  | false =>
    have hrange := IntegerType.admits_unsigned.mp h
    omega

/-- What is a numeral of no number that 128 bits hold is taken for no numeral. -/
theorem parseInteger_of_not_wide {raw key : String}
    (h : ∀ n, IsNumeral n raw.toList → n < -2 ^ 127 ∨ 2 ^ 128 ≤ n) :
    parseInteger pointer type raw key = .error (key ++ " must be an integer") := by
  have hnone : type.read pointer raw.toList = none := by
    rw [← Option.not_isSome_iff_eq_none, IntegerType.isSome_read_iff]
    rintro ⟨m, hm, hadmits, -⟩
    have hrange := admits_range hadmits
    have hbeyond := h m hm
    omega
  unfold parseInteger
  rw [hnone]
  refine if_neg fun hwide => ?_
  obtain ⟨n, hnumeral, hlow, hhigh⟩ := readsWide_iff.mp hwide
  have hbeyond := h n hnumeral
  omega

/-- The answer is the one that the number decides: the number, if the type has it, and otherwise
whether there is a number at all. -/
structure IsDecided (type : IntegerType) (raw key : String)
    (answer : Except String (type.Values pointer)) : Prop where
  value : ∀ n : type.Values pointer, IsNumeral n raw.toList → answer = .ok n
  outOfRange : ∀ n, IsNumeral n raw.toList → type.admits pointer n = false →
    answer = .error (key ++ " is out of range")
  noNumber : (∀ n, ¬IsNumeral n raw.toList) → answer = .error (key ++ " must be an integer")

/-- A value that is written with a minus is zero, or its type has a sign. -/
theorem takesSign_of_admits {text : List Char} {n : Int} (hnumeral : IsNumeral n text)
    (hadmits : type.admits pointer n = true) (hzero : n = 0 → type.TakesSign text) :
    type.TakesSign text := by
  by_cases hn : n = 0
  · exact hzero hn
  · intro hminus
    have hnonpos := hnumeral.nonpos hminus
    obtain ⟨signed, width⟩ := type
    cases signed with
    | true => rfl
    | false =>
      have hrange := IntegerType.admits_unsigned.mp hadmits
      omega

/-- A number beyond 128 bits is taken for none. -/
theorem parseInteger_of_beyond {raw key : String} {n : Int} (hnumeral : IsNumeral n raw.toList)
    (hbeyond : n < -2 ^ 127 ∨ 2 ^ 128 ≤ n) :
    parseInteger pointer type raw key = .error (key ++ " must be an integer") :=
  parseInteger_of_not_wide fun _ hm => hm.unique hnumeral ▸ hbeyond

/-- A zero with a minus is out of range for a type without a sign. -/
theorem parseInteger_of_minusZero {raw key : String} (hnumeral : IsNumeral 0 raw.toList)
    (hsign : ¬type.TakesSign raw.toList) :
    parseInteger pointer type raw key = .error (key ++ " is out of range") :=
  parseInteger_of_wide hnumeral (fun h => hsign h.2) (by decide) (by decide)

theorem IsDecided.range {raw key : String} {n : Int}
    (h : IsDecided type raw key (parseInteger pointer type raw key))
    (hnumeral : IsNumeral n raw.toList) : -2 ^ 127 ≤ n ∧ n < 2 ^ 128 := by
  by_contra hrange
  have hadmits : type.admits pointer n = false :=
    Bool.eq_false_iff.mpr fun hadmits => hrange (admits_range hadmits)
  have hanswer := h.outOfRange n hnumeral hadmits
  rw [parseInteger_of_beyond hnumeral (by omega)] at hanswer
  simp at hanswer

theorem IsDecided.takesSign {raw key : String}
    (h : IsDecided type raw key (parseInteger pointer type raw key))
    (hnumeral : IsNumeral 0 raw.toList) : type.TakesSign raw.toList := by
  by_contra hsign
  have hanswer := h.value ⟨0, IntegerType.admits_zero⟩ hnumeral
  rw [parseInteger_of_minusZero hnumeral hsign] at hanswer
  cases hanswer

theorem isDecided_of_range {raw key : String}
    (h : ∀ n, IsNumeral n raw.toList →
      (-2 ^ 127 ≤ n ∧ n < 2 ^ 128) ∧ (n = 0 → type.TakesSign raw.toList)) :
    IsDecided type raw key (parseInteger pointer type raw key) where
  value n hnumeral :=
    parseInteger_of_read hnumeral (takesSign_of_admits hnumeral n.property (h n hnumeral).2)
  outOfRange n hnumeral hadmits := by
    have hunread : ¬(type.admits pointer n = true ∧ type.TakesSign raw.toList) := by
      simp [hadmits]
    obtain ⟨⟨hlow, hhigh⟩, -⟩ := h n hnumeral
    exact parseInteger_of_wide hnumeral hunread hlow hhigh
  noNumber hno := parseInteger_of_not_wide fun n hnumeral => absurd hnumeral (hno n)

/-- **Which texts the helper judges by their numbers.** It does so for all texts but the numerals
beyond 128 bits, which it takes for no numbers, and a zero with a minus, which is out of range for
every type without a sign. Each of its readings is one that goes digit by digit and checks every
step. -/
theorem parseInteger_decided_iff (pointer : PointerWidth) (type : IntegerType) (raw key : String) :
    (∀ read : IntegerType,
      (read.read pointer raw.toList).map Subtype.val = read.scan? pointer raw.toList) ∧
    (IsDecided type raw key (parseInteger pointer type raw key) ↔
      ∀ n, IsNumeral n raw.toList →
        (-2 ^ 127 ≤ n ∧ n < 2 ^ 128) ∧ (n = 0 → type.TakesSign raw.toList)) ∧
    (∀ n, IsNumeral n raw.toList → n < -2 ^ 127 ∨ 2 ^ 128 ≤ n →
      parseInteger pointer type raw key = .error (key ++ " must be an integer")) ∧
    (IsNumeral 0 raw.toList → ¬type.TakesSign raw.toList →
      parseInteger pointer type raw key = .error (key ++ " is out of range")) := by
  refine ⟨fun read => read.read_eq_scan? raw.toList,
    ⟨fun hdecided n hnumeral => ?_, isDecided_of_range⟩,
    fun n => parseInteger_of_beyond, parseInteger_of_minusZero⟩
  refine ⟨hdecided.range hnumeral, ?_⟩
  rintro rfl
  exact hdecided.takesSign hnumeral

namespace Example

/-- One byte without a sign. -/
def byte : IntegerType := ⟨false, .bits8⟩

/-- The first number beyond 128 bits. -/
def beyond : String := "340282366920938463463374607431768211456"

theorem isNumeral_beyond : IsNumeral (2 ^ 128) beyond.toList :=
  readInt_eq_some_iff.mp (by decide +kernel)

theorem isNumeral_minusZero : IsNumeral 0 "-0".toList := readInt_eq_some_iff.mp (by decide)

theorem not_takesSign_minusZero : ¬byte.TakesSign "-0".toList := by
  simp [IntegerType.TakesSign, byte]

end Example

/-- For one byte without a sign three hundred is out of range, as its number decides; the first
number beyond 128 bits is taken for none, and a zero with a minus is out of range. -/
theorem parseInteger_decided_iff_byte :
    (IsNumeral 300 "300".toList ∧
      IsDecided Example.byte "300" "id" (parseInteger .bits64 Example.byte "300" "id")) ∧
    (IsNumeral (2 ^ 128) Example.beyond.toList ∧
      parseInteger .bits64 Example.byte Example.beyond "id" = .error "id must be an integer") ∧
    (IsNumeral 0 "-0".toList ∧ ¬Example.byte.TakesSign "-0".toList ∧
      parseInteger .bits64 Example.byte "-0" "id" = .error "id is out of range") := by
  have hthree : IsNumeral 300 "300".toList := readInt_eq_some_iff.mp (by decide)
  obtain ⟨-, hdecided, -, -⟩ := parseInteger_decided_iff .bits64 Example.byte "300" "id"
  obtain ⟨-, -, hbeyond, -⟩ := parseInteger_decided_iff .bits64 Example.byte Example.beyond "id"
  obtain ⟨-, -, -, hminus⟩ := parseInteger_decided_iff .bits64 Example.byte "-0" "id"
  refine ⟨⟨hthree, hdecided.mpr fun n hn => ?_⟩,
    ⟨Example.isNumeral_beyond, hbeyond _ Example.isNumeral_beyond (.inr (Int.le_refl _))⟩,
    ⟨Example.isNumeral_minusZero, Example.not_takesSign_minusZero,
      hminus Example.isNumeral_minusZero Example.not_takesSign_minusZero⟩⟩
  obtain rfl := hn.unique hthree
  exact ⟨by decide, fun h => absurd h (by decide)⟩

/-- A number that no type has should be out of range, and zero is a value of every type: neither
answer is the one that the number decides. -/
theorem parseInteger_not_decided :
    ¬IsDecided Example.byte Example.beyond "id"
      (parseInteger .bits64 Example.byte Example.beyond "id") ∧
    ¬IsDecided Example.byte "-0" "id" (parseInteger .bits64 Example.byte "-0" "id") := by
  constructor
  · intro hdecided
    exact absurd (hdecided.range Example.isNumeral_beyond).2 (Int.lt_irrefl _)
  · intro hdecided
    exact Example.not_takesSign_minusZero (hdecided.takesSign Example.isNumeral_minusZero)

end RequestBinding.Function
