import Mathlib.Algebra.Group.Int.Defs
import Mathlib.Algebra.Group.Nat.Defs
import RequestBinding.Function.MachineInteger
import RequestBinding.Proofs.BindMeaning

/-!
# Comparisons with a bound are exact

The test for a type is carried out on bits, after a conversion that depends on the type. None of the
conversions changes the number of a value of its types, so the test says what is true of the
numbers, for every 64-bit bound and for pointers of any width up to 64 bits.

## Main statements

* `number_cast`, `number_attempted?` — conversions keep the number.
* `compare?_wide` — comparing bits is comparing numbers.
* `eval?_eq_value?` — on bits a test has the value that it has on numbers.
* `eval?_exact` — the test that is written for a type is the comparison of the numbers.
-/

namespace RequestBinding.Function

namespace MachineInteger

variable {pointerBits : Nat}

/-! ## Numbers of bits -/

theorem bitsWith_le (hpointer : pointerBits ≤ 64) {width : IntegerWidth}
    (hwidth : width ≠ .bits128) : width.bitsWith pointerBits ≤ 64 := by
  cases width with
  | bits128 => exact absurd rfl hwidth
  | pointer => exact hpointer
  | _ => simp [IntegerWidth.bitsWith]

/-- A type with at most 64 bits has numbers far from the ends of 128 bits with a sign. -/
theorem number_range_of_narrow (hpointer : pointerBits ≤ 64) (x : MachineInteger pointerBits)
    (hwidth : x.type.width ≠ .bits128) : -2 ^ 64 ≤ x.number ∧ x.number < 2 ^ 64 := by
  obtain ⟨⟨signed, width⟩, bits⟩ := x
  have hpow : (2 : Int) ^ width.bitsWith pointerBits ≤ 2 ^ 64 := by
    exact_mod_cast Nat.pow_le_pow_right Nat.two_pos (bitsWith_le hpointer hwidth)
  cases signed with
  | true =>
    show -2 ^ 64 ≤ bits.toInt ∧ bits.toInt < 2 ^ 64
    have hlo : -2 ^ width.bitsWith pointerBits ≤ 2 * bits.toInt := BitVec.le_two_mul_toInt
    have hhi : 2 * bits.toInt < 2 ^ width.bitsWith pointerBits := BitVec.two_mul_toInt_lt
    omega
  | false =>
    show -2 ^ 64 ≤ (bits.toNat : Int) ∧ (bits.toNat : Int) < 2 ^ 64
    have hhi : (bits.toNat : Int) < 2 ^ width.bitsWith pointerBits := by exact_mod_cast bits.isLt
    omega

theorem bitsWith_le_128 (hpointer : pointerBits ≤ 64) (width : IntegerWidth) :
    width.bitsWith pointerBits ≤ 128 := by
  by_cases hwidth : width = .bits128
  · exact hwidth ▸ Nat.le_refl 128
  · exact Nat.le_trans (bitsWith_le hpointer hwidth) (by decide)

/-- No type with a sign has more numbers than 128 bits with a sign. -/
theorem toInt_range (hpointer : pointerBits ≤ 64) {width : IntegerWidth}
    (bits : BitVec (width.bitsWith pointerBits)) :
    -2 ^ 127 ≤ bits.toInt ∧ bits.toInt < 2 ^ 127 := by
  have hpow : (2 : Int) ^ width.bitsWith pointerBits ≤ 2 ^ 128 := by
    exact_mod_cast Nat.pow_le_pow_right Nat.two_pos (bitsWith_le_128 hpointer width)
  have hlo : -2 ^ width.bitsWith pointerBits ≤ 2 * bits.toInt := BitVec.le_two_mul_toInt
  have hhi : 2 * bits.toInt < 2 ^ width.bitsWith pointerBits := BitVec.two_mul_toInt_lt
  omega

/-- No number of any type lies below 128 bits with a sign. -/
theorem le_number (hpointer : pointerBits ≤ 64) (x : MachineInteger pointerBits) :
    -2 ^ 127 ≤ x.number := by
  obtain ⟨⟨signed, width⟩, bits⟩ := x
  cases signed with
  | true => exact (toInt_range hpointer bits).1
  | false =>
    show -2 ^ 127 ≤ (bits.toNat : Int)
    omega

/-! ## Conversions -/

/-- What fits into 128 bits with a sign is not changed by being put there. -/
theorem toInt_ofInt_of_range {n : Int} (hlo : -2 ^ 127 ≤ n) (hhi : n < 2 ^ 127) :
    (BitVec.ofInt 128 n).toInt = n :=
  BitVec.toInt_ofInt_eq_self (by decide) hlo hhi

/-- The conversion `as i128` keeps the number of whatever has at most 64 bits. -/
theorem number_cast (hpointer : pointerBits ≤ 64) (x : MachineInteger pointerBits)
    (hwidth : x.type.width ≠ .bits128) : x.cast.number = x.number := by
  have hrange := number_range_of_narrow hpointer x hwidth
  obtain ⟨⟨signed, width⟩, bits⟩ := x
  cases signed with
  | true =>
    show (bits.signExtend 128).toInt = bits.toInt
    exact BitVec.toInt_signExtend_of_le (bitsWith_le_128 hpointer width)
  | false =>
    have hhi : (bits.toNat : Int) < 2 ^ 64 := hrange.2
    show (bits.setWidth 128).toInt = bits.toNat
    rw [BitVec.toInt_setWidth]
    exact Int.bmod_eq_of_le_mul_two (by omega) (by omega)

/-- The conversion `as i128` keeps what is of this type already. -/
theorem cast_of_type_eq {x : MachineInteger pointerBits} (hx : x.type = .i128) : x.cast = x := by
  obtain ⟨type, bits⟩ := x
  obtain rfl : type = .i128 := hx
  have hsame : BitVec.signExtend 128 (bits : BitVec 128) = bits := BitVec.signExtend_eq _
  exact congrArg wide hsame

/-- The conversion `i128::from` keeps the number of what it is there for. -/
theorem number_lossless? (hpointer : pointerBits ≤ 64) {x converted : MachineInteger pointerBits}
    (h : x.lossless? = some converted) : converted.type = .i128 ∧ converted.number = x.number := by
  rw [lossless?] at h
  split at h
  · next hfixed =>
    obtain rfl := Option.some.inj h
    by_cases htype : x.type = .i128
    · rw [cast_of_type_eq htype]
      exact ⟨htype, rfl⟩
    · have hwidth : x.type.width ≠ .bits128 := by
        rintro hwidth
        simp [htype, hwidth] at hfixed
      exact ⟨rfl, number_cast hpointer x hwidth⟩
  · cases h

/-- The conversion `i128::try_from` keeps the number of what it accepts. -/
theorem number_attempted? {x converted : MachineInteger pointerBits}
    (h : x.attempted? = some converted) :
    converted.type = .i128 ∧ converted.number = x.number := by
  rw [attempted?] at h
  split at h
  · next hfits =>
    obtain rfl := Option.some.inj h
    exact ⟨rfl, hfits⟩
  · cases h

/-- What `i128::try_from` refuses is too large for 128 bits with a sign. -/
theorem le_number_of_attempted? (hpointer : pointerBits ≤ 64) {x : MachineInteger pointerBits}
    (h : x.attempted? = none) : 2 ^ 127 ≤ x.number := by
  by_cases hhi : x.number < 2 ^ 127
  · have hfits := toInt_ofInt_of_range (le_number hpointer x) hhi
    rw [attempted?, if_pos hfits] at h
    cases h
  · exact Int.not_lt.mp hhi

/-! ## Comparisons -/

theorem less_eq (type : IntegerType) (x y : BitVec (type.width.bitsWith pointerBits)) :
    less type x y = decide (number ⟨type, x⟩ < number ⟨type, y⟩) := by
  obtain ⟨signed, width⟩ := type
  cases signed with
  | true => exact BitVec.slt_eq_decide
  | false =>
    show x.ult y = decide ((x.toNat : Int) < y.toNat)
    rw [BitVec.ult_eq_decide]
    simp

/-- Comparing with a literal that the type has is comparing numbers. -/
theorem compare?_of_literal (x : MachineInteger pointerBits) (side : Side) {bound : Int}
    (hbound : number ⟨x.type, BitVec.ofInt (x.type.width.bitsWith pointerBits) bound⟩ = bound) :
    x.compare? side bound = some (side.test x.number bound) := by
  rw [compare?, literal?, if_pos hbound, Option.map_some]
  cases side with
  | below =>
    show some (less x.type x.bits _) = some (decide (x.number < bound))
    rw [less_eq, hbound]
  | above =>
    show some (less x.type _ x.bits) = some (decide (x.number > bound))
    rw [less_eq, hbound]

/-- With 128 bits and a sign, every 64-bit bound is a literal of the type. -/
theorem compare?_wide {x : MachineInteger pointerBits} (hx : x.type = .i128) (side : Side)
    (bound : Int64) : x.compare? side bound.toInt = some (side.test x.number bound.toInt) := by
  obtain ⟨type, bits⟩ := x
  obtain rfl : type = .i128 := hx
  refine compare?_of_literal _ side ?_
  have hlo := bound.le_toInt
  have hhi := bound.toInt_lt
  exact toInt_ofInt_of_range (by omega) (by omega)

end MachineInteger

/-! ## Tests -/

open MachineInteger

variable {pointerBits : Nat}

theorem IntegerType.eq_i128 {type : IntegerType} (hsigned : type.signed = true)
    (hwidth : type.width = .bits128) : type = .i128 := by
  cases type
  exact congr (congrArg IntegerType.mk hsigned) hwidth

/-- The widening depends on the width of the type, and for 128 bits on its sign. -/
theorem ofType_name (side : Side) (type : IntegerType) :
    Widening.ofType side type.name =
      match type.width with
      | .bits128 => if type.signed then .none else .attempt (side == .above)
      | .pointer => .cast
      | _ => .exact := by
  obtain ⟨signed, width⟩ := type
  cases signed <;> cases width <;> rfl

/-- What the widening for a type makes of a value of it: a value with 128 bits, a sign and the same
number, or, if the number is too large for that, the answer that holds for what is above. -/
inductive KeepsNumber (side : Side) (x : MachineInteger pointerBits) :
    Option (Widened pointerBits) → Prop
  | value {converted : MachineInteger pointerBits} (htype : converted.type = .i128)
    (hnumber : converted.number = x.number) : KeepsNumber side x (some (.value converted))
  | answer (hlarge : 2 ^ 127 ≤ x.number) :
    KeepsNumber side x (some (.answer (side == .above)))

theorem keepsNumber_ofType (hpointer : pointerBits ≤ 64) (side : Side)
    (x : MachineInteger pointerBits) :
    KeepsNumber side x ((Widening.ofType side x.type.name).applied? x) := by
  rw [ofType_name]
  split
  · next hwidth =>
    split
    · next hsigned =>
      exact .value (IntegerType.eq_i128 hsigned hwidth) rfl
    · next hsigned =>
      rw [Widening.applied?]
      split
      · next converted hconverted =>
        obtain ⟨htype, hnumber⟩ := number_attempted? hconverted
        exact .value htype hnumber
      · next hnone => exact .answer (le_number_of_attempted? hpointer hnone)
  · next hwidth => exact .value rfl (number_cast hpointer x (by simp [hwidth]))
  · next hwidth hwidth' =>
    have hexact : x.lossless? = some x.cast := if_pos <| by
      simp [show x.type.width ≠ .bits128 from hwidth, show x.type.width ≠ .pointer from hwidth']
    rw [Widening.applied?, hexact]
    exact .value (number_lossless? hpointer hexact).1 (number_lossless? hpointer hexact).2

/-- A number too large for 128 bits with a sign lies above every bound. -/
theorem test_of_le {n : Int} (hlarge : 2 ^ 127 ≤ n) (side : Side) (bound : Int64) :
    side.test n bound.toInt = (side == .above) := by
  have hhi := bound.toInt_lt
  cases side with
  | below => exact decide_eq_false (by omega)
  | above => exact decide_eq_true (show bound.toInt < n by omega)

theorem eval?_ofType (hpointer : pointerBits ≤ 64) (x : MachineInteger pointerBits) (field : String)
    (side : Side) (bound : Int64) :
    (Comparison.mk field (.ofType side x.type.name) side bound).eval? x =
      some (side.test x.number bound.toInt) := by
  have hkeeps := keepsNumber_ofType hpointer side x
  rw [Comparison.eval?]
  generalize Widening.applied? x _ = widened at hkeeps ⊢
  cases hkeeps with
  | value htype hnumber =>
    show MachineInteger.compare? _ side bound.toInt = _
    rw [compare?_wide htype, hnumber]
  | answer hlarge =>
    show some (side == .above) = _
    rw [test_of_le hlarge]

/-! ## Tests on bits and on numbers -/

section Numbers

variable {pointer : PointerWidth}

theorem bits_le (pointer : PointerWidth) : pointer.bits ≤ 64 := by
  cases pointer <;> decide

theorem size_eq (pointer : PointerWidth) (width : IntegerWidth) :
    width.size pointer = 2 ^ width.bitsWith pointer.bits ∧ width.size pointer % 2 = 0 := by
  cases pointer <;> cases width <;> exact ⟨rfl, rfl⟩

theorem bmod_eq_self_iff {n : Int} {m : Nat} (hm : 0 < m) (heven : m % 2 = 0) :
    n.bmod m = n ↔ -((m / 2 : Nat) : Int) ≤ n ∧ n < (m / 2 : Nat) := by
  constructor
  · intro h
    have hlo := Int.le_bmod (x := n) hm
    have hhi := Int.bmod_lt (x := n) hm
    omega
  · rintro ⟨hlo, hhi⟩
    exact Int.bmod_eq_of_le_mul_two (by omega) (by omega)

/-- Bits made of a number stand for it if the type has the number. -/
theorem number_ofInt_eq_iff (type : IntegerType) (n : Int) :
    (⟨type, BitVec.ofInt _ n⟩ : MachineInteger pointer.bits).number = n ↔
      type.admits pointer n = true := by
  obtain ⟨signed, width⟩ := type
  obtain ⟨hsize, heven⟩ := size_eq pointer width
  have hpos : 0 < width.size pointer := hsize ▸ Nat.two_pow_pos _
  cases signed with
  | true =>
    rw [IntegerType.admits_signed, ← bmod_eq_self_iff hpos heven, hsize]
    show (BitVec.ofInt _ n).toInt = n ↔ _
    rw [BitVec.toInt_ofInt]
  | false =>
    rw [IntegerType.admits_unsigned]
    show ((BitVec.ofInt _ n).toNat : Int) = n ↔ _
    rw [BitVec.toNat_ofInt, ← hsize]
    have hlo := Int.emod_nonneg n (b := width.size pointer) (by omega)
    have hhi := Int.emod_lt_of_pos n (b := width.size pointer) (by omega)
    constructor
    · intro h
      omega
    · rintro ⟨hn, hlt⟩
      rw [Int.emod_eq_of_lt hn hlt]
      omega

/-- The number that bits of a type stand for is a value of the type. -/
theorem admits_number (x : MachineInteger pointer.bits) :
    x.type.admits pointer x.number = true := by
  refine (number_ofInt_eq_iff x.type x.number).mp ?_
  obtain ⟨⟨signed, width⟩, bits⟩ := x
  cases signed with
  | true =>
    show (BitVec.ofInt _ bits.toInt).toInt = bits.toInt
    rw [BitVec.ofInt_toInt]
  | false =>
    show ((BitVec.ofInt _ (bits.toNat : Int)).toNat : Int) = bits.toNat
    rw [BitVec.ofInt_natCast, BitVec.ofNat_toNat, BitVec.setWidth_eq]

theorem number_cast_eq_bmod (x : MachineInteger pointer.bits) :
    x.cast.number = Int.bmod x.number (2 ^ 128) := by
  have hpointer := bits_le pointer
  obtain ⟨⟨signed, width⟩, bits⟩ := x
  cases signed with
  | true =>
    obtain ⟨hlo, hhi⟩ := toInt_range hpointer bits
    show (bits.signExtend 128).toInt = bits.toInt.bmod (2 ^ 128)
    rw [BitVec.toInt_signExtend_of_le (bitsWith_le_128 hpointer width),
      Int.bmod_eq_of_le_mul_two (by omega) (by omega)]
  | false => exact BitVec.toInt_setWidth bits

/-- On bits a test has the value that it has on numbers. -/
theorem eval?_eq_value? (c : Comparison) (x : MachineInteger pointer.bits) :
    c.eval? x = c.value? ⟨x.number, admits_number x⟩ := by
  have hpointer := bits_le pointer
  obtain ⟨field, widening, side, bound⟩ := c
  cases widening with
  | none =>
    show x.compare? side bound.toInt =
      if x.type.admits pointer bound.toInt then some (side.test x.number bound.toInt) else none
    by_cases hbound : x.type.admits pointer bound.toInt = true
    · rw [if_pos hbound]
      exact compare?_of_literal x side ((number_ofInt_eq_iff _ _).mpr hbound)
    · rw [if_neg hbound, MachineInteger.compare?, literal?,
        if_neg (mt (number_ofInt_eq_iff _ _).mp hbound)]
      rfl
  | attempt otherwise =>
    have hfits : (BitVec.ofInt 128 x.number).toInt = x.number ↔
        IntegerType.i128.admits pointer x.number = true := number_ofInt_eq_iff .i128 x.number
    show _ = if IntegerType.i128.admits pointer x.number then
      some (side.test x.number bound.toInt) else some otherwise
    by_cases hadmits : IntegerType.i128.admits pointer x.number = true
    · have htry : x.attempted? = some (wide (BitVec.ofInt 128 x.number)) :=
        if_pos (hfits.mpr hadmits)
      rw [if_pos hadmits, Comparison.eval?, Widening.applied?, htry]
      show MachineInteger.compare? _ side bound.toInt = _
      rw [compare?_wide rfl, (number_attempted? htry).2]
    · have htry : x.attempted? = none := if_neg (mt hfits.mp hadmits)
      rw [if_neg hadmits, Comparison.eval?, Widening.applied?, htry]
  | cast =>
    show x.cast.compare? side bound.toInt = _
    rw [compare?_wide rfl, number_cast_eq_bmod]
    rfl
  | exact =>
    show _ = if x.type = .i128 || (x.type.width != .bits128 && x.type.width != .pointer) then
      some (side.test x.number bound.toInt) else none
    cases hexact : x.lossless? with
    | none =>
      rw [Comparison.eval?, Widening.applied?, hexact]
      rw [lossless?] at hexact
      split at hexact
      · cases hexact
      · next hfixed => exact (if_neg hfixed).symm
    | some converted =>
      obtain ⟨htype, hnumber⟩ := number_lossless? hpointer hexact
      rw [Comparison.eval?, Widening.applied?, hexact]
      show converted.compare? side bound.toInt = _
      rw [compare?_wide htype, hnumber]
      rw [lossless?] at hexact
      split at hexact
      · next hfixed => exact (if_pos hfixed).symm
      · cases hexact

end Numbers

/-! ## The test for a type -/

/-- **Comparisons with a bound are exact.** The test written for a type is read back as what is
carried out, and for every value of the type and every bound it says on which side of the bound the
number lies. No conversion on the way changes the number; what is too large for 128 bits with a sign
is above every bound. -/
theorem eval?_exact {pointerBits : Nat} (hpointer : pointerBits ≤ 64)
    (x : MachineInteger pointerBits) {field : String} (hfield : IsFieldName field) (side : Side)
    (bound : Int64) :
    let c : Comparison := ⟨field, .ofType side x.type.name, side, bound⟩
    readGuard (Statement.indent ++ "if " ++ (c.text ++ " \x7b")).toList = some (.compares c) ∧
      (∃ answer, c.eval? x = some answer ∧
        (answer = true ↔
          match side with
          | .below => x.number < bound.toInt
          | .above => bound.toInt < x.number)) ∧
      KeepsNumber side x (c.widening.applied? x) ∧
      (2 ^ 127 ≤ x.number → c.eval? x = some (side == .above)) := by
  intro c
  have heval := eval?_ofType hpointer x field side bound
  refine ⟨readGuard_comparison hfield, ⟨_, heval, ?_⟩, keepsNumber_ofType hpointer side x,
    fun hlarge => ?_⟩
  · cases side <;> simp [Side.test]
  · rw [heval, test_of_le hlarge]

/-- The largest value of the widest type is above a bound, and not below one. -/
theorem eval?_exact_largest :
    (Comparison.mk "big" (.ofType .above "u128") .above 9).eval?
        (⟨.u128, BitVec.allOnes 128⟩ : MachineInteger 64) = some true ∧
      (Comparison.mk "big" (.ofType .below "u128") .below (-2)).eval?
        (⟨.u128, BitVec.allOnes 128⟩ : MachineInteger 64) = some false := by
  have hfield : IsFieldName "big" := ⟨_, rfl⟩
  have hlarge : 2 ^ 127 ≤ (⟨.u128, BitVec.allOnes 128⟩ : MachineInteger 64).number := by decide
  exact ⟨(eval?_exact (Nat.le_refl 64) _ hfield .above 9).2.2.2 hlarge,
    (eval?_exact (Nat.le_refl 64) _ hfield .below (-2)).2.2.2 hlarge⟩

end RequestBinding.Function
