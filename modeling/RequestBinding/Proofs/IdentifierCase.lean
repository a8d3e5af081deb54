import Mathlib.Data.List.Sort
import Mathlib.Data.List.TakeWhile
import RequestBinding.Text.Identifier
import RequestBinding.Text.SnakeCase

/-!
# Identifiers in snake case

What can stand in an identifier can stand in one in lowercase, and so in snake case. Above ASCII
this is a fact about tables: where the runs of the lowercase mapping lead is in the ranges of
`XID_Continue`. Going through both in ascending order, each range is looked at once
(`CodeRanges.within`).

## Main statements

* `isIdentContinue_of_start` — what starts an identifier can stand in one.
* `isIdentContinue_of_mem_lowercase`, `isIdentContinue_of_mem_snakeFrom` — lowercase and snake case
  keep to the characters of identifiers.
* `hash_mem_snakeFrom` — snake case drops no number sign.
-/

namespace RequestBinding.Text

/-! ## Ranges in ranges -/

/-- Every range lies in one of the others. Both lists ascend, so one pass over the others is enough:
each takes away the ranges in it. -/
def CodeRanges.within (ranges : CodeRanges) : CodeRanges → Bool
  | [] => ranges.isEmpty
  | outer :: more => within (ranges.dropWhile fun r => outer.1.ble r.1 && r.2.ble outer.2) more

theorem CodeRanges.exists_of_within {ranges others : CodeRanges}
    (h : ranges.within others = true) :
    ∀ r ∈ ranges, ∃ outer ∈ others, outer.1 ≤ r.1 ∧ r.2 ≤ outer.2 := by
  induction others generalizing ranges with
  | nil =>
    intro r hr
    rw [List.isEmpty_iff.mp h] at hr
    cases hr
  | cons outer more ih =>
    intro r hr
    rw [← List.takeWhile_append_dropWhile (p := fun r => outer.1.ble r.1 && r.2.ble outer.2)
      (l := ranges)] at hr
    rcases List.mem_append.mp hr with hr | hr
    · refine ⟨outer, List.mem_cons_self, ?_⟩
      simpa using List.mem_takeWhile_imp hr
    · obtain ⟨outer', houter, hin⟩ := ih h r hr
      exact ⟨outer', List.mem_cons_of_mem _ houter, hin⟩

/-! ## Characters of identifiers -/

theorem isIdentContinue_of_start {c : Char} (h : isIdentStart c = true) :
    isIdentContinue c = true := by
  have hranges : Table.identifierStart.within Table.identifierContinue = true := by decide +kernel
  rw [isIdentStart] at h
  rw [isIdentContinue]
  split
  · next hascii =>
    rw [if_pos hascii] at h
    rcases Bool.or_eq_true_iff.mp h with h | h
    · simp [isAsciiAlphanumeric, h]
    · simp [h]
  · next hascii =>
    rw [if_neg hascii] at h
    obtain ⟨r, hr, hlow, hhigh⟩ := CodeRanges.has_eq_true_iff.mp h
    obtain ⟨outer, houter, hfirst, hlast⟩ := CodeRanges.exists_of_within hranges r hr
    exact CodeRanges.has_eq_true_iff.mpr ⟨outer, houter, by omega, by omega⟩

/-- The code points of the table above ASCII are those of characters. -/
theorem isIdentContinue_ofNat {n : Nat} (h : Table.identifierContinue.has n = true) :
    isIdentContinue (Char.ofNat n) = true := by
  have hvalid : Table.identifierContinue.all (fun r => Nat.ble 0x80 r.1 &&
      (r.2.blt 0xD800 || (Nat.blt 0xDFFF r.1 && r.2.blt 0x110000))) = true := by decide +kernel
  obtain ⟨r, hr, hlow, hhigh⟩ := CodeRanges.has_eq_true_iff.mp h
  have hr := List.all_eq_true.mp hvalid r hr
  simp only [Bool.and_eq_true, Bool.or_eq_true, Nat.ble_eq, Nat.blt_eq] at hr
  have hchar : n.isValidChar := by
    rw [Nat.isValidChar]
    omega
  have hnat : (Char.ofNat n).toNat = n := by
    rw [Char.ofNat, dif_pos hchar]
    rfl
  rw [isIdentContinue, hnat, if_neg (by omega)]
  exact h

/-- The code points to which a run maps. -/
def MappingRun.image (run : MappingRun) : Nat × Nat :=
  ((run.first + run.distance).toNat, (run.last + run.distance).toNat)

/-- The run of the Kelvin sign, which maps to a letter of ASCII, or that of the letters in circles,
which stand in no identifier. -/
def MappingRun.isSpecial (run : MappingRun) : Bool := run.first == 0x212A || run.first == 0x24B6

/-- The code points to which all other runs map, in ascending order. -/
def lowercaseImages : CodeRanges :=
  ((Table.lowercaseRuns.filter (!·.isSpecial)).map MappingRun.image).insertionSort fun a b =>
    a.1.ble b.1 = true

theorem image_mem_lowercaseImages {run : MappingRun} (hrun : run ∈ Table.lowercaseRuns)
    (hspecial : run.isSpecial = false) : run.image ∈ lowercaseImages :=
  (List.mem_insertionSort _).mpr
    (List.mem_map_of_mem (List.mem_filter.mpr ⟨hrun, by simp [hspecial]⟩))

/-- A run maps characters of identifiers to such characters. -/
theorem isIdentContinue_of_covers {run : MappingRun} (hrun : run ∈ Table.lowercaseRuns) {n : Nat}
    (hcovers : run.covers n = true) (hn : Table.identifierContinue.has n = true) :
    isIdentContinue (Char.ofNat (n + run.distance).toNat) = true := by
  have himages : lowercaseImages.within Table.identifierContinue = true := by decide +kernel
  have hspecial : ∀ run ∈ Table.lowercaseRuns, run.isSpecial = true →
      run = ⟨0x212A, 0x212A, 1, -8383⟩ ∨ run = ⟨0x24B6, 0x24CF, 1, 26⟩ := by decide +kernel
  have hcircled : Table.identifierContinue.all (fun r => r.2.blt 0x24B6 || Nat.blt 0x24CF r.1) =
      true := by decide +kernel
  simp only [MappingRun.covers, Bool.and_eq_true, decide_eq_true_eq] at hcovers
  obtain ⟨r, hr, hlow, hhigh⟩ := CodeRanges.has_eq_true_iff.mp hn
  by_cases his : run.isSpecial = true
  · rcases hspecial run hrun his with rfl | rfl
    · obtain rfl : n = 0x212A := Nat.le_antisymm hcovers.1.2 hcovers.1.1
      decide
    · have hcovers : 0x24B6 ≤ n ∧ n ≤ 0x24CF := hcovers.1
      have hr := List.all_eq_true.mp hcircled r hr
      simp only [Bool.or_eq_true, Nat.blt_eq] at hr
      omega
  · obtain ⟨outer, houter, hfirst, hlast⟩ := CodeRanges.exists_of_within himages _
      (image_mem_lowercaseImages hrun (by simpa using his))
    have hfirst : outer.1 ≤ (run.first + run.distance).toNat := hfirst
    have hlast : (run.last + run.distance).toNat ≤ outer.2 := hlast
    exact isIdentContinue_ofNat
      (CodeRanges.has_eq_true_iff.mpr ⟨outer, houter, by omega, by omega⟩)

/-- The letters of ASCII become letters. -/
theorem isIdentContinue_of_letter {c : Char} (h : ('A' ≤ c && c ≤ 'Z') = true) :
    isIdentContinue (Char.ofNat (c.toNat + 32)) = true := by
  have hall : ∀ i ∈ List.range 26, isIdentContinue (Char.ofNat (65 + i + 32)) = true := by decide
  obtain ⟨hlow, hhigh⟩ := Bool.and_eq_true_iff.mp h
  have hlow : 65 ≤ c.toNat := of_decide_eq_true hlow
  have hhigh : c.toNat ≤ 90 := of_decide_eq_true hhigh
  have hc := hall (c.toNat - 65) (List.mem_range.mpr (by omega))
  rwa [Nat.add_sub_cancel' hlow] at hc

/-- The lowercase text of a character of identifiers is of such characters. -/
theorem isIdentContinue_of_mem_lowercase {c d : Char} (hc : isIdentContinue c = true)
    (h : d ∈ lowercase c) : isIdentContinue d = true := by
  by_cases hlow : c.toNat < 0x80
  · rw [lowercase, if_pos hlow, List.mem_singleton] at h
    rw [h]
    split
    · next hletter => exact isIdentContinue_of_letter hletter
    · exact hc
  · rw [isIdentContinue, if_neg hlow] at hc
    rw [lowercase, if_neg hlow] at h
    split at h
    · rcases List.mem_cons.mp h with rfl | h
      · decide
      · rw [List.mem_singleton.mp h]
        decide +kernel
    · rw [List.mem_singleton.mp h, mapCode]
      split
      · next run hfind =>
        have hcovers := List.find?_some hfind
        exact isIdentContinue_of_covers (List.mem_of_find?_eq_some hfind) hcovers hc
      · exact isIdentContinue_ofNat hc

/-! ## Snake case -/

/-- The snake case form of what can stand in an identifier can stand in one. -/
theorem isIdentContinue_of_mem_snakeFrom {cs : List Char}
    (h : ∀ c ∈ cs, isIdentContinue c = true) :
    ∀ {previous written : Option Char}, ∀ d ∈ snakeFrom previous written cs,
      isIdentContinue d = true := by
  induction cs with
  | nil =>
    intro previous written d hd
    cases hd
  | cons c cs ih =>
    intro previous written d hd
    rw [snakeFrom] at hd
    rcases List.mem_append.mp hd with hd | hd
    · rw [snakePiece] at hd
      split at hd
      · rcases List.mem_append.mp hd with hd | hd
        · split at hd
          · rw [List.mem_singleton.mp hd]
            decide
          · cases hd
        · exact isIdentContinue_of_mem_lowercase (h c List.mem_cons_self) hd
      · split at hd
        · rw [List.mem_singleton.mp hd]
          decide
        · rw [List.mem_singleton.mp hd]
          exact h c List.mem_cons_self
    · exact ih (fun c hc => h c (.tail _ hc)) d hd

/-- A number sign stays in the snake case form. -/
theorem hash_mem_snakeFrom {cs : List Char} (h : '#' ∈ cs) :
    ∀ {previous written : Option Char}, '#' ∈ snakeFrom previous written cs := by
  induction cs with
  | nil => cases h
  | cons c cs ih =>
    intro previous written
    rw [snakeFrom]
    rcases List.mem_cons.mp h with rfl | h
    · have hpiece (next : Option Char) : snakePiece previous written '#' next = ['#'] := by
        rw [snakePiece, if_neg (by decide), if_neg (by decide)]
      exact List.mem_append_left _ (by rw [hpiece]; exact List.mem_cons_self)
    · exact List.mem_append_right _ (ih h)

end RequestBinding.Text
