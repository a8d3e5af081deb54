/-!
# Sets and mappings of code points

The data of a Unicode property is a list of ranges (`CodeRanges`); that of a case mapping is a list
of runs (`MappingRun`). The tables themselves are in `RequestBinding/Text/Table`.
-/

namespace RequestBinding.Text

/-- Inclusive ranges of code points. -/
abbrev CodeRanges := List (Nat × Nat)

/-- The code point lies in one of the ranges. -/
def CodeRanges.has (ranges : CodeRanges) (n : Nat) : Bool :=
  ranges.any fun r => r.1 ≤ n && n ≤ r.2

theorem CodeRanges.has_eq_true_iff {ranges : CodeRanges} {n : Nat} :
    ranges.has n = true ↔ ∃ r ∈ ranges, r.1 ≤ n ∧ n ≤ r.2 := by
  simp [CodeRanges.has]

/-- Code points from `first` to `last` in steps of `step`, each mapped `distance` further on. -/
structure MappingRun where
  first : Nat
  last : Nat
  step : Nat
  distance : Int
deriving Repr, DecidableEq

/-- The run maps this code point. -/
def MappingRun.covers (run : MappingRun) (n : Nat) : Bool :=
  run.first ≤ n && n ≤ run.last && (n - run.first) % run.step == 0

/-- The code point to which the first covering run maps `n`; without one, `n` itself. -/
def mapCode (runs : List MappingRun) (n : Nat) : Nat :=
  match runs.find? (·.covers n) with
  | some run => (n + run.distance).toNat
  | none => n

end RequestBinding.Text
