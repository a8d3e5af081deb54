import RequestBinding.Source.Grammar.Item

/-!
# The levels of the grammar

`rules n` are the rules with at most `n` levels of nesting below them. A rule that refers to another
takes a token or goes to a narrower rule, so a few levels for every token are enough.
-/

namespace RequestBinding.Source.Grammar

/-- The rules of a level. -/
def rules : Nat → Rules
  | 0 => Rules.failing
  | n + 1 => {
      type := fun plus s => type (rules n) plus s
      bound := fun allowCapture allowConst s => bound (rules n) allowCapture allowConst s
      pattern := fun s => pattern (rules n) s
      expression := fun structs s => expression (rules n) structs s
      unary := fun structs s => unary (rules n) structs s
      binary := fun structs base left s => binary (rules n) structs base left s
      boundary := fun s => boundary (rules n) s
      statements := fun s => statements (rules n) s
      item := fun since attributes s => item (rules n) since attributes s
      useTree := fun root s => useTree (rules n) root s }

/-- The rules for a source with this many tokens. -/
def rulesFor (tokens : Nat) : Rules := rules (8 * tokens + 32)

end RequestBinding.Source.Grammar
