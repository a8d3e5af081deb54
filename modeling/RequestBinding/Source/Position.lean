/-!
# Positions in a source

A position is a line and a column, both from one; columns count characters. A carriage return before
a line feed takes a column of its line like any other character.
-/

namespace RequestBinding.Source

structure Position where
  line : Nat
  column : Nat
deriving Repr, DecidableEq

namespace Position

/-- The first character of a text. -/
def start : Position := ⟨1, 1⟩

/-- The position after a character. -/
def after (p : Position) (c : Char) : Position :=
  if c = '\n' then ⟨p.line + 1, 1⟩ else ⟨p.line, p.column + 1⟩

/-- The position after a text. -/
def afterText (p : Position) (cs : List Char) : Position := cs.foldl after p

end Position

end RequestBinding.Source
