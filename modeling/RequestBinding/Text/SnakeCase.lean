import RequestBinding.Text.LetterCase

/-!
# Snake case

The snake case form of a name: uppercase characters become lowercase, hyphens and spaces become
underscores, and a word that starts inside the name is set off by an underscore.

A word starts at an uppercase character after a lowercase character or an ASCII digit, and at the
last of several uppercase characters when a lowercase one follows: `HTTPRequest` is `http_request`.
-/

namespace RequestBinding.Text

/-- A word starts at an uppercase character that stands between these two. -/
def startsWord (previous next : Option Char) : Bool :=
  match previous with
  | none => false
  | some p => isLower p || isAsciiDigit p || isUpper p && next.any isLower

/--
What one character contributes, `written` being the last character written before it. An underscore
is not doubled.
-/
def snakePiece (previous written : Option Char) (c : Char) (next : Option Char) : List Char :=
  if isUpper c then
    (if startsWord previous next && written != some '_' then ['_'] else []) ++ lowercase c
  else if c == '-' || c == ' ' then ['_']
  else [c]

/-- The snake case form of the rest of a name. -/
def snakeFrom : Option Char → Option Char → List Char → List Char
  | _, _, [] => []
  | previous, written, c :: cs =>
    let piece := snakePiece previous written c cs.head?
    piece ++ snakeFrom (some c) piece.getLast? cs

/-- The snake case form of a name. -/
def snake (cs : List Char) : List Char := snakeFrom none none cs

/-- `snake` on strings. -/
def toSnakeCase (s : String) : String := String.ofList (snake s.toList)

end RequestBinding.Text
