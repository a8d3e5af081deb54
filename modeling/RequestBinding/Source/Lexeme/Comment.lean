import RequestBinding.Text.Blank

/-!
# Comments and blanks

What may stand between two tokens: blank characters, line comments and block comments, which nest.
Three slashes, or two stars after the slash, start documentation instead; four slashes, three stars
and the empty block comment do not.
-/

namespace RequestBinding.Source.Lexeme

open Text

/-- A beginning of a text and what follows it. -/
abbrev Cut := List Char × List Char

/-- The cut with more at its beginning. -/
def Cut.cons (before : List Char) (cut : Cut) : Cut := (before ++ cut.1, cut.2)

/-- The character is blank between tokens: also the two marks of writing direction. -/
def isSpace (c : Char) : Bool :=
  if c.toNat < 0x80 then c == ' ' || 0x9 ≤ c.toNat && c.toNat ≤ 0xD
  else isBlank c || c.toNat == 0x200E || c.toNat == 0x200F

/-- The rest of a line, without the line feed that ends it and a carriage return before that. -/
def takeLine : List Char → Cut
  | [] => ([], [])
  | '\n' :: cs => ([], '\n' :: cs)
  | '\r' :: '\n' :: cs => ([], '\r' :: '\n' :: cs)
  | c :: cs => Cut.cons [c] (takeLine cs)

/-- A block comment from its start, where `depth` comments are open already. -/
def takeBlock (depth : Nat) : List Char → Option Cut
  | [] => none
  | '/' :: '*' :: cs => (takeBlock (depth + 1) cs).map (Cut.cons ['/', '*'])
  | '*' :: '/' :: cs =>
    if depth ≤ 1 then some (['*', '/'], cs)
    else (takeBlock (depth - 1) cs).map (Cut.cons ['*', '/'])
  | c :: cs => (takeBlock depth cs).map (Cut.cons [c])

/-- A comment that is no documentation. -/
def takeComment : List Char → Option Cut
  | '/' :: '/' :: '/' :: '/' :: cs => some (Cut.cons ['/', '/', '/', '/'] (takeLine cs))
  | '/' :: '/' :: '/' :: _ => none
  | '/' :: '/' :: '!' :: _ => none
  | '/' :: '/' :: cs => some (Cut.cons ['/', '/'] (takeLine cs))
  | '/' :: '*' :: '*' :: '/' :: cs => some (['/', '*', '*', '/'], cs)
  | '/' :: '*' :: '*' :: '*' :: cs => takeBlock 0 ('/' :: '*' :: '*' :: '*' :: cs)
  | '/' :: '*' :: '*' :: _ => none
  | '/' :: '*' :: '!' :: _ => none
  | '/' :: '*' :: cs => takeBlock 0 ('/' :: '*' :: cs)
  | _ => none

/-- A blank character or a comment. -/
def takeBlank : List Char → Option Cut
  | [] => none
  | c :: cs => if isSpace c then some ([c], cs) else takeComment (c :: cs)

/-- The text without blanks and comments at its start. -/
def skipBlanks : List Char → List Char
  | [] => []
  | c :: cs =>
    match takeBlank (c :: cs) with
    | some (text, _) => skipBlanks (cs.drop (text.length - 1))
    | none => c :: cs
termination_by cs => cs.length
decreasing_by simp only [List.length_drop, List.length_cons]; omega

/-! ## Documentation -/

/-- A documentation comment: its text, and whether it belongs to what it stands in. -/
structure Documentation where
  text : List Char
  inner : Bool

/-- Every carriage return of a text stands before a line feed. -/
def returnsPaired : List Char → Bool
  | [] => true
  | '\r' :: '\n' :: cs => returnsPaired cs
  | '\r' :: _ => false
  | _ :: cs => returnsPaired cs

/-- The text of a block comment without the three characters that open it and the two at its end. -/
def blockText (comment : List Char) : List Char := (comment.drop 3).take (comment.length - 5)

/-- A documentation comment at the start of a text, with what it takes. -/
def takeDocumentation (cs : List Char) : Option (Documentation × Cut) :=
  let found : Option (Documentation × Cut) :=
    match cs with
    | '/' :: '/' :: '!' :: rest =>
      let line := takeLine rest
      some (⟨line.1, true⟩, line.cons ['/', '/', '!'])
    | '/' :: '*' :: '!' :: _ => (takeBlock 0 cs).map fun cut => (⟨blockText cut.1, true⟩, cut)
    | '/' :: '/' :: '/' :: '/' :: _ => none
    | '/' :: '/' :: '/' :: rest =>
      let line := takeLine rest
      some (⟨line.1, false⟩, line.cons ['/', '/', '/'])
    | '/' :: '*' :: '*' :: '*' :: _ => none
    | '/' :: '*' :: '*' :: _ => (takeBlock 0 cs).map fun cut => (⟨blockText cut.1, false⟩, cut)
    | _ => none
  found.filter fun f => returnsPaired f.1.text

end RequestBinding.Source.Lexeme
