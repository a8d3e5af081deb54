import RequestBinding.Source.Problem
import RequestBinding.Source.Declaration
import RequestBinding.Source.Lexeme

/-!
# Parsers

A parser reads token trees from the front of a list. While it reads it keeps three things beside the
rest: what it has read in printed order (`printed`), the declarations it has come across (`found`),
and the first token that was left over in a group (`leftover`). All lists have the last element
first.

## Printed tokens

What is printed is not always what was written: a mark of several characters is always joint, two
marks that only stood side by side are not. `verbatim` keeps the written tokens instead.
-/

namespace RequestBinding.Source

structure ParserState where
  rest : List TokenTree
  /-- Where the tokens end: the closing delimiter of the group. -/
  stop : Position
  printed : List TokenTree
  found : List Declaration
  leftover : Option SourceError

abbrev Parser := StateT ParserState (Except SourceError)

namespace ParserState

/-- The place of the next token. -/
def position (s : ParserState) : Position :=
  match s.rest with
  | [] => s.stop
  | tree :: _ => tree.position

end ParserState

/-! ## Looking ahead -/

/-- The first characters of the tokens, with the tokens after them, are this mark. -/
def startsMark : List Char → List TokenTree → Bool
  | [], _ => true
  | [c], .mark _ d _ :: _ => c == d.val && c != '\''
  | c :: more, .mark _ d joint :: rest => c == d.val && c != '\'' && joint && startsMark more rest
  | _, _ => false

/-- The tokens without the first one; a lifetime counts as one. -/
def skipTree : List TokenTree → List TokenTree
  | .mark _ ⟨'\'', _⟩ true :: .word _ _ :: rest => rest
  | _ :: rest => rest
  | [] => []

/-- The literal is a string. -/
def isStringText (text : String) : Bool :=
  match text.toList with
  | '"' :: _ => true
  | 'r' :: '"' :: _ => true
  | 'r' :: '#' :: _ => true
  | _ => false

/-- The literal is a number. -/
def isNumberText (text : String) : Bool := text.toList.head?.any Text.isAsciiDigit

/-- The literal is a number with a dot or an exponent. -/
def isFloatText (text : String) : Bool :=
  match text.toList with
  | '0' :: 'x' :: _ => false
  | '0' :: 'o' :: _ => false
  | '0' :: 'b' :: _ => false
  | cs => isNumberText text &&
    match cs.dropWhile Lexeme.isDigitOrUnderscore with
    | '.' :: _ => true
    | 'e' :: rest => (Lexeme.takeExponent false rest).isSome
    | 'E' :: rest => (Lexeme.takeExponent false rest).isSome
    | _ => false

/-- What is expected stands at the front of the tokens. -/
def Expectation.holds : Expectation → List TokenTree → Bool
  | mark text, trees => startsMark text.toList trees
  | word text, .word _ here :: _ => here.isPlain text
  | identifier, .word _ here :: _ => here.isName
  | lifetime, .mark _ ⟨'\'', _⟩ true :: .word _ _ :: _ => true
  | literal, .literal _ _ :: _ => true
  | literal, .word _ here :: _ => here.isPlain "true" || here.isPlain "false"
  | literal, .mark _ ⟨'-', _⟩ _ :: .literal _ text :: _ => isNumberText text
  | stringLiteral, .literal _ text :: _ => isStringText text
  | group delimiter, .group _ d _ _ :: _ => d == delimiter
  | anyGroup, .group _ _ _ _ :: _ => true
  | _, _ => false

namespace Parser

/-- The tokens that are left. -/
def rest : Parser (List TokenTree) := return (← get).rest

def position : Parser Position := return (← get).position

def atEnd : Parser Bool := return (← get).rest.isEmpty

/-- The expectation is met. -/
def peek (e : Expectation) : Parser Bool := return e.holds (← rest)

/-- One of the expectations is met. -/
def peekAny (es : List Expectation) : Parser Bool := return es.any (·.holds (← get).rest)

/-- A word stands here, which may be a keyword. -/
def peekWord : Parser Bool := do
  match ← rest with
  | .word _ _ :: _ => return true
  | _ => return false

/-- The expectation is met after the first token. -/
def peek2 (e : Expectation) : Parser Bool := return e.holds (skipTree (← rest))

/-- The expectation is met after the first two tokens. -/
def peek3 (e : Expectation) : Parser Bool := return e.holds (skipTree (skipTree (← rest)))

/-- This mark stands here and is not the start of one of the others. -/
def peekMark (text : String) (others : List String) : Parser Bool := do
  let trees ← rest
  return startsMark text.toList trees && !others.any fun other => startsMark other.toList trees

/-! ## Failing -/

/-- Fails with a problem at a place inside the tokens. -/
def failAt (position : Position) (problem : Problem) : Parser α :=
  throw ⟨position, false, problem⟩

/-- Fails with a problem at the next token or at the end. -/
def fail (problem : Problem) : Parser α := do
  let s ← get
  throw ⟨s.position, s.rest.isEmpty, problem⟩

/-- Fails because none of these is met; those that are met were refused for another reason. -/
def refuse (es : List Expectation) : Parser α := do
  let trees ← rest
  fail (.expected (es.filter fun e => !e.holds trees))

/-- The result of a parser, or none and no effect if it fails. -/
def attempt (p : Parser α) : Parser (Option α) := fun s =>
  match p s with
  | .ok (a, t) => .ok (some a, t)
  | .error _ => .ok (none, s)

/-- The parser would succeed here. -/
def wouldSucceed (p : Parser α) : Parser Bool := fun s =>
  match p s with
  | .ok _ => .ok (true, s)
  | .error _ => .ok (false, s)

/-! ## Taking tokens -/

/-- Goes on to these tokens. -/
def advance (trees : List TokenTree) : Parser Unit := modify fun s => { s with rest := trees }

/-- Adds a token to what is printed. -/
def print (tree : TokenTree) : Parser Unit :=
  modify fun s => { s with printed := tree :: s.printed }

/-- The first so many marks as one mark is printed: all but the last are joint. -/
def printedMarks : Nat → List TokenTree → List TokenTree
  | 1, .mark p c _ :: _ => [.mark p c false]
  | n + 1, .mark p c _ :: more => .mark p c true :: printedMarks n more
  | _, _ => []

/-- Takes a mark. -/
def mark (text : String) : Parser Unit := do
  let s ← get
  if startsMark text.toList s.rest then
    let tokens := printedMarks text.length s.rest
    set { s with rest := s.rest.drop text.length, printed := tokens.reverse ++ s.printed }
  else failAt s.position (.expected [.mark text])

/-- Takes a keyword. -/
def word (text : String) : Parser Unit := do
  match ← rest with
  | .word p here :: more =>
    if here.isPlain text then
      advance more
      print (.word p here)
    else fail (.expected [.word text])
  | _ => fail (.expected [.word text])

/-- Takes the mark if it stands here. -/
def mark? (text : String) : Parser Bool := do
  let here ← peek (.mark text)
  if here then mark text
  return here

/-- Takes the keyword if it stands here. -/
def word? (text : String) : Parser Bool := do
  let here ← peek (.word text)
  if here then word text
  return here

/-- Takes a word that may be a keyword. -/
def anyWord : Parser Word := do
  match ← rest with
  | .word p here :: more =>
    advance more
    print (.word p here)
    return here
  | _ => fail (.expected [.identifier])

/-- Takes a name. -/
def identifier : Parser Word := do
  match ← rest with
  | .word _ here :: _ =>
    if here.isName then anyWord
    else fail (.keyword here.name)
  | _ => fail (.expected [.identifier])

/-- Takes a lifetime. -/
def lifetime : Parser Unit := do
  match ← rest with
  | .mark p ⟨'\'', isMark⟩ true :: .word q name :: more =>
    advance more
    print (.mark p ⟨'\'', isMark⟩ true)
    print (.word q name)
  | _ => fail (.expected [.lifetime])

/-- Takes the lifetime that stands here, if any. -/
def lifetime? : Parser Bool := do
  let here ← peek .lifetime
  if here then lifetime
  return here

/-- Takes a literal, a number with its minus sign. -/
def literal : Parser String := do
  if ← peek .literal then
    match ← rest with
    | .mark p _ _ :: .literal q text :: more =>
      advance more
      print (.mark p .minus false)
      print (.literal q text)
      return "-" ++ text
    | tree :: more =>
      advance more
      print tree
      return tree.print
    | [] => fail (.expected [.literal])
  else fail (.expected [.literal])

/-- Takes a group with any delimiter, its tokens as they are written. -/
def anyGroup : Parser (Delimiter × List TokenTree × Position) := do
  match ← rest with
  | .group p d inner close :: more =>
    advance more
    print (.group p d inner close)
    return (d, inner, close)
  | _ => fail (.expected [.anyGroup])

/-! ## Groups -/

/-- Notes the first token that is left over in a group, unless one was noted before. -/
def noteLeftover (delimiter : Delimiter) (s : ParserState) : Option SourceError :=
  match s.leftover, s.rest with
  | none, tree :: _ => some ⟨tree.position, false, .leftover (some delimiter)⟩
  | noted, _ => noted

/-- Reads what is inside a group. -/
def group (delimiter : Delimiter) (p : Parser α) : Parser α := do
  let s ← get
  match s.rest with
  | .group here d inner close :: more =>
    if d = delimiter then
      match p { s with rest := inner, stop := close, printed := [] } with
      | .error e => throw e
      | .ok (a, t) =>
        set { t with
          rest := more, stop := s.stop, leftover := noteLeftover delimiter t
          printed := .group here d t.printed.reverse close :: s.printed }
        return a
    else fail (.expected [.group delimiter])
  | _ => fail (.expected [.group delimiter])

/-! ## Repeating -/

/-- Steps until one says that it is the last, at most so many times. -/
def iterateUpTo (step : α → Parser (Option α)) : Nat → α → Parser α
  | 0, a => return a
  | n + 1, a => do
    match ← step a with
    | none => return a
    | some b => iterateUpTo step n b

/-- Steps until one says that it is the last; every other step takes a token. -/
def iterate (step : α → Parser (Option α)) (a : α) : Parser α := do
  iterateUpTo step ((← rest).length + 1) a

/-- What a parser reads again and again until it says that there is no more. -/
def many (p : Parser (Option α)) : Parser (List α) := do
  let all ← iterate (fun (done : List α) => return (← p).map (· :: done)) []
  return all.reverse

/-- Repeats while the parser says to go on. -/
def loop (p : Parser Bool) : Parser Unit := do
  iterate (fun (_ : Unit) => return if ← p then some () else none) ()

/-- What a parser reads until the end of the tokens. -/
def untilEnd (p : Parser α) : Parser (List α) :=
  many do if ← atEnd then return none else return some (← p)

/-- What a parser reads between commas until the end of the tokens; a last comma may follow. -/
def separated (p : Parser α) : Parser (List α) := do
  let step := fun (state : Bool × List α) => do
    if state.1 then return none
    else if ← atEnd then return none
    else
      let a ← p
      if ← atEnd then return some (true, a :: state.2)
      mark ","
      return some (false, a :: state.2)
  return (← iterate step (false, [])).2.reverse

/-! ## What is kept -/

/-- A parser with the tokens it prints. -/
def captured (p : Parser α) : Parser (α × List TokenTree) := do
  let before := (← get).printed
  modify fun s => { s with printed := [] }
  let a ← p
  let tokens := (← get).printed
  modify fun s => { s with printed := tokens ++ before }
  return (a, tokens.reverse)

/-- A parser without what it prints. -/
def unprinted (p : Parser α) : Parser α := do
  let before := (← get).printed
  let a ← p
  modify fun s => { s with printed := before }
  return a

/-- A parser with the declarations it finds, which are not kept. -/
def collected (p : Parser α) : Parser (α × List Declaration) := do
  let before := (← get).found
  modify fun s => { s with found := [] }
  let a ← p
  let inner := (← get).found
  modify fun s => { s with found := before }
  return (a, inner.reverse)

/-- Adds a declaration. -/
def declare (declaration : Declaration) : Parser Unit :=
  modify fun s => { s with found := declaration :: s.found }

/-- Keeps what was read since a state as it was written, and no declaration in it. -/
def verbatim (since : ParserState) : Parser Unit := modify fun s =>
  let tokens := since.rest.take (since.rest.length - s.rest.length)
  { s with printed := tokens.reverse ++ since.printed, found := since.found }

end Parser

end RequestBinding.Source
