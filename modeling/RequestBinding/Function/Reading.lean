import RequestBinding.Function.Body
import RequestBinding.Function.Meaning
import RequestBinding.Source.Lexeme.StringValue
import RequestBinding.Source.Word

/-!
# Reading function bodies

The text of a function body as a program. `readBody` takes the lines of a text as statements, up to
the line of the answer; `runText` runs what was read.

## The written form

```
body       ::= line* '    Ok(())'
line       ::= '    ' (comment | fetch | assignment) | guard
guard      ::= '    if ' test ' {'  '        ' (failure | assignment)  '    }'
```

Names are words of a source, texts are string literals of a source, bounds are 64-bit integers.
-/

namespace RequestBinding.Function

open Source

variable {pointer : PointerWidth}

/-! ## Parts of a line -/

/-- The text after a beginning. -/
def after? (start : String) (cs : List Char) : Option (List Char) := start.toList.isPrefixOf? cs

/-- Something, if the text is this end. -/
def ending (tail : String) (found : α) (cs : List Char) : Option α :=
  match after? tail cs with
  | some [] => some found
  | _ => none

/-- The name of a field. -/
def takeField (cs : List Char) : Option (String × List Char) :=
  (Word.take cs).map fun found => (found.1.text, found.2)

/-- The value of a string literal. -/
def takeText (cs : List Char) : Option (String × List Char) :=
  (Lexeme.takeString cs).map fun cut => (String.ofList (Lexeme.stringValue cut.1), cut.2)

def isNumeralChar (c : Char) : Bool := c.isDigit || c == '-'

def takeBound (cs : List Char) : Option (Int64 × List Char) :=
  (Text.readInt64 (cs.takeWhile isNumeralChar)).map fun n => (n, cs.dropWhile isNumeralChar)

def takeSide : List Char → Option (Side × List Char)
  | '<' :: cs => some (.below, cs)
  | '>' :: cs => some (.above, cs)
  | _ => none

/-- A side, a space and a bound. -/
def takeOperand (cs : List Char) : Option (Side × Int64 × List Char) := do
  let (side, cs) ← takeSide cs
  let (bound, cs) ← takeBound (← after? " " cs)
  return (side, bound, cs)

/-- The call of the helper for this source. -/
def takeCall (source : BindSource) (cs : List Char) : Option (Lookup × List Char) := do
  let (key, cs) ← takeText (← after? (helperCall source) cs)
  return (⟨source, key⟩, ← after? ")" cs)

def takeLookup (cs : List Char) : Option (Lookup × List Char) :=
  takeCall .header cs <|> takeCall .query cs <|> takeCall .path cs

/-! ## Lines -/

/-- An assignment to a field, from after its `s.`. -/
def readAssignment (cs : List Char) : Option Statement := do
  let (field, cs) ← takeField cs
  let cs ← after? " = " cs
  let stored := do
    let (lookup, cs) ← takeLookup cs
    ending ";" (Statement.store field lookup) cs
  let converted := do
    let (key, cs) ← takeText (← after? "parse_integer(&raw, " cs)
    ending ")?;" (Statement.convert field key) cs
  stored <|> converted

/-- A statement that stands on one line. -/
def readSimple (line : List Char) : Option Statement := do
  let cs ← after? Statement.indent line
  let comment := (after? "// " cs).map fun text => Statement.remark (String.ofList text)
  let fetched := do
    let (lookup, cs) ← takeLookup (← after? "let raw = " cs)
    ending ";" (Statement.fetch lookup) cs
  let assigned := do readAssignment (← after? "s." cs)
  comment <|> fetched <|> assigned

/-- What a guard tests. -/
inductive Guard where
  /-- The text is empty. -/
  | absent (tested : Tested)
  /-- The text at hand is not empty. -/
  | present
  | compares (comparison : Comparison)

/-- A comparison that writes this before and after the name of its field. -/
def readComparison (widening : Widening) (before after : String) (cs : List Char) :
    Option Guard := do
  let (field, cs) ← takeField (← after? before cs)
  let (side, bound, cs) ← takeOperand (← after? after cs)
  ending " \x7b" (Guard.compares ⟨field, widening, side, bound⟩) cs

/-- A comparison of what may be too large. -/
def readAttempt (otherwise : Bool) (word : String) (cs : List Char) : Option Guard := do
  let (field, cs) ← takeField (← after? "i128::try_from(s." cs)
  let (side, bound, cs) ← takeOperand (← after? (").map_or(" ++ word ++ ", |v| v ") cs)
  ending " \x7b" (Guard.compares ⟨field, .attempt otherwise, side, bound⟩) (← after? ")" cs)

/-- The first line of a guard. -/
def readGuard (line : List Char) : Option Guard := do
  let cs ← after? "if " (← after? Statement.indent line)
  let absentField := do
    let (field, cs) ← takeField (← after? "s." cs)
    ending ".is_empty() \x7b" (Guard.absent (.field field)) cs
  ending "!raw.is_empty() \x7b" Guard.present cs
    <|> ending "raw.is_empty() \x7b" (Guard.absent .raw) cs
    <|> absentField
    <|> readComparison .none "s." " " cs
    <|> readComparison .cast "(s." " as i128) " cs
    <|> readComparison .exact "i128::from(s." ") " cs
    <|> readAttempt true "true" cs
    <|> readAttempt false "false" cs

/-- The message with which a line leaves the function. -/
def readFailure (cs : List Char) : Option String := do
  let (message, cs) ← takeText (← after? "return Err(" cs)
  ending ".to_string());" message cs

/-- The statement that a guard makes with the line in it. -/
def readGuarded (guard : Guard) (line : List Char) : Option Statement := do
  let cs ← after? Statement.indent (← after? Statement.indent line)
  match guard with
  | .absent tested => (readFailure cs).map (.demand tested)
  | .compares comparison => (readFailure cs).map (.refuse comparison)
  | .present =>
    match ← readAssignment (← after? "s." cs) with
    | .convert field key => some (.convertPresent field key)
    | _ => none

/-! ## Bodies -/

/-- The lines of a body, and nothing after the answer. -/
def readLines : List (List Char) → Option (List Statement)
  | [] => none
  | line :: more =>
    match readSimple line with
    | some statement => (readLines more).map (statement :: ·)
    | none =>
      match readGuard line, more with
      | some guard, inner :: close :: more =>
        if close = (Statement.indent ++ "\x7d").toList then do
          let statement ← readGuarded guard inner
          (readLines more).map (statement :: ·)
        else none
      | some _, _ => none
      | none, more => if line = answerLine.toList ∧ more = [[]] then some [] else none

/-- The statements of the text of a body. -/
def readBody (text : String) : Option (List Statement) :=
  readLines (Text.pieces '\n' text.toList)

/-- What the text of a body does with a struct: what it leaves of it, and its message if it fails. -/
def runText (request : Request) (s : Struct pointer) (text : String) :
    Option (Struct pointer × Option String) :=
  (readBody text).bind fun body =>
    (runBody request ⟨s, none⟩ body).map fun outcome => (outcome.1.fields, outcome.2)

end RequestBinding.Function
