import RequestBinding.Source.Token
import RequestBinding.Source.Lexeme.Literal
import RequestBinding.Text.Quoted

/-!
# Lexemes

A source is a sequence of lexemes: blanks and comments, documentation, delimiters, words, marks and
literals. `readLexeme` takes the first one.

## Priority

Literals come before words, so that `b"x"` is a string; a word never starts like a string that is
none (`r"`, `b'`). A single quote is a mark before a name that no quote ends: a lifetime.
-/

namespace RequestBinding.Source

open Text

namespace Lexeme

/-! ## Words -/

/-- Beginnings of strings, with which no word starts. -/
def stringStarts : List String :=
  ["r\"", "r#\"", "r##", "b\"", "b'", "br\"", "br#", "c\"", "cr\"", "cr#"]

/-! ## Marks -/

/-- The mark at the start of the text; the start of a comment is none. -/
def markAt? : List Char → Option Mark
  | '/' :: '/' :: _ => none
  | '/' :: '*' :: _ => none
  | c :: _ => if isMark : c ∈ punctuation then some ⟨c, isMark⟩ else none
  | [] => none

/-- The text after a single quote is that of a lifetime. -/
def startsLifetime (cs : List Char) : Bool :=
  match Word.take cs with
  | some (word, after) => after.head? != some '\'' && (word.raw || after.head? != some '#')
  | none => false

/-- A mark, and whether it is joint: before another mark, and always before a lifetime's name. -/
def takeMark (cs : List Char) : Option (Mark × Bool) :=
  match markAt? cs with
  | none => none
  | some mark =>
    if mark.val != '\'' then some (mark, (markAt? cs.tail).isSome)
    else if startsLifetime cs.tail then some (mark, true)
    else none

/-- The text that stands for tokens that could not be printed; it is read as a literal. -/
def errorText : List Char := "(/*ERROR*/)".toList

end Lexeme

inductive Lexeme where
  | blank
  | documentation (comment : Lexeme.Documentation)
  | opening (delimiter : Delimiter)
  | closing (delimiter : Delimiter)
  | word (word : Word)
  | mark (mark : Mark) (joint : Bool)
  | literal

namespace Lexeme

/-- A blank or a documentation comment with its text. -/
def takeSpacing (cs : List Char) : Option (Lexeme × List Char) :=
  (takeBlank cs).map (fun cut => (blank, cut.1))
    <|> (takeDocumentation cs).map (fun found => (documentation found.1, found.2.1))

/-- A delimiter with its text. -/
def takeDelimiter : List Char → Option (Lexeme × List Char)
  | [] => none
  | c :: cs =>
    if errorText.isPrefixOf (c :: cs) then none
    else (Delimiter.ofOpening? c).map (fun d => (opening d, [c]))
      <|> (Delimiter.ofClosing? c).map (fun d => (closing d, [c]))

/-- A literal, mark or word with its text. -/
def takeLeaf (cs : List Char) : Option (Lexeme × List Char) :=
  (takeLiteral cs).map (fun cut => (literal, cut.1))
    <|> (takeMark cs).map (fun found => (mark found.1 found.2, [found.1.val]))
    <|> (if stringStarts.any fun start => start.toList.isPrefixOf cs then none
      else (Word.take cs).map fun found => (word found.1, found.1.text.toList))
    <|> (if errorText.isPrefixOf cs then some (literal, errorText) else none)

/-- The first lexeme of a text with its own text. -/
def read (cs : List Char) : Option (Lexeme × List Char) :=
  takeSpacing cs <|> takeDelimiter cs <|> takeLeaf cs

end Lexeme

end RequestBinding.Source
