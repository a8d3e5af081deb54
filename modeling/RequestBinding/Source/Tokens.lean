import RequestBinding.Source.Lexeme

/-!
# The token trees of a source

`readTokens` turns a text into token trees. Documentation comments become the attributes
`#[doc = "…"]` and `#![doc = "…"]`.

## Failures

A text that has no token trees is refused at one position: a lexeme that is none, a closing
delimiter that closes nothing or the wrong one, and at the end of the text the innermost delimiter
that is still open.

## Termination

No fuel: every step takes at least one character from the text.
-/

namespace RequestBinding.Source

open Text

/-- The byte order mark, which may stand before a text. -/
def byteOrderMark : Char := '\ufeff'

/-- The characters of a documentation comment as the content of a string literal. -/
def docContent : List Char → List Char
  | [] => []
  | c :: cs =>
    let octalNext := cs.head?.any fun d => '0' ≤ d && d ≤ '7'
    if c = '\x00' && octalNext then '\\' :: 'x' :: '0' :: '0' :: docContent cs
    else quoteChar c ++ docContent cs

/-- The tokens of the attribute that a documentation comment stands for. -/
def docTokens (position : Position) (comment : Lexeme.Documentation) : List TokenTree :=
  let text := String.ofList ('"' :: docContent comment.text ++ ['"'])
  .mark position .hash false :: (if comment.inner then [.mark position .bang false] else []) ++
    [.group position .bracket
      [.word position .doc, .mark position .equals false, .literal position text] position]

/-- A delimiter that is open, with the tokens before it, the last first. -/
structure Opened where
  position : Position
  delimiter : Delimiter
  before : List TokenTree

/-- The state between two lexemes: what is open, and the tokens since then, the last first. -/
structure Reading where
  position : Position
  opened : List Opened
  tokens : List TokenTree

namespace Reading

/-- The state after a lexeme with this text, unless it closes what is not open. -/
def add (state : Reading) (lexeme : Lexeme) (text : List Char) : Option Reading :=
  let here := state.position
  let next := here.afterText text
  let push := fun tree => some { state with position := next, tokens := tree :: state.tokens }
  match lexeme with
  | .blank => some { state with position := next }
  | .documentation comment =>
    some { state with position := next, tokens := (docTokens here comment).reverse ++ state.tokens }
  | .word word => push (.word here word)
  | .mark mark joint => push (.mark here mark joint)
  | .literal => push (.literal here (String.ofList text))
  | .opening delimiter => some ⟨next, ⟨here, delimiter, state.tokens⟩ :: state.opened, []⟩
  | .closing delimiter =>
    match state.opened with
    | [] => none
    | last :: outer =>
      if last.delimiter = delimiter then
        some ⟨next, outer,
          .group last.position delimiter state.tokens.reverse here :: last.before⟩
      else none

/-- The token trees of the rest of a text, or the position at which it is refused. -/
def run (state : Reading) : List Char → Except Position (List TokenTree)
  | [] =>
    match state.opened with
    | [] => .ok state.tokens.reverse
    | last :: _ => .error last.position
  | c :: cs =>
    match Lexeme.read (c :: cs) with
    | none => .error state.position
    | some (lexeme, text) =>
      match state.add lexeme text with
      | none => .error state.position
      | some next => next.run (cs.drop (text.length - 1))
termination_by cs => cs.length
decreasing_by simp only [List.length_drop, List.length_cons]; omega

end Reading

/-- The token trees of a text; a byte order mark before it takes a column. -/
def readTokens : List Char → Except Position (List TokenTree)
  | [] => .ok []
  | c :: cs =>
    if c = byteOrderMark then Reading.run ⟨Position.start.after c, [], []⟩ cs
    else Reading.run ⟨Position.start, [], []⟩ (c :: cs)

/--
The text of a file without a byte order mark and without a first line `#!…`, which names the program
to run the file with; `#!` before a bracket is no such line.
-/
def withoutPreamble (cs : List Char) : List Char :=
  let text := if cs.head? = some byteOrderMark then cs.tail else cs
  match text with
  | '#' :: '!' :: rest =>
    if (Lexeme.skipBlanks rest).head? = some '[' then text
    else text.dropWhile (· != '\n')
  | _ => text

end RequestBinding.Source
