import RequestBinding.Source.Lexeme.Comment
import RequestBinding.Text.Identifier

/-!
# Literals

The literals of a source: strings, characters and numbers. Each reader takes a literal from the
start of a text and returns it with what follows.

## Strings

A string is cooked, with escapes, or raw, between quotes that the same number of `#` guard. Its
prefix says what it may hold: any characters, ASCII only (`b`), or anything but NUL (`c`). A carriage
return stands only before a line feed. A name that follows a literal is its suffix.

## Termination

A string is scanned character by character: an escape is checked at its backslash (`takeEscape`),
and its characters are then taken like any others.
-/

namespace RequestBinding.Source.Lexeme

open Text

/-! ## Escapes -/

/-- What a string or character literal may hold. -/
inductive Content where
  | anything
  | bytes
  | nonzero
deriving Repr, DecidableEq

/-- The character may stand for itself. -/
def Content.admits : Content → Char → Bool
  | anything, _ => true
  | bytes, c => c.toNat < 0x80
  | nonzero, c => c != '\x00'

/-- The value of a hexadecimal digit. -/
def hexValue? (c : Char) : Option Nat :=
  if '0' ≤ c && c ≤ '9' then some (c.toNat - '0'.toNat)
  else if 'a' ≤ c && c ≤ 'f' then some (c.toNat - 'a'.toNat + 10)
  else if 'A' ≤ c && c ≤ 'F' then some (c.toNat - 'A'.toNat + 10)
  else none

/-- A character by its number. -/
def charOfCode? (n : Nat) : Option Char :=
  if h : n.isValidChar then some (Char.ofNatAux n h) else none

/-- The character with a number in braces, of which `digits` digits with this value are read. -/
def takeCode (digits value : Nat) : List Char → Option (Char × Cut)
  | [] => none
  | c :: cs =>
    let more := fun (found : Char × Cut) => (found.1, found.2.cons [c])
    match hexValue? c with
    | some v => if digits < 6 then (takeCode (digits + 1) (value * 16 + v) cs).map more else none
    | none =>
      if digits = 0 then none
      else if c = '_' then (takeCode digits value cs).map more
      else if c = '\x7d' then (charOfCode? value).map fun char => (char, [c], cs)
      else none

/-- The two hexadecimal digits make a character of this content. -/
def isByteEscape (content : Content) (high low : Nat) : Bool :=
  match content with
  | .anything => high < 8
  | .bytes => true
  | .nonzero => !(high == 0 && low == 0)

/-- The characters that an escape of one letter stands for. -/
def simpleEscape? : Char → Option Char
  | 'n' => some '\n'
  | 'r' => some '\r'
  | 't' => some '\t'
  | '\\' => some '\\'
  | '\'' => some '\''
  | '"' => some '"'
  | '0' => some '\x00'
  | _ => none

/-- An escape after its backslash: the character it stands for, and the cut behind it. -/
def takeEscape (content : Content) : List Char → Option (Char × Cut)
  | 'x' :: a :: b :: cs =>
    match hexValue? a, hexValue? b with
    | some high, some low =>
      if isByteEscape content high low then some (Char.ofNat (high * 16 + low), ['x', a, b], cs)
      else none
    | _, _ => none
  | 'u' :: '\x7b' :: cs =>
    if content = .bytes then none
    else ((takeCode 0 0 cs).filter fun found => content.admits found.1).map fun found =>
      (found.1, found.2.cons ['u', '\x7b'])
  | c :: cs => ((simpleEscape? c).filter content.admits).map fun char => (char, [c], cs)
  | [] => none

/-! ## Strings -/

/-- A cooked string after its opening quote. -/
def takeCooked (content : Content) : List Char → Option Cut
  | [] => none
  | '"' :: cs => some (['"'], cs)
  | '\r' :: '\n' :: cs => (takeCooked content cs).map (Cut.cons ['\r', '\n'])
  | '\r' :: _ => none
  | '\\' :: '\n' :: cs => (takeCooked content cs).map (Cut.cons ['\\', '\n'])
  | '\\' :: '\r' :: '\n' :: cs => (takeCooked content cs).map (Cut.cons ['\\', '\r', '\n'])
  | '\\' :: c :: cs =>
    if (takeEscape content (c :: cs)).isSome then (takeCooked content cs).map (Cut.cons ['\\', c])
    else none
  | c :: cs => if content.admits c then (takeCooked content cs).map (Cut.cons [c]) else none

/-- The text starts with this many `#`. -/
def startsWithGuard (guard : Nat) (cs : List Char) : Bool :=
  (List.replicate guard '#').isPrefixOf cs

/-- A raw string after its opening quote. -/
def takeRaw (content : Content) (guard : Nat) : List Char → Option Cut
  | [] => none
  | '"' :: cs =>
    if startsWithGuard guard cs then some ('"' :: List.replicate guard '#', cs.drop guard)
    else (takeRaw content guard cs).map (Cut.cons ['"'])
  | '\r' :: '\n' :: cs => (takeRaw content guard cs).map (Cut.cons ['\r', '\n'])
  | '\r' :: _ => none
  | c :: cs => if content.admits c then (takeRaw content guard cs).map (Cut.cons [c]) else none

/-- A raw string after its `r`: at most 255 `#`, a quote and the rest. -/
def takeGuarded (content : Content) (cs : List Char) : Option Cut :=
  let guard := cs.takeWhile (· == '#')
  match cs.dropWhile (· == '#') with
  | '"' :: rest =>
    if guard.length ≤ 255 then
      (takeRaw content guard.length rest).map (Cut.cons (guard ++ ['"']))
    else none
  | _ => none

/-- The cut with the name that follows it at its end. -/
def Cut.suffixed (cut : Cut) : Cut :=
  match takeIdent cut.2 with
  | some (name, rest) => (cut.1 ++ name, rest)
  | none => cut

/-- A string literal, without its suffix. -/
def takeString : List Char → Option Cut
  | '"' :: cs => (takeCooked .anything cs).map (Cut.cons ['"'])
  | 'r' :: cs => (takeGuarded .anything cs).map (Cut.cons ['r'])
  | _ => none

/-- A byte string, without its suffix. -/
def takeByteString : List Char → Option Cut
  | 'b' :: '"' :: cs => (takeCooked .bytes cs).map (Cut.cons ['b', '"'])
  | 'b' :: 'r' :: cs => (takeGuarded .bytes cs).map (Cut.cons ['b', 'r'])
  | _ => none

/-- A string without NUL, without its suffix. -/
def takeNonzeroString : List Char → Option Cut
  | 'c' :: '"' :: cs => (takeCooked .nonzero cs).map (Cut.cons ['c', '"'])
  | 'c' :: 'r' :: cs => (takeGuarded .nonzero cs).map (Cut.cons ['c', 'r'])
  | _ => none

/-! ## Characters -/

/-- A character literal after its opening quote. -/
def takeQuoted (content : Content) : List Char → Option Cut
  | '\\' :: cs =>
    match takeEscape content cs with
    | some (_, text, '\'' :: rest) => some ('\\' :: text ++ ['\''], rest)
    | _ => none
  | c :: '\'' :: cs => if content.admits c then some ([c, '\''], cs) else none
  | _ => none

/-- A character or a byte, without its suffix. -/
def takeCharacter : List Char → Option Cut
  | 'b' :: '\'' :: cs => (takeQuoted .bytes cs).map (Cut.cons ['b', '\''])
  | '\'' :: cs => (takeQuoted .anything cs).map (Cut.cons ['\''])
  | _ => none

/-! ## Numbers -/

def isDigitOrUnderscore (c : Char) : Bool := isAsciiDigit c || c == '_'

/-- The digits of a decimal number up to its exponent, and whether a dot stands among them. -/
structure Mantissa where
  dotted : Bool
  cut : Cut

/--
A mantissa. A dot belongs to it unless there was one before; neither a dot nor a name may follow it.
-/
def takeMantissa (dotted : Bool) : List Char → Option Mantissa
  | [] => some ⟨dotted, [], []⟩
  | c :: cs =>
    let more := (·.map fun (m : Mantissa) => { m with cut := m.cut.cons [c] })
    if isDigitOrUnderscore c then more (takeMantissa dotted cs)
    else if c = '.' && !dotted then
      if cs.head?.any fun d => d == '.' || isIdentStart d then none else more (takeMantissa true cs)
    else some ⟨dotted, [], c :: cs⟩

/-- An exponent after its letter: at most one sign, and at least one digit after it. -/
def takeExponent (signed : Bool) : List Char → Option Cut
  | [] => none
  | c :: cs =>
    if isAsciiDigit c then
      some (c :: cs.takeWhile isDigitOrUnderscore, cs.dropWhile isDigitOrUnderscore)
    else if c = '_' then (takeExponent signed cs).map (Cut.cons [c])
    else if (c = '+' || c = '-') && !signed then (takeExponent true cs).map (Cut.cons [c])
    else none

/-- The number with its suffix, if it then ends. -/
def Cut.ended (number : Cut) : Option Cut :=
  let cut := number.suffixed
  if cut.2.head?.any isIdentContinue then none else some cut

/-- A number with a dot or an exponent; an exponent without digits is the suffix instead. -/
def takeFloat : List Char → Option Cut
  | [] => none
  | c :: cs =>
    if !isAsciiDigit c then none
    else do
      let mantissa ← takeMantissa false cs
      let cut := mantissa.cut.cons [c]
      let plain := if mantissa.dotted then cut.ended else none
      match cut.2 with
      | e :: rest =>
        if e = 'e' || e = 'E' then
          match takeExponent false rest with
          | some exponent => Cut.ended (cut.1 ++ e :: exponent.1, exponent.2)
          | none => plain
        else plain
      | [] => plain

/-- Digits of a base with underscores among them; no decimal digit may be too large for the base. -/
def takeDigits (base : Nat) : List Char → Option Cut
  | [] => some ([], [])
  | c :: cs =>
    if c = '_' then (takeDigits base cs).map (Cut.cons [c])
    else
      match hexValue? c with
      | none => some ([], c :: cs)
      | some v =>
        if v < base then (takeDigits base cs).map (Cut.cons [c])
        else if isAsciiDigit c then none
        else some ([], c :: cs)

/-- Digits after a base prefix, with at least one that is no underscore. -/
def takeBased (base : Nat) (before cs : List Char) : Option Cut := do
  let cut ← takeDigits base cs
  if cut.1.all (· == '_') then none else (cut.cons before).ended

/-- A whole number. -/
def takeInteger : List Char → Option Cut
  | '0' :: 'x' :: cs => takeBased 16 ['0', 'x'] cs
  | '0' :: 'o' :: cs => takeBased 8 ['0', 'o'] cs
  | '0' :: 'b' :: cs => takeBased 2 ['0', 'b'] cs
  | c :: cs => if isAsciiDigit c then takeBased 10 [] (c :: cs) else none
  | [] => none

/-- A literal with its suffix. -/
def takeLiteral (cs : List Char) : Option Cut :=
  (takeString cs).map Cut.suffixed
    <|> (takeByteString cs).map Cut.suffixed
    <|> (takeNonzeroString cs).map Cut.suffixed
    <|> (takeCharacter cs).map Cut.suffixed
    <|> takeFloat cs
    <|> takeInteger cs

end RequestBinding.Source.Lexeme
