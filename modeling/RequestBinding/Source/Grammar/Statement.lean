import RequestBinding.Source.Grammar.Expression

/-!
# Statements

A block holds statements: declarations of names, items, macro calls and expressions. An expression
that does not end in a block needs a semicolon unless it is the last.
-/

namespace RequestBinding.Source.Grammar

open Source.Parser

/-- The kind of statement at a place. -/
inductive StatementStart where
  | bracedMacro
  | letBinding
  | item
  | expression
deriving Repr, DecidableEq

/-- A macro call that is a statement or item by itself stands here. -/
def macroStart : Parser (Option StatementStart) := do
  let since ← get
  let called ← attempt do
    discard plainPath
    if !(← peek (.mark "!")) then fail (.expected [.mark "!"])
    if (← peek2 .identifier) || (← peek2 (.word "try")) then return some StatementStart.item
    let after := skipTree (skipTree (← rest))
    let dotted := startsMark ['.'] after && !startsMark ['.', '.'] after
    let continued := dotted || startsMark ['?'] after
    if (← peek2 (.group .brace)) && !continued then return some .bracedMacro
    return none
  set since
  return called.join

/-- The words that start an item wherever they stand. -/
def itemWords : List Expectation :=
  (["pub", "extern", "use", "fn", "mod", "type", "struct", "enum", "trait", "impl", "macro"]).map
    Expectation.word

/-- A static item stands here, and no closure. -/
def startsStatic : Parser Bool := do
  if !(← peek (.word "static")) then return false
  let closure := (← peek2 (.word "async"))
    && ((← peek3 (.word "move")) || (← peek3 (.mark "|")))
  return (← peek2 (.word "mut")) || (← peek2 .identifier) && !closure

/-- A constant item stands here, and no block or closure. -/
def startsConstItem : Parser Bool := do
  if !(← peek (.word "const")) then return false
  let closure := (← peek2 (.word "async"))
    && !(← [Expectation.word "unsafe", .word "extern", .word "fn"].anyM peek3)
  return !(closure || (← [Expectation.group .brace, .word "static", .word "move", .mark "|"].anyM
    peek2))

/-- An item stands here. -/
def startsItem : Parser Bool := do
  return (← peekAny itemWords)
    || (← peek (.word "crate")) && !(← peek2 (.mark "::"))
    || (← startsStatic)
    || (← startsConstItem)
    || (← peek (.word "unsafe")) && !(← peek2 (.group .brace))
    || (← peek (.word "async"))
      && (← [Expectation.word "unsafe", .word "extern", .word "fn"].anyM peek2)
    || (← peek (.word "union")) && (← peek2 .identifier)
    || (← peek (.word "auto")) && (← peek2 (.word "trait"))
    || (← peek (.word "default"))
      && (← [Expectation.word "unsafe", .word "impl"].anyM peek2)

/-- The kind of statement that starts here. -/
def statementStart : Parser StatementStart := do
  let called ← macroStart
  if called = some .bracedMacro then return .bracedMacro
  if ← peek (.word "let") then return .letBinding
  if called = some .item || (← startsItem) then return .item
  return .expression

/-- What was read last is a group in braces. -/
def endedWithBrace : Parser Bool := do
  match (← get).printed with
  | .group _ .brace _ _ :: _ => return true
  | _ => return false

/-- A declaration of names. -/
def letStatement (g : Rules) : Parser Unit := do
  word "let"
  discard g.pattern
  if ← mark? ":" then discard <| g.type true
  if ← mark? "=" then
    discard <| g.expression true
    if !(← endedWithBrace) then
      if ← word? "else" then block g false
  mark ";"

/-- A statement; whether a semicolon must come before the next one. -/
def statement (g : Rules) : Parser Bool := do
  let since ← get
  let attributes ← outerAttributes g
  match ← statementStart with
  | .bracedMacro =>
    discard plainPath
    mark "!"
    discard anyGroup
    discard <| mark? ";"
    return false
  | .letBinding =>
    letStatement g
    return false
  | .item =>
    g.item since attributes
    return false
  | .expression =>
    let shape ← g.boundary
    if ← mark? ";" then return false
    return shape ≠ .blockLike && shape ≠ .bracedMacro

/-- The statements of a block. -/
def statements (g : Rules) : Parser Unit := loop do
  loop (mark? ";")
  if ← atEnd then return false
  let needsSemicolon ← statement g
  if ← atEnd then return false
  if needsSemicolon then fail .missingSemicolon
  return true

end RequestBinding.Source.Grammar
