import RequestBinding.Source.Grammar.Function

/-!
# Members

What traits, implementations and foreign blocks hold: functions, constants, types and macro calls.
-/

namespace RequestBinding.Source.Grammar

open Source.Parser

/-! ## Parts -/

/-- What a macro call as an item may start with. -/
def macroStarts : List Expectation :=
  [.identifier, .word "self", .word "super", .word "crate", .mark "::"]

/-- A macro call; a semicolon follows unless it has braces. -/
def macroCall (named : Bool) : Parser Unit := do
  discard plainPath
  mark "!"
  if named then
    if ← peek (.word "try") then discard anyWord
    else if ← peek .identifier then discard identifier
  let (delimiter, _, _) ← anyGroup
  if delimiter ≠ .brace then mark ";"

/-- The name of a constant, which may be `_`. -/
def constName : Parser Unit := do
  if ← peekAny [.identifier, .word "_"] then discard anyWord
  else refuse [.identifier, .word "_"]

/-- A constant after its name; whether it has a value and nothing generic. -/
def constTail (g : Rules) : Parser (Bool × Bool) := do
  let generic ← generics g
  mark ":"
  discard <| g.type true
  let hasValue ← mark? "="
  if hasValue then discard <| g.expression true
  let conditional ← whereClause? g
  mark ";"
  return (hasValue, !generic && !conditional)

/-- Where a where clause may stand in the declaration of a type name. -/
inductive WherePlace where
  | beforeValue
  | afterValue
  | anywhere
deriving Repr, DecidableEq

/-- The bounds of a type name. -/
def aliasBounds (g : Rules) : Parser Unit := do
  let ends := [Expectation.word "where", .mark "=", .mark ";"]
  loop do
    if ← peekAny ends then return false
    discard <| g.bound false true
    if ← peekAny ends then return false
    mark "+"
    return true

/-- A type name; whether it stands for a type and has no bounds. -/
def typeAlias (g : Rules) (place : WherePlace) : Parser Bool := do
  word "type"
  discard identifier
  discard <| generics g
  let bounded ← mark? ":"
  if bounded then aliasBounds g
  let conditional ← if place = .afterValue then pure false else whereClause? g
  let hasValue ← mark? "="
  if hasValue then discard <| g.type true
  if place ≠ .beforeValue && !conditional then discard <| whereClause? g
  mark ";"
  return hasValue && !bounded

/-! ## Members of traits -/

/-- A constant of a trait, or a function that starts with `const`. -/
def traitConst (g : Rules) (since : ParserState) : Parser Unit := do
  word "const"
  if !(← peekAny [.identifier, .word "_"]) then
    refuse [.identifier, .word "_", .word "async", .word "unsafe", .word "extern", .word "fn"]
  discard anyWord
  let (_, plain) ← constTail g
  if !plain then verbatim since

/-- A member of a trait. -/
def traitMember (g : Rules) : Parser Unit := do
  let since ← get
  discard <| outerAttributes g
  let visible ← visibility
  let defaulted ← word? "default"
  if ← startsFunction false then
    signature g false
    if ← peek (.group .brace) then block g true
    else if ← peek (.mark ";") then mark ";"
    else refuse [.group .brace, .mark ";"]
  else if ← peek (.word "const") then traitConst g since
  else if ← peek (.word "type") then discard <| typeAlias g .afterValue
  else if !visible && !defaulted && (← peekAny macroStarts) then macroCall false
  else
    let further := if visible || defaulted then [] else macroStarts
    refuse ([.word "fn", .word "const", .word "type"] ++ further)
  if visible || defaulted then verbatim since

/-! ## Members of implementations -/

/-- A member of an implementation. -/
def implMember (g : Rules) : Parser Unit := do
  let since ← get
  discard <| outerAttributes g
  let visible ← visibility
  let defaulted := (← peek (.word "default")) && !(← peek2 (.mark "!"))
  if defaulted then word "default"
  if ← startsFunction false then
    signature g false
    if ← mark? ";" then verbatim since else block g true
  else if ← peek (.word "const") then
    word "const"
    constName
    let (hasValue, plain) ← constTail g
    if !hasValue || !plain then verbatim since
  else if ← peek (.word "type") then
    if !(← typeAlias g .afterValue) then verbatim since
  else if !visible && !defaulted && (← peekAny macroStarts) then macroCall false
  else
    let first := if defaulted then [] else [Expectation.word "default"]
    let further := if visible || defaulted then [] else macroStarts
    refuse (first ++ [.word "fn", .word "const", .word "type"] ++ further)

/-! ## Members of foreign blocks -/

/-- A static of a foreign block. -/
def foreignStatic (g : Rules) (since : ParserState) : Parser Unit := do
  let marked ← if ← word? "unsafe" then pure true else word? "safe"
  word "static"
  discard <| word? "mut"
  discard identifier
  mark ":"
  discard <| g.type true
  let hasValue ← mark? "="
  if hasValue then discard <| g.expression true
  mark ";"
  if marked || hasValue then verbatim since

/-- A function of a foreign block. -/
def foreignFunction (g : Rules) (since : ParserState) : Parser Unit := do
  let (_, tokens) ← captured (signature g true)
  let safe := tokens.any fun tree => tree.print == "safe"
  if ← peek (.group .brace) then
    block g true
    verbatim since
  else
    mark ";"
    if safe then verbatim since

/-- A member of a foreign block. -/
def foreignMember (g : Rules) : Parser Unit := do
  let since ← get
  discard <| outerAttributes g
  let visible ← visibility
  let static := (← peek (.word "static"))
    || (← peekAny [.word "unsafe", .word "safe"]) && (← peek2 (.word "static"))
  if ← startsFunction true then foreignFunction g since
  else if static then foreignStatic g since
  else if ← peek (.word "type") then
    discard <| typeAlias g .anywhere
    verbatim since
  else if !visible && (← peekAny macroStarts) then macroCall false
  else
    refuse ([.word "fn", .word "static", .word "type"] ++ if visible then [] else macroStarts)

end RequestBinding.Source.Grammar
