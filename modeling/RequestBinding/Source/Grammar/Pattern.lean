import RequestBinding.Source.Grammar.Type

/-!
# Patterns

A pattern is read without alternatives (`pattern`) or with them (`alternatives`).
-/

namespace RequestBinding.Source.Grammar

open Source.Parser

/-! ## Ranges -/

/-- The dots of a range; whether they include the upper end. Three dots may be allowed for `..=`. -/
def rangeDots (threeDots : Bool) : Parser Bool := do
  if ← peek (.mark "..=") then
    mark "..="
    return true
  else if ← peek (.mark "...") then
    if threeDots then
      let here ← position
      unprinted (mark "...")
      print (.mark here .dot true)
      print (.mark here .dot true)
      print (.mark here .equals false)
      return true
    else refuse [.mark "..", .mark "..="]
  else
    if !(← peek (.mark "..")) then refuse [.mark ".."]
    mark ".."
    return false

/-- The words and marks with which a path in an expression starts. -/
def pathStarts : List Expectation := [
  .identifier, .mark "::", .mark "<", .word "self", .word "Self", .word "super", .word "crate"]

/-- A constant block. -/
def constBlock (g : Rules) : Parser Unit := do
  word "const"
  block g true

/-- An end of a range, if there is one; whether there is. -/
def rangeEnd (g : Rules) : Parser Bool := do
  if (← atEnd) || (← peekAny [.mark "|", .mark "=", .mark ",", .mark ";", .word "if"])
      || (← peekMark ":" ["::"]) then
    return false
  if ← peek .literal then discard literal
  else if ← peekAny pathStarts then discard <| qualifiedPath g true
  else if ← peek (.word "const") then constBlock g
  else refuse (.literal :: pathStarts ++ [.word "const"])
  return true

/-- The upper part of a range whose lower end was read. -/
def rangeAfter (g : Rules) : Parser PatternShape := do
  let here ← position
  let inclusive ← rangeDots true
  if ← rangeEnd g then return .other
  else if inclusive then fail (.expected [.upperBound])
  else return .openRange here

/-! ## Alternatives -/

/-- A single `|`. -/
def startsAlternative : Parser Bool := peekMark "|" ["||", "|="]

/-- Patterns with `|` between them and perhaps before the first. -/
def alternatives (g : Rules) : Parser PatternShape := do
  let leading ← mark? "|"
  let first ← g.pattern
  let several ← startsAlternative
  loop do
    if !(← startsAlternative) then return false
    mark "|"
    discard g.pattern
    return true
  return if leading || several then .other else first

/-! ## Structured patterns -/

/-- A pattern in parentheses, or a tuple of patterns. -/
def tuplePattern (g : Rules) : Parser Unit :=
  discard <| group .parenthesis (separated (alternatives g))

/-- A slice, in which no open range stands without parentheses. -/
def slicePattern (g : Rules) : Parser Unit :=
  discard <| group .bracket <| separated do
    match ← alternatives g with
    | .openRange dots => failAt dots .openRangeInSlice
    | _ => pure ()

/-- The name or number of a field; whether it is a name. -/
def member : Parser Bool := do
  if ← peek .identifier then
    discard identifier
    return true
  match ← rest with
  | .literal p text :: more =>
    if isNumberText text && !isFloatText text then
      if !text.toList.all Lexeme.isDigitOrUnderscore then failAt p .suffixedIndex
      advance more
      print (.literal p text)
      return false
    else fail (.expected [.member])
  | _ => fail (.expected [.member])

/-- A field of a struct pattern. -/
def fieldPattern (g : Rules) : Parser Unit := do
  let boxed ← word? "box"
  let byRef ← word? "ref"
  let mutable ← word? "mut"
  if boxed || byRef || mutable then discard identifier
  else
    let named ← member
    if !named || (← peek (.mark ":")) then
      mark ":"
      discard <| alternatives g

/-- The fields of a struct pattern; two dots end them. -/
def structPattern (g : Rules) : Parser Unit := group .brace <| loop do
  if ← atEnd then return false
  discard <| outerAttributes g
  if ← mark? ".." then return false
  fieldPattern g
  if ← atEnd then return false
  mark ","
  return true

/-- A pattern that starts with a path. -/
def pathPattern (g : Rules) : Parser PatternShape := do
  let (qualified, shape) ← qualifiedPath g true
  if !qualified && shape.plain && (← peekMark "!" ["!="]) then
    mark "!"
    discard anyGroup
    return .other
  if ← peek (.group .brace) then structPattern g
  else if ← peek (.group .parenthesis) then tuplePattern g
  else if ← peek (.mark "..") then return ← rangeAfter g
  return .other

/-- A name with what stands before it, and the pattern after `@`. -/
def namePattern (g : Rules) : Parser Unit := do
  discard <| word? "ref"
  discard <| word? "mut"
  if ← peek (.word "self") then discard anyWord else discard identifier
  if ← mark? "@" then discard g.pattern

/-! ## All patterns -/

/-- What a pattern may start with. -/
def patternStarts : List Expectation := [
  .identifier, .mark "::", .mark "<", .word "_", .literal, .word "const", .word "ref", .word "mut",
  .mark "&", .group .parenthesis, .group .bracket, .mark "..", .word "const"]

/-- A pattern starts with a path here, which is more than a name. -/
def startsPathPattern : Parser Bool := do
  let named := (← peek .identifier)
    && (← [Expectation.mark "::", .mark "!", .group .brace, .group .parenthesis, .mark ".."].anyM
      peek2)
  return named || (← peek (.word "self")) && (← peek2 (.mark "::"))
    || (← peekAny [.mark "::", .mark "<", .word "Self", .word "super", .word "crate"])

/-- A pattern without alternatives. -/
def pattern (g : Rules) : Parser PatternShape := do
  let since ← get
  if ← startsPathPattern then pathPattern g
  else if ← peek (.word "_") then
    discard anyWord
    return .other
  else if ← peek (.word "box") then
    word "box"
    discard g.pattern
    verbatim since
    return .other
  else if ← peekAny [.mark "-", .literal, .word "const"] then
    if ← rangeEnd g then
      if ← peek (.mark "..") then rangeAfter g else return .other
    else return .other
  else if ← peekAny [.word "ref", .word "mut", .word "self", .identifier] then
    namePattern g
    return .other
  else if ← mark? "&" then
    discard <| word? "mut"
    discard g.pattern
    return .other
  else if ← peek (.group .parenthesis) then
    tuplePattern g
    return .other
  else if ← peek (.group .bracket) then
    slicePattern g
    return .other
  else if ← peekMark ".." ["..."] then
    let here ← position
    let inclusive ← rangeDots false
    if ← rangeEnd g then return .openRange here
    else if inclusive then fail (.expected [.upperBound])
    else return .rest
  else refuse patternStarts

end RequestBinding.Source.Grammar
