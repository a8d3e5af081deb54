import RequestBinding.Source.Grammar.Path

/-!
# Generics

Bounds, generic parameters and where clauses.
-/

namespace RequestBinding.Source.Grammar

open Source.Parser

/-! ## Parameters -/

/-- The bounds of a lifetime, joined with `+`, before one of these. -/
def lifetimeBounds (ends : List Expectation) : Parser Unit := loop do
  if (← atEnd) || (← peekAny ends) then return false
  lifetime
  mark? "+"

/-- Bounds joined with `+` before one of these. -/
def boundsBefore (g : Rules) (ends : List Expectation) : Parser Unit := loop do
  if (← atEnd) || (← peekAny ends) then return false
  discard <| g.bound false true
  mark? "+"

/-- A lifetime as a parameter. -/
def lifetimeParameter : Parser Unit := do
  lifetime
  if ← mark? ":" then lifetimeBounds [.mark ",", .mark ">"]

/-- A type as a parameter. -/
def typeParameter (g : Rules) : Parser Unit := do
  discard identifier
  if ← mark? ":" then boundsBefore g [.mark ",", .mark ">", .mark "="]
  if ← mark? "=" then discard <| g.type true

/-- A constant as a parameter. -/
def constParameter (g : Rules) : Parser Unit := do
  word "const"
  discard identifier
  mark ":"
  discard <| g.type true
  if ← mark? "=" then constArgument g

/-- A parameter after its attributes, of which a nameless one may be allowed; is it a lifetime? -/
def parameter (g : Rules) (choices : List Expectation) (nameless : Bool) : Parser Bool := do
  discard <| outerAttributes g
  if ← peek .lifetime then
    lifetimeParameter
    return true
  if ← peek .identifier then typeParameter g
  else if ← peek (.word "const") then constParameter g
  else if nameless && (← peek (.word "_")) then discard anyWord
  else refuse choices
  return false

/-- Generic parameters, if there are any; whether there are. -/
def generics (g : Rules) : Parser Bool := do
  if !(← peek (.mark "<")) then return false
  mark "<"
  angleParts (parameter g [.lifetime, .identifier, .word "const"] true)
  mark ">"
  return true

/-- The lifetimes that `for` introduces, if it stands here; whether it does. -/
def binder? (g : Rules) : Parser Bool := do
  if !(← word? "for") then return false
  mark "<"
  angleParts (parameter g [.identifier, .lifetime, .word "const"] false)
  mark ">"
  return true

/-! ## Bounds -/

/-- The parameters that a type captures. -/
def capturedSet : Parser Unit := do
  word "use"
  mark "<"
  loop do
    if ← peek .lifetime then lifetime
    else if ← peekAny [.identifier, .word "Self"] then discard anyWord
    else if ← peek (.mark ">") then return false
    else refuse [.lifetime, .identifier, .mark ">"]
    if ← mark? "," then return true
    else if ← peek (.mark ">") then return false
    else refuse [.mark ",", .mark ">"]
  mark ">"

/-- The `const` before a trait, in brackets or without; whether there is one. -/
def constModifier (allowed : Bool) : Parser Bool := do
  let here ← position
  if ← peek (.group .bracket) then
    group .bracket (word "const")
    if !allowed then failAt here (.constNotAllowed "[const]")
    return true
  else if ← word? "const" then
    if !allowed then failAt here (.constNotAllowed "const")
    return true
  else return false

/-- A trait as a bound; whether it is `const`. -/
def traitBound (g : Rules) (allowConst : Bool) : Parser Bool := do
  let bound ← binder? g
  let isConst ← constModifier allowConst
  let maybePosition ← position
  let isMaybe ← mark? "?"
  let bound ← if isMaybe && !bound then binder? g else pure bound
  let shape ← path g false
  if shape.lastPlain && (← startsCallArguments) then
    discard <| unprinted (mark? "::")
    callArguments g
  if isMaybe && bound then failAt maybePosition .binderBeforeMaybe
  return isConst

/-- A bound: a lifetime, a captured set or a trait. -/
def bound (g : Rules) (allowCapture allowConst : Bool) : Parser BoundShape := do
  let since ← get
  if ← lifetime? then return .lifetime
  if ← peek (.word "use") then
    capturedSet
    if !allowCapture then failAt since.position .captureNotAllowed
    return .capture
  let isConst ←
    if ← peek (.group .parenthesis) then group .parenthesis (traitBound g allowConst)
    else traitBound g allowConst
  if isConst then verbatim since
  return .trait

/-- A bound may start here. -/
def startsBound : Parser Bool := do
  return (← peekWord)
    || (← peekAny [.mark "::", .mark "?", .lifetime, .group .parenthesis])

/-- The `+` before a further bound, if bounds may be joined; whether a bound follows. -/
def plus? (plus : Bool) : Parser Bool := do
  if !plus then return false
  if !(← mark? "+") then return false
  startsBound

/-- Bounds joined with `+`, if that is allowed; whether there is a trait among them. -/
def bounds (g : Rules) (plus allowCapture allowConst : Bool) : Parser Bool := do
  let (_, trait) ← iterate (fun (state : Bool × Bool) => do
    if state.1 then return none
    let shape ← g.bound allowCapture allowConst
    return some (!(← plus? plus), state.2 || shape = .trait)) (false, false)
  return trait

/-- Bounds after each `+` that stands here. -/
def furtherBounds (g : Rules) : Parser Unit := loop do
  if !(← mark? "+") then return false
  discard <| g.bound false false
  return true

/-! ## Where clauses -/

/-- What ends a where clause or its last predicate. -/
def endsPredicate : Parser Bool := do
  return (← atEnd) || (← peekAny [.group .brace, .mark ",", .mark ";", .mark "="])
    || (← peekMark ":" ["::"])

/-- What is demanded of a lifetime or of a type. -/
def predicate (g : Rules) : Parser Unit := do
  if (← peek .lifetime) && (← peek2 (.mark ":")) then
    lifetime
    mark ":"
    lifetimeBounds [.group .brace, .mark ",", .mark ";", .mark ":", .mark "="]
  else
    discard <| binder? g
    discard <| g.type true
    mark ":"
    loop do
      if ← endsPredicate then return false
      discard <| g.bound false true
      mark? "+"

/-- The where clause, if there is one; whether there is. -/
def whereClause? (g : Rules) : Parser Bool := do
  if !(← word? "where") then return false
  loop do
    if ← endsPredicate then return false
    predicate g
    mark? ","
  return true

/-- A part and the where clause after it, whose declarations come first. -/
def beforeWhere (g : Rules) (part : Parser Unit) : Parser Unit := do
  let (_, found) ← collected part
  discard <| whereClause? g
  found.forM declare

end RequestBinding.Source.Grammar
