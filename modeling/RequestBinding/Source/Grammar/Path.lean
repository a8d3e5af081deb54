import RequestBinding.Source.Grammar.Attribute

/-!
# Paths

Paths of types, traits and values, with their generic arguments. In an expression arguments stand
only after `::`, elsewhere also directly after the name.

Generic arguments are printed with the lifetimes first.
-/

namespace RequestBinding.Source.Grammar

open Source.Parser

/-- What was read as a path. -/
structure PathShape where
  /-- A single segment without leading colons. -/
  single : Bool
  /-- No segment has arguments. -/
  plain : Bool
  /-- The last segment has none. -/
  lastPlain : Bool

/-! ## Generic arguments -/

/-- A part of a list in angle brackets as printed, with the comma after it. -/
structure AnglePart where
  isLifetime : Bool
  tokens : List TokenTree
  comma : Bool

/-- The parts as printed: lifetimes first, a comma between them and the others. -/
def lifetimesFirst (position : Position) (parts : List AnglePart) : List TokenTree :=
  let lifetimes := parts.filter (·.isLifetime)
  let others := parts.filter (!·.isLifetime)
  let joined := !others.isEmpty && lifetimes.getLast?.any (!·.comma)
  lifetimes.flatMap (·.tokens) ++ (if joined then [.mark position .comma false] else [])
    ++ others.flatMap (·.tokens)

/-- The parts of a list up to `>`, each said to be a lifetime or not, with commas between them. -/
def angleParts (part : Parser Bool) : Parser Unit := do
  let here ← position
  let before := (← get).printed
  let step := fun (state : Bool × List AnglePart) => do
    if state.1 then return none
    else if ← peek (.mark ">") then return none
    else
      let ((isLifetime, comma), tokens) ← captured do
        let isLifetime ← part
        if ← peek (.mark ">") then return (isLifetime, false)
        mark ","
        return (isLifetime, true)
      return some (!comma, ⟨isLifetime, tokens, comma⟩ :: state.2)
  let parts ← iterate step (false, [])
  modify fun s =>
    { s with printed := (lifetimesFirst here parts.2.reverse).reverse ++ before }

/-- A constant as an argument: a literal, a name or a block. -/
def constArgument (g : Rules) : Parser Unit := do
  if ← peek .literal then discard literal
  else if ← peek .identifier then discard identifier
  else if ← peek (.group .brace) then block g true
  else refuse []

/-- A literal or a block stands here. -/
def startsConst : Parser Bool := peekAny [.literal, .group .brace]

/-- The bounds of an associated type, up to the end of the argument. -/
def argumentBounds (g : Rules) : Parser Unit := loop do
  if ← peekAny [.mark ",", .mark ">"] then return false
  discard <| g.bound false true
  mark? "+"

/-- A generic argument; whether it is a lifetime. -/
def genericArgument (g : Rules) : Parser Bool := do
  if (← peek .lifetime) && !(← peek2 (.mark "+")) then
    lifetime
    return true
  if ← startsConst then constArgument g
  else if (← g.type true) = .name then
    if ← mark? "=" then
      if ← startsConst then constArgument g else discard <| g.type true
    else if ← mark? ":" then argumentBounds g
  return false

/-- Generic arguments in angle brackets. -/
def genericArguments (g : Rules) : Parser Unit := do
  mark "<"
  angleParts (genericArgument g)
  mark ">"

/-- The type after an arrow, if there is one; bounds may be joined in it or not. -/
def returnType (g : Rules) (plus : Bool) : Parser Unit := do
  if ← mark? "->" then discard <| g.type plus

/-- Types in parentheses as arguments, and the type of the result. -/
def callArguments (g : Rules) : Parser Unit := do
  discard <| group .parenthesis (separated (g.type true))
  returnType g false

/-- Call arguments stand here, directly or after `::`. -/
def startsCallArguments : Parser Bool := do
  return (← peek (.group .parenthesis))
    || (← peek (.mark "::")) && (← peek3 (.group .parenthesis))

/-! ## Segments -/

/-- A segment of a path; whether it has arguments. -/
def segment (g : Rules) (inExpression : Bool) : Parser Bool := do
  if ← peekAny [.word "super", .word "self", .word "crate", .word "try"] then
    discard anyWord
    return false
  if ← peek (.word "Self") then discard anyWord else discard identifier
  if !inExpression && (← peekMark "<" ["<="])
      || (← peek (.mark "::")) && (← peek3 (.mark "<")) then
    discard <| mark? "::"
    genericArguments g
    return true
  return false

/-- The further segments of a path. -/
def segments (g : Rules) (inExpression : Bool) (shape : PathShape) : Parser PathShape :=
  iterate (fun shape => do
    if (← peek (.mark "::")) && !(← peek3 (.group .parenthesis)) then
      mark "::"
      let arguments ← segment g inExpression
      return some ⟨false, shape.plain && !arguments, !arguments⟩
    else return none) shape

/-- A path. -/
def path (g : Rules) (inExpression : Bool) : Parser PathShape := do
  let rooted ← mark? "::"
  let arguments ← segment g inExpression
  segments g inExpression ⟨!rooted, !arguments, !arguments⟩

/-- The qualified part of a path, `<type as trait>::`. -/
def qualifier (g : Rules) : Parser Unit := do
  mark "<"
  discard <| g.type true
  if ← word? "as" then discard <| path g false
  mark ">"
  mark "::"

/-- A path with a qualified part or without; whether it has one. -/
def qualifiedPath (g : Rules) (inExpression : Bool) : Parser (Bool × PathShape) := do
  if ← peek (.mark "<") then
    qualifier g
    let shapes ← iterate (fun (state : Bool × PathShape) => do
      if state.1 then return none
      let arguments ← segment g inExpression
      let shape := ⟨false, state.2.plain && !arguments, !arguments⟩
      return some (!(← mark? "::"), shape)) (false, ⟨false, true, true⟩)
    return (true, shapes.2)
  else return (false, ← path g inExpression)

end RequestBinding.Source.Grammar
