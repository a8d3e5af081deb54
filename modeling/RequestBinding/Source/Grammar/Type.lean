import RequestBinding.Source.Grammar.Generics

/-!
# Types

Where several types may be joined with `+` or not is a matter of the place: after `&`, `*` and in
casts only one bound is read.
-/

namespace RequestBinding.Source.Grammar

open Source.Parser

/-- What a type may start with. -/
def typeStarts : List Expectation := [
  .word "for", .group .parenthesis, .word "fn", .word "unsafe", .word "extern", .identifier,
  .mark "::", .mark "<", .word "dyn", .group .bracket, .mark "*", .mark "&", .mark "!",
  .word "impl", .word "_", .lifetime]

/-- What may follow a binder in a type. -/
def boundTypeStarts : List Expectation := [
  .identifier, .word "fn", .word "unsafe", .word "extern", .word "super", .word "self",
  .word "Self", .word "crate"]

/-! ## Paths -/

/-- The shape of a path as a type. -/
def typePath (g : Rules) : Parser (TypeShape × PathShape) := do
  let (qualified, shape) ← qualifiedPath g false
  return (if qualified then .other else if shape.single then .name else .path, shape)

/-- A path as a type, or what starts with one: a macro, joined bounds. -/
def pathType (g : Rules) (bound plus : Bool) : Parser TypeShape := do
  let (shape, segments) ← typePath g
  if shape = .other then return .other
  if segments.plain && (← peekMark "!" ["!="]) then
    mark "!"
    discard anyGroup
    return .other
  if bound || plus && (← peek (.mark "+")) then
    let joined ← iterate (fun (state : Bool × Bool) => do
      if state.1 then return none
      if !plus || !(← peek (.mark "+")) then return none
      mark "+"
      if ← startsBound then
        discard <| g.bound false false
        return some (false, true)
      else return some (true, true)) (false, false)
    return if joined.2 then .other else .bound
  return shape

/-! ## Parentheses -/

/-- What stands in the parentheses of a type. -/
inductive ParenthesizedType where
  | tuple
  /-- A bound with a question mark. -/
  | maybe
  | lifetimes
  | single (shape : TypeShape)
deriving DecidableEq

/-- Bounds without `dyn`, of which one must be a trait. -/
def objectBounds (g : Rules) (plus : Bool) : Parser Unit := do
  let here ← position
  discard <| word? "dyn"
  if !(← bounds g plus false false) then failAt here .objectWithoutTrait

/-- What the parentheses hold. -/
def parenthesizedContent (g : Rules) : Parser ParenthesizedType := do
  if ← atEnd then return .tuple
  if ← peek .lifetime then
    objectBounds g true
    return .lifetimes
  if ← peek (.mark "?") then
    discard <| traitBound g false
    return .maybe
  let shape ← g.type true
  if ← mark? "," then
    discard <| separated (g.type true)
    return .tuple
  return .single shape

/-- A type in parentheses, a tuple, or the first of joined bounds in parentheses. -/
def parenthesizedType (g : Rules) (plus : Bool) : Parser TypeShape := do
  match ← group .parenthesis (parenthesizedContent g) with
  | .maybe => furtherBounds g
  | .single .other | .tuple | .lifetimes => pure ()
  | .single _ => if plus then furtherBounds g
  return .other

/-! ## Function pointers -/

/-- The interface of a function: `extern` with the name of the convention. -/
def extern? : Parser Bool := do
  if !(← word? "extern") then return false
  if ← peek .stringLiteral then discard literal
  return true

/-- The three dots for further arguments, with a name or without. -/
def startsVariadic : Parser Bool := do
  return (← peek (.mark "..."))
    || ((← peekAny [.identifier, .word "_"]) && (← peek2 (.mark ":")) && (← peek3 (.mark "...")))

/-- The argument of a function pointer; the first one may be `self`. -/
def pointerArgument (g : Rules) (first : Bool) : Parser Unit := do
  let since ← get
  let mutSelf := first && (← peek (.word "mut")) && (← peek2 (.word "self"))
  if mutSelf then word "mut"
  let named := ((← peekAny [.identifier, .word "_"]) || first && (← peek (.word "self")))
    && (← peek2 (.mark ":")) && !(← peek2 (.mark "::"))
  if named then
    discard anyWord
    mark ":"
  if mutSelf && !named then word "self" else discard <| g.type true
  if mutSelf then verbatim since

/-- The arguments of a function pointer. -/
def pointerArguments (g : Rules) : Parser Unit := do
  discard <| iterate (fun (first : Bool) => do
    if ← atEnd then return none
    discard <| outerAttributes g
    if ← startsVariadic then
      if !(← peek (.mark "...")) then
        discard anyWord
        mark ":"
      mark "..."
      discard <| mark? ","
      return none
    discard <| outerAttributes g
    pointerArgument g first
    if ← atEnd then return none
    mark ","
    return some false) true

/-- A function pointer. -/
def functionType (g : Rules) : Parser Unit := do
  discard <| word? "unsafe"
  discard extern?
  word "fn"
  group .parenthesis (pointerArguments g)
  returnType g false

/-! ## All types -/

/-- What stands in the brackets of a slice or array type. -/
def bracketedType (g : Rules) : Parser Unit := group .bracket do
  discard <| g.type true
  if ← mark? ";" then discard <| g.expression true

/-- A pointer type. -/
def pointerType (g : Rules) : Parser Unit := do
  mark "*"
  if ← peek (.word "const") then word "const"
  else if ← peek (.word "mut") then word "mut"
  else refuse [.word "const", .word "mut"]
  discard <| g.type false

/-- A reference type. -/
def referenceType (g : Rules) : Parser Unit := do
  mark "&"
  discard lifetime?
  discard <| word? "mut"
  discard <| g.type false

/-- A trait object with `dyn`. -/
def objectType (g : Rules) (plus : Bool) : Parser Unit := do
  let since ← get
  word "dyn"
  let starred ← mark? "*"
  if !(← bounds g plus false false) then failAt since.position .objectWithoutTrait
  if starred then verbatim since

/-- An unnamed type that implements bounds. -/
def implType (g : Rules) (plus : Bool) : Parser Unit := do
  let here ← position
  word "impl"
  if !(← bounds g plus true true) then failAt here .traitMissing

/-- A type, in which bounds may be joined with `+` or not. -/
def type (g : Rules) (plus : Bool) : Parser TypeShape := do
  let bound ← binder? g
  if bound && ((← peek (.word "dyn")) || !(← peekAny boundTypeStarts)) then
    refuse boundTypeStarts
  if ← peek (.group .parenthesis) then parenthesizedType g plus
  else if ← peekAny [.word "fn", .word "unsafe", .word "extern"] then
    functionType g
    return .other
  else if ← peekAny (pathWords ++ [.mark "::", .mark "<"]) then pathType g bound plus
  else
    if ← peek (.word "dyn") then objectType g plus
    else if ← peek (.group .bracket) then bracketedType g
    else if ← peek (.mark "*") then pointerType g
    else if ← peek (.mark "&") then referenceType g
    else if (← peek (.mark "!")) && !(← peek (.mark "=")) then mark "!"
    else if ← peek (.word "impl") then implType g plus
    else if ← peek (.word "_") then discard anyWord
    else if ← peek .lifetime then objectBounds g true
    else refuse typeStarts
    return .other

end RequestBinding.Source.Grammar
