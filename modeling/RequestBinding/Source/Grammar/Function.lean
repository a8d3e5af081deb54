import RequestBinding.Source.Grammar.Statement

/-!
# Functions

The signature of a function: what stands before its body.
-/

namespace RequestBinding.Source.Grammar

open Source.Parser

/-- What was read as a parameter. -/
inductive ParameterShape where
  /-- The receiver, with the place of `self`. -/
  | receiver (self : Position)
  | typed
  | variadic

/-- The receiver of a method; the place of `self`. -/
def receiver (g : Rules) : Parser Position := do
  let byReference ← mark? "&"
  if byReference then discard lifetime?
  discard <| word? "mut"
  let here ← position
  word "self"
  if !byReference then
    if ← mark? ":" then discard <| g.type true
  return here

/-- A parameter after its attributes; its pattern may be missing before a generic type. -/
def functionParameter (g : Rules) : Parser ParameterShape := do
  if let some here ← attempt (receiver g) then return .receiver here
  if (← peek .identifier) && (← peek2 (.mark "<")) then
    let here ← position
    print (.word here .underscore)
    print (.mark here .colon false)
  else
    discard g.pattern
    mark ":"
    if ← mark? "..." then return .variadic
  discard <| g.type true
  return .typed

/-- The comma after the dots for further arguments. -/
def endVariadic : Parser Unit := do
  if !(← atEnd) then mark ","

/-- The parameters of a function; only the first may be a receiver. -/
def functionParameters (g : Rules) : Parser Unit :=
  discard <| iterate (fun (state : Bool × Bool) => do
    if ← atEnd then return none
    discard <| outerAttributes g
    if ← mark? "..." then
      endVariadic
      return none
    let shape ← functionParameter g
    match shape with
    | .variadic =>
      endVariadic
      return none
    | .receiver here =>
      if state.2 then failAt here .secondReceiver
      if !state.1 then failAt here .misplacedReceiver
    | .typed => pure ()
    if ← atEnd then return none
    mark ","
    return some (false, state.2 || shape matches .receiver _)) (true, false)

/-- The signature of a function, in which `safe` may stand or not. -/
def signature (g : Rules) (safe : Bool) : Parser Unit := do
  signatureStart safe
  discard identifier
  discard <| generics g
  beforeWhere g do
    group .parenthesis (functionParameters g)
    returnType g true

/-- A function starts here, with what may stand before `fn`. -/
def startsFunction (safe : Bool) : Parser Bool := wouldSucceed (signatureStart safe)

end RequestBinding.Source.Grammar
