import RequestBinding.Source.Grammar.Rules

/-!
# Attributes, visibility and blocks

The parts that stand before and inside items and expressions of every kind.
-/

namespace RequestBinding.Source.Grammar

open Source.Parser

/-! ## Attributes -/

/-- A word that may stand in a plain path. -/
def pathWords : List Expectation :=
  [.identifier, .word "super", .word "self", .word "Self", .word "crate"]

/-- A path without arguments; its name if it is a single word. -/
def plainPath : Parser (Option String) := do
  let rooted ← mark? "::"
  let (open?, words) ← iterate (fun (state : Bool × List Word) => do
    if state.1 && (← peekAny pathWords) then
      let name ← anyWord
      return some (← mark? "::", name :: state.2)
    else return none) (true, [])
  match words with
  | [] => return some (← identifier).text
  | name :: more =>
    if open? then fail (.expected [.segment])
    return if rooted || !more.isEmpty then none else some name.text

/-- The value of an attribute: a literal, or another expression. -/
def attributeValue (g : Rules) : Parser AttributeForm := do
  let here ← position
  let alone ← attempt do
    let text ← literal
    if ← atEnd then return text else fail (.leftover none)
  match alone with
  | some text => return .value here (if isStringText text then some text else none)
  | none =>
    if (← peek (.mark "#")) && (← peek2 (.group .bracket)) then fail .nestedAttribute
    discard <| g.expression true
    return .value here none

/-- An attribute inside its brackets. -/
def attributeContent (g : Rules) : Parser Attribute := do
  let here ← position
  let name? ← if ← peek (.word "unsafe") then some <$> Word.text <$> anyWord else plainPath
  if ← peek .anyGroup then
    let (_, inner, close) ← anyGroup
    return ⟨here, name?, .list inner close⟩
  else if ← mark? "=" then return ⟨here, name?, ← attributeValue g⟩
  else return ⟨here, name?, .word⟩

/-- The attributes before something. -/
def outerAttributes (g : Rules) : Parser (List Attribute) := many do
  if ← mark? "#" then return some (← group .bracket (attributeContent g)) else return none

/-- The attributes at the start of what they belong to. -/
def innerAttributes (g : Rules) : Parser (List Attribute) := many do
  if (← peek (.mark "#")) && (← peek2 (.mark "!")) then
    mark "#"
    mark "!"
    return some (← group .bracket (attributeContent g))
  else return none

/-! ## Visibility -/

/-- Where something is visible, in parentheses; none if it is not that. -/
def visibilityScope : Parser Unit := group .parenthesis do
  if ← peekAny [.word "crate", .word "self", .word "super"] then
    discard anyWord
    if !(← atEnd) then fail (.leftover none)
  else
    word "in"
    discard plainPath

/-- The visibility of something; whether there is any. -/
def visibility : Parser Bool := do
  if !(← word? "pub") then return false
  match ← rest with
  | .group _ .parenthesis (.word _ first :: _) _ :: _ =>
    if first.isPlain "in" then visibilityScope else discard <| attempt visibilityScope
  | _ => discard <| attempt visibilityScope
  return true

/-! ## Blocks -/

/-- A block in braces, at whose start attributes may stand or not. -/
def block (g : Rules) (attributes : Bool) : Parser Unit := do
  let (_, found) ← collected <| group .brace do
    if attributes then discard <| innerAttributes g
    g.statements
  declare (.block found)

/-- The marks and words that may stand before `fn`, and `fn` itself. -/
def signatureStart (safe : Bool) : Parser Unit := do
  discard <| word? "const"
  discard <| word? "async"
  if safe && (← peek (.word "safe")) then word "safe" else discard <| word? "unsafe"
  if ← word? "extern" then
    if ← peek .stringLiteral then discard literal
  word "fn"

end RequestBinding.Source.Grammar
