import RequestBinding.Source.Grammar.Member

/-!
# Items

What stands in a file, a module or a block beside its statements. The declarations that are kept are
types, modules and blocks.

What is found inside the definition of a struct is dropped: only the struct itself is kept.
-/

namespace RequestBinding.Source.Grammar

open Source.Parser

/-! ## Types -/

/-- The tokens of a type. -/
def fieldType (p : Parser Unit) : Parser (List TokenTree) := return (← captured p).2

/-- A field with a name. A field named `_` may declare its type in place. -/
def namedField (g : Rules) : Parser NamedField := do
  let attributes ← outerAttributes g
  discard visibility
  let nameless ← peek (.word "_")
  let name ← if nameless then anyWord else identifier
  mark ":"
  let inPlace := nameless
    && ((← peek (.word "struct")) || (← peek (.word "union")) && (← peek2 (.group .brace)))
  let type ← fieldType <|
    if inPlace then do
      discard anyWord
      group .brace (advance [])
    else discard <| g.type true
  return ⟨⟨attributes, type⟩, name⟩

/-- A field without a name. -/
def numberedField (g : Rules) : Parser FieldDeclaration := do
  let attributes ← outerAttributes g
  discard visibility
  return ⟨attributes, ← fieldType (discard <| g.type true)⟩

/-- Fields in braces. -/
def namedFields (g : Rules) : Parser (List NamedField) :=
  group .brace (separated (namedField g))

/-- Fields in parentheses. -/
def numberedFields (g : Rules) : Parser (List FieldDeclaration) :=
  group .parenthesis (separated (numberedField g))

/-- The end of a struct without named fields. -/
def tupleEnd (g : Rules) : Parser Unit := do
  let conditional ← whereClause? g
  if ← peek (.mark ";") then mark ";"
  else refuse (if conditional then [.mark ";"] else [.word "where", .mark ";"])

/-- The form of a struct after its name, with its fields. -/
def structBody (g : Rules) : Parser TypeForm := do
  let conditional ← whereClause? g
  if !conditional && (← peek (.group .parenthesis)) then
    let fields ← numberedFields g
    tupleEnd g
    return .tupleStruct fields
  else if ← peek (.group .brace) then return .namedStruct (← namedFields g)
  else if ← mark? ";" then return .tupleStruct []
  else
    let first := if conditional then [] else [Expectation.word "where", .group .parenthesis]
    refuse (first ++ [.group .brace, .mark ";"])

/-- A struct. -/
def structItem (g : Rules) (since : ParserState) (attributes : List Attribute) : Parser Unit := do
  word "struct"
  let here ← position
  let name ← identifier
  discard <| generics g
  let form ← structBody g
  modify fun s => { s with found := .type ⟨attributes, here, name, form⟩ :: since.found }

/-- A variant of an enumeration. -/
def variant (g : Rules) : Parser Unit := do
  discard <| outerAttributes g
  discard visibility
  discard identifier
  if ← peek (.group .brace) then discard <| namedFields g
  else if ← peek (.group .parenthesis) then discard <| numberedFields g
  if ← mark? "=" then discard <| g.expression true

/-- An enumeration. -/
def enumItem (g : Rules) (attributes : List Attribute) : Parser Unit := do
  word "enum"
  let here ← position
  declare (.type ⟨attributes, here, ← identifier, .enumeration⟩)
  discard <| generics g
  discard <| whereClause? g
  discard <| group .brace (separated (variant g))

/-- A union. -/
def unionItem (g : Rules) (attributes : List Attribute) : Parser Unit := do
  word "union"
  let here ← position
  declare (.type ⟨attributes, here, ← identifier, .union⟩)
  discard <| generics g
  discard <| whereClause? g
  discard <| namedFields g

/-! ## Modules -/

/-- An item with its attributes. -/
def attributedItem (g : Rules) : Parser Unit := do
  let since ← get
  g.item since (← outerAttributes g)

/-- A module, whose items may stand in another file. -/
def moduleItem (g : Rules) (since : ParserState) (attributes : List Attribute) : Parser Unit := do
  discard <| word? "unsafe"
  word "mod"
  let name ← if ← peek (.word "try") then anyWord else identifier
  if ← mark? ";" then declareModule attributes name []
  else if ← peek (.group .brace) then
    let (inner, found) ← collected <| group .brace do
      let inner ← innerAttributes g
      discard <| untilEnd (attributedItem g)
      return inner
    declareModule (attributes ++ inner) name found
  else refuse [.mark ";", .group .brace]
where
  /-- Adds a module with what its attributes and its items declare. -/
  declareModule (attributes : List Attribute) (name : Word) (inner : List Declaration) :
      Parser Unit := modify fun s =>
    let before := s.found.take (s.found.length - since.found.length)
    { s with found := .module attributes name (before.reverse ++ inner) :: since.found }

/-! ## Imports -/

/-- The braces of a `use`, in which trees may start at the root or not. -/
def useGroup (g : Rules) (root : Bool) : Parser Unit :=
  discard <| group .brace <| separated do
    let rooted ← if root then mark? "::" else pure false
    g.useTree (root && !rooted)

/-- What a `use` brings in. -/
def useTree (g : Rules) (root : Bool) : Parser Unit := do
  let words := [.identifier, .word "self", .word "super", .word "crate", .word "try"]
  if ← peekAny words then
    discard anyWord
    if ← mark? "::" then g.useTree false
    else if ← word? "as" then
      if ← peekAny [.identifier, .word "_"] then discard anyWord
      else fail (.expected [.rename])
  else if ← peek (.mark "*") then mark "*"
  else if ← peek (.group .brace) then useGroup g root
  else refuse (words ++ [.mark "*", .group .brace])

/-- A `use`. -/
def useItem (g : Rules) : Parser Unit := do
  word "use"
  let rooted ← mark? "::"
  g.useTree !rooted
  mark ";"

/-- A crate that is brought in. -/
def externCrate : Parser Unit := do
  word "extern"
  word "crate"
  if ← peek (.word "self") then discard anyWord else discard identifier
  if ← word? "as" then
    if ← peek (.word "_") then discard anyWord else discard identifier
  mark ";"

/-! ## Values -/

/-- A static; without type or value it is kept as written. -/
def staticItem (g : Rules) (since : ParserState) : Parser Unit := do
  word "static"
  discard <| word? "mut"
  discard identifier
  if ← mark? "=" then
    discard <| g.expression true
    mark ";"
    verbatim since
  else
    mark ":"
    discard <| g.type true
    if ← mark? ";" then verbatim since
    else
      mark "="
      discard <| g.expression true
      mark ";"

/-- A constant; a generic one is kept as written. -/
def constItem (g : Rules) (since : ParserState) : Parser Unit := do
  word "const"
  constName
  let (hasValue, plain) ← constTail g
  if !hasValue || !plain then verbatim since

/-- A function; without body it is kept as written. -/
def functionItem (g : Rules) (since : ParserState) : Parser Unit := do
  signature g false
  if ← mark? ";" then verbatim since else block g true

/-! ## Blocks of members -/

/-- Members in braces. -/
def members (g : Rules) (member : Parser Unit) : Parser Unit := group .brace do
  discard <| innerAttributes g
  discard <| untilEnd member

/-- A foreign block. -/
def foreignItem (g : Rules) : Parser Unit := do
  discard <| word? "unsafe"
  if !(← extern?) then fail (.expected [.word "extern"])
  members g (foreignMember g)

/-- What `extern` starts: a crate or a foreign block; the latter has no visibility. -/
def externItem (g : Rules) (start : ParserState) (visible : Bool) : Parser Unit := do
  let foreign := do
    if visible then set start
    foreignItem g
  if ← peek2 (.word "crate") then externCrate
  else if ← peek2 (.group .brace) then foreign
  else if (← peek2 .stringLiteral) && (← peek3 (.group .brace)) then foreign
  else
    word "extern"
    if ← peek .stringLiteral then
      discard literal
      refuse [.group .brace]
    else refuse [.word "crate", .group .brace, .stringLiteral]

/-- The bounds of a trait alias. -/
def traitAliasBounds (g : Rules) : Parser Unit := loop do
  if ← peekAny [.word "where", .mark ";"] then return false
  discard <| g.bound false true
  mark? "+"

/-- A trait after its name. -/
def traitBody (g : Rules) : Parser Unit := do
  let ends := [Expectation.word "where", .group .brace]
  beforeWhere g do
    if ← mark? ":" then
      loop do
        if ← peekAny ends then return false
        discard <| g.bound false true
        if ← peekAny ends then return false
        mark "+"
        return true
  members g (traitMember g)

/-- A trait with the words that may stand before it, or a trait alias. -/
def traitItem (g : Rules) : Parser Unit := do
  let unsafety ← word? "unsafe"
  let auto ← word? "auto"
  word "trait"
  discard identifier
  discard <| generics g
  if unsafety || auto || (← peekAny [.group .brace, .mark ":", .word "where"]) then traitBody g
  else if ← mark? "=" then
    beforeWhere g (traitAliasBounds g)
    mark ";"
  else refuse [.group .brace, .mark ":", .word "where", .mark "="]

/-- The type and perhaps the trait of an implementation; whether the trait is a plain path. -/
def implHead (g : Rules) : Parser Bool := do
  let here ← position
  let negative := (← peek (.mark "!")) && !(← peek2 (.group .brace))
  if negative then mark "!"
  let first ← g.type true
  if ← word? "for" then
    discard <| g.type true
    return first = .name || first = .path
  else
    if negative then failAt here .negativeInherent
    return true

/-- An implementation; one of a form that is not settled is kept as written. -/
def implItem (g : Rules) (since : ParserState) (visible : Bool) : Parser Unit := do
  discard <| word? "default"
  discard <| word? "unsafe"
  word "impl"
  if startsGenerics (← rest) then discard <| generics g
  let isConst := (← peek (.word "const")) || (← peek (.mark "?")) && (← peek2 (.word "const"))
  if isConst then
    discard <| mark? "?"
    word "const"
  let (plain, found) ← collected (implHead g)
  discard <| whereClause? g
  found.forM declare
  members g (implMember g)
  if visible || isConst || !plain then verbatim since

/-- The definition of a macro. -/
def macroItem (since : ParserState) : Parser Unit := do
  word "macro"
  discard identifier
  let hasParameters ← peek (.group .parenthesis)
  if hasParameters then discard anyGroup
  if ← peek (.group .brace) then discard anyGroup
  else refuse (if hasParameters then [.group .brace] else [.group .parenthesis, .group .brace])
  verbatim since

/-! ## All items -/

/-- The words with which an item may start. -/
def itemStarts : List Expectation :=
  (["fn", "extern", "use", "static", "const", "unsafe", "mod", "type", "struct", "enum", "union",
    "trait", "auto", "impl", "default", "macro"]).map Expectation.word

/-- What `unsafe` starts, apart from functions. -/
def unsafeItem (g : Rules) (since start : ParserState) (visible : Bool)
    (attributes : List Attribute) : Parser Unit := do
  let auto := (← peek2 (.word "auto")) && (← peek3 (.word "trait"))
  if (← peek2 (.word "trait")) || auto then traitItem g
  else if ← peek2 (.word "impl") then implItem g since visible
  else if ← peek2 (.word "extern") then
    if visible then set start
    foreignItem g
  else if ← peek2 (.word "mod") then moduleItem g since attributes
  else
    word "unsafe"
    refuse [.word "trait", .word "auto", .word "impl", .word "extern", .word "mod"]

/-- An item after its attributes, which start at the given state. -/
def item (g : Rules) (since : ParserState) (attributes : List Attribute) : Parser Unit := do
  let start ← get
  let visible ← visibility
  if ← startsFunction false then functionItem g since
  else if ← peek (.word "extern") then externItem g start visible
  else if ← peek (.word "use") then useItem g
  else if ← peek (.word "static") then staticItem g since
  else if ← peek (.word "const") then constItem g since
  else if ← peek (.word "unsafe") then unsafeItem g since start visible attributes
  else if ← peek (.word "mod") then moduleItem g since attributes
  else if ← peek (.word "type") then
    if !(← typeAlias g .beforeValue) then verbatim since
  else if ← peek (.word "struct") then structItem g since attributes
  else if ← peek (.word "enum") then enumItem g attributes
  else if (← peek (.word "union")) && (← peek2 .identifier) then unionItem g attributes
  else if ← peek (.word "trait") then traitItem g
  else if (← peek (.word "auto")) && (← peek2 (.word "trait")) then traitItem g
  else if (← peek (.word "impl")) || (← peek (.word "default")) && !(← peek2 (.mark "!")) then
    implItem g since visible
  else if ← peek (.word "macro") then macroItem since
  else if !visible && (← peekAny macroStarts) then macroCall true
  else refuse (itemStarts ++ if visible then [] else macroStarts)

end RequestBinding.Source.Grammar
