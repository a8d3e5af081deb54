import RequestBinding.Source.Token

/-!
# Declarations

What a source declares, as far as tags are concerned: its types with their fields, the inline
modules and the blocks around them, in the order of the source. Functions, expressions and all other
items are left out; what is declared inside them stands in their place.
-/

namespace RequestBinding.Source

/-- What an attribute holds after its path. -/
inductive AttributeForm where
  | word
  /-- The tokens between delimiters, with the place of the closing one. -/
  | list (arguments : List TokenTree) (close : Position)
  /-- A value with its place; the text of the literal if it is one. -/
  | value (position : Position) (literal? : Option String)
deriving Repr

/-- An attribute; its name is its path if that is a single word. -/
structure Attribute where
  position : Position
  name? : Option String
  form : AttributeForm
deriving Repr

/-- The attribute has this name. -/
def Attribute.isNamed (attr : Attribute) (name : String) : Bool :=
  attr.name? == some name

/-- A field of a struct: its attributes and the tokens of its type. -/
structure FieldDeclaration where
  attributes : List Attribute
  type : List TokenTree
deriving Repr

/-- A field that has a name. -/
structure NamedField extends FieldDeclaration where
  name : Word
deriving Repr

/-- The form of a type. Only a struct has its fields here. -/
inductive TypeForm where
  /-- A struct with named fields. -/
  | namedStruct (fields : List NamedField)
  /-- A struct with numbered fields, or with none. -/
  | tupleStruct (fields : List FieldDeclaration)
  | enumeration
  | union
deriving Repr

/-- The fields of a type, whether they have names or not. -/
def TypeForm.fields : TypeForm → List FieldDeclaration
  | namedStruct fields => fields.map (·.toFieldDeclaration)
  | tupleStruct fields => fields
  | enumeration => []
  | union => []

/-- A declared type. -/
structure TypeDeclaration where
  attributes : List Attribute
  position : Position
  name : Word
  form : TypeForm
deriving Repr

inductive Declaration where
  | type (declared : TypeDeclaration)
  | module (attributes : List Attribute) (name : Word) (inner : List Declaration)
  | block (inner : List Declaration)
deriving Repr

end RequestBinding.Source
