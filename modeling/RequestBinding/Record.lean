import RequestBinding.Directive

/-!
# Records

A record describes a struct with its annotated fields, in the order of their declaration.

## Kinds of fields

Only strings and primitive integers can be bound. The kind of a field is decided by the text of its
type, blanks aside: a plain name counts, `String` also by its full path in `std` and `alloc`, a
primitive integer also under `std::primitive` and `core::primitive`.
-/

namespace RequestBinding

inductive FieldKind where
  | string
  | integer
  | other
deriving Repr, DecidableEq

namespace FieldKind

/-- The word for a kind in listings. -/
def word : FieldKind → String
  | string => "string"
  | integer => "integer"
  | other => "other"

/-- The primitive integer types. -/
def integerTypes : List String :=
  ["i8", "i16", "i32", "i64", "i128", "isize", "u8", "u16", "u32", "u64", "u128", "usize"]

/-- The type text without its blanks. -/
def compact (type : List Char) : List Char := type.filter fun c => !Text.isBlank c

/-- A compact type text is a plain name or lies where the standard types are. -/
def isQualified (compact : List Char) : Bool :=
  compact == Text.lastSegment compact
    || compact == "std::string::String".toList
    || compact == "alloc::string::String".toList
    || "std::primitive::".toList.isPrefixOf compact
    || "core::primitive::".toList.isPrefixOf compact

/-- The kind of a field with this type text. -/
def ofType (type : String) : FieldKind :=
  let text := compact type.toList
  let last := Text.lastSegment text
  if !isQualified text then other
  else if last == "String".toList then string
  else if integerTypes.contains (String.ofList last) then integer
  else other

end FieldKind

/-- An annotated field. -/
structure Field where
  name : String
  /-- The type as printed from its tokens. -/
  type : String
  kind : FieldKind
  bind : Option BindDirective
  bounds : Option Bounds
deriving Repr, DecidableEq

namespace Field

/-- A field of the kind that its type has. -/
def of (name type : String) (bind : Option BindDirective) (bounds : Option Bounds) : Field :=
  ⟨name, type, FieldKind.ofType type, bind, bounds⟩

def hasDirective (field : Field) : Bool := field.bind.isSome || field.bounds.isSome

/-- The name of the primitive type of an integer field. -/
def integerType? (field : Field) : Option String :=
  match field.kind with
  | .integer => some (String.ofList (Text.trim (Text.lastSegment field.type.toList)))
  | _ => none

/-- The bounds that are checked: those of integer fields. -/
def integerBounds? (field : Field) : Option Bounds :=
  match field.kind with
  | .integer => field.bounds
  | _ => none

end Field

/-- A struct with its annotated fields. -/
structure Record where
  name : String
  /-- The enclosing modules, outermost first. -/
  modulePath : List String
  fields : List Field
deriving Repr, DecidableEq

namespace Record

/-- The path of the type from the file that declares it. -/
def typePath (record : Record) : String :=
  let path := "::".intercalate record.modulePath
  if path.isEmpty then record.name else path ++ "::" ++ record.name

end Record

end RequestBinding
