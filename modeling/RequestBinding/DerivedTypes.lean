import RequestBinding.Source.TagAttribute
import RequestBinding.Source.File

/-!
# Derived types

A type that derives `Tagged` must be a struct, and every `tag` attribute of its fields must hold a
string. `faults` says which are not so.
-/

namespace RequestBinding.DerivedTypes

open Source

/-- What is wrong with a derived type. -/
inductive Fault where
  | notStruct (position : Position)
  | tag (error : SourceError)

namespace Fault

def position : Fault → Position
  | notStruct position => position
  | tag error => error.position

def message : Fault → String
  | notStruct _ => "Tagged can only be derived for structs"
  | tag error => error.text

end Fault

/-! ## What is derived -/

/-- The token is the name `Tagged`. -/
def isTagged : TokenTree → Bool
  | .word _ word => word.isPlain "Tagged"
  | _ => false

/-- The token is a comma. -/
def isComma : TokenTree → Bool
  | .mark _ mark _ => mark = .comma
  | _ => false

/-- A path in the list ends with the name `Tagged`: a comma or nothing follows it. -/
def namesTagged : List TokenTree → Bool
  | [] => false
  | [tree] => isTagged tree
  | tree :: next :: more => isTagged tree && isComma next || namesTagged (next :: more)

/-- The attribute derives `Tagged`. -/
def derives (attr : Attribute) : Bool :=
  attr.isNamed "derive" &&
    match attr.form with
    | .list arguments _ => namesTagged arguments
    | _ => false

mutual

/-- The types that a declaration declares. -/
def declaredTypes : Declaration → List TypeDeclaration
  | .type declared => [declared]
  | .module _ _ inner => allDeclaredTypes inner
  | .block inner => allDeclaredTypes inner

def allDeclaredTypes : List Declaration → List TypeDeclaration
  | [] => []
  | declaration :: more => declaredTypes declaration ++ allDeclaredTypes more

end

/-! ## What is wrong -/

/-- What is wrong with a `tag` attribute, if anything: it must hold a string. Which one does not
matter here. -/
def attributeError? (attr : Attribute) : Option SourceError :=
  match attr.form with
  | .word => some ⟨attr.position, false, .noValue "tag"⟩
  | .value _ (some _) => none
  | .value place none => some ⟨place, false, .noStringValue "tag"⟩
  | .list arguments close =>
    match Attribute.stringArgument close arguments with
    | .ok _ => none
    | .error e => some e

/-- The `tag` attributes of all fields. -/
def tagAttributes (type : TypeDeclaration) : List Attribute :=
  (type.form.fields.flatMap (·.attributes)).filter (·.isNamed "tag")

/-- What is wrong with a derived type, if anything. -/
def fault? (type : TypeDeclaration) : Option Fault :=
  match type.form with
  | .enumeration => some (.notStruct type.position)
  | .union => some (.notStruct type.position)
  | _ => ((tagAttributes type).findSome? attributeError?).map .tag

/-- What is wrong with the derived types of a source, in their order. -/
def faults (text : String) : Except SourceError (List Fault) := do
  let declared ← declarations text
  return ((allDeclaredTypes declared).filter (·.attributes.any derives)).filterMap fault?

end RequestBinding.DerivedTypes
