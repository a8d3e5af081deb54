import RequestBinding.Source.Problem
import RequestBinding.Source.Declaration
import RequestBinding.Source.Parser
import RequestBinding.Source.Lexeme.StringValue

/-!
# Tag attributes

The tag of a field stands in an attribute: as its value, `#[tag = "…"]`, or as its only
argument, `#[tag("…")]`. It must be a string literal.
-/

namespace RequestBinding.Source

namespace Attribute

/-- The value of the string literal that is the only argument; the arguments end at a place. -/
def stringArgument (close : Position) : List TokenTree → Except SourceError (List Char)
  | [] => .error ⟨close, true, .expected [.stringLiteral]⟩
  | .literal p text :: more =>
    if isStringText text then
      match more with
      | [] => .ok (Lexeme.stringValue text.toList)
      | tree :: _ => .error ⟨tree.position, false, .leftover none⟩
    else .error ⟨p, false, .expected [.stringLiteral]⟩
  | tree :: _ => .error ⟨tree.position, false, .expected [.stringLiteral]⟩

/-- The string that an attribute of this name holds. -/
def string (name : String) (attr : Attribute) : Except SourceError (List Char) :=
  match attr.form with
  | .word => .error ⟨attr.position, false, .noValue name⟩
  | .value _ (some text) => .ok (Lexeme.stringValue text.toList)
  | .value p none => .error ⟨p, false, .noStringValue name⟩
  | .list arguments close => stringArgument close arguments

end Attribute

/-- The tag of a field: what the first attribute of the name holds. -/
def FieldDeclaration.tag? (name : String) (field : FieldDeclaration) :
    Except SourceError (Option (List Char)) :=
  match field.attributes.find? (·.isNamed name) with
  | none => .ok none
  | some attr => (attr.string name).map some

end RequestBinding.Source
