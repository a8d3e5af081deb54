import RequestBinding.Text.Blank

/-!
# Templates

A template is a text with places for values, and one part in the middle that is repeated for each of
several items. A value may be trimmed. Where the repeated part begins and where it ends stand marks,
which may cut off the blanks before them; the line end after the whole template does not count.
-/

namespace RequestBinding

/-- A part of a template that is filled with something: a text as it stands, or a value of it. -/
inductive TemplatePart (α : Type) where
  | literal (text : String)
  | value (of : α → String)
  | trimmedValue (of : α → String)

namespace TemplatePart

variable {α : Type}

def fill (x : α) : TemplatePart α → String
  | literal text => text
  | value of => of x
  | trimmedValue of => Text.trimmed (of x)

/-- The parts as one text. -/
def fillAll (x : α) (parts : List (TemplatePart α)) : String := String.join (parts.map (fill x))

/-- The parts with another text at their end, if a text stands there. -/
def mapLast (f : String → String) : List (TemplatePart α) → List (TemplatePart α)
  | [] => []
  | [literal text] => [literal (f text)]
  | part :: more => part :: mapLast f more

end TemplatePart

namespace Template

/-- The text without the blanks at its end. -/
def trimmedEnd (text : String) : String := String.ofList (Text.trimEnd text.toList)

/-- The text without a line end at its end. -/
def withoutLineEnd (text : String) : String :=
  if text.toList.getLast? = some '\n' then String.ofList text.toList.dropLast else text

end Template

/-- A template that is filled with one thing and with a list of items. -/
structure Template (α β : Type) where
  before : List (TemplatePart α)
  /-- The mark where the repeated part begins cuts off the blanks before it. -/
  cutsBefore : Bool
  repeated : List (TemplatePart β)
  /-- The mark where the repeated part ends cuts off the blanks before it. -/
  cutsWithin : Bool
  after : List (TemplatePart α)

namespace Template

variable {α β : Type}

/-- What stands before a mark. -/
def upToMark {γ : Type} (cuts : Bool) (parts : List (TemplatePart γ)) : List (TemplatePart γ) :=
  if cuts then TemplatePart.mapLast trimmedEnd parts else parts

/-- The filled template. -/
def fill (template : Template α β) (x : α) (items : List β) : String :=
  TemplatePart.fillAll x (upToMark template.cutsBefore template.before)
    ++ String.join (items.map fun item =>
        TemplatePart.fillAll item (upToMark template.cutsWithin template.repeated))
    ++ TemplatePart.fillAll x (TemplatePart.mapLast withoutLineEnd template.after)

end Template

end RequestBinding
