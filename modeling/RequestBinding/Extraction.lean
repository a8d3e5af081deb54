import RequestBinding.Tag
import RequestBinding.Record
import RequestBinding.Log.Event
import RequestBinding.Source.TagAttribute
import RequestBinding.Source.File

/-!
# Extraction

The records of a source: its annotated structs in the order of their declaration.

`findings` goes through the declarations and notes what there is to say about each; `settle` makes
the result of that. Modules for tests are passed over. A struct in a block cannot be named from
outside and so gives no record, but its tags must still be strings.
-/

namespace RequestBinding.Extraction

open Source

/-! ## Fields -/

/-- A directive that may be wrong: the directive, or an event that says why there is none. -/
def keepValid (field key : String) :
    Option (Except DirectiveError α) → Option α × List Event
  | none => (none, [])
  | some (.ok directive) => (some directive, [])
  | some (.error e) => (none, [.ignoredDirective field key e.message])

/-- The field with the directives of its tag. -/
def annotatedField (name type : String) (tag : List Char) : Option Field × List Event :=
  let bind := (Tag.lookup tag "bind".toList).map Directive.readBind
  let bounds := (Tag.lookup tag "validate".toList).map Directive.readValidate
  let (bind, bindEvents) := keepValid name "bind" bind
  let (bounds, boundsEvents) := keepValid name "validate" bounds
  let field := Field.of name type bind bounds
  (if field.hasDirective then some field else none, bindEvents ++ boundsEvents)

/-- The field that a declaration gives, if it gives one. -/
def readField (attr : String) (field : NamedField) :
    Except SourceError (Option Field × List Event) :=
  match field.tag? attr with
  | .error e => .error e
  | .ok none => .ok (none, [])
  | .ok (some tag) => .ok (annotatedField field.name.text (printTokens field.type) tag)

/-- The fields that declarations give, up to the first that is faulty, with the events till then. -/
def readFields (attr : String) :
    List NamedField → Except SourceError (List Field) × List Event
  | [] => (.ok [], [])
  | field :: more =>
    match readField attr field with
    | .error e => (.error e, [])
    | .ok (field?, events) =>
      let (fields, further) := readFields attr more
      (fields.map (field?.toList ++ ·), events ++ further)

/-! ## Declarations -/

/-- Something to say about a source. -/
inductive Finding where
  | record (record : Record)
  | event (event : Event)
  | error (error : SourceError)

/-- The place of a declaration: the modules around it, and whether it is in a block. -/
structure Place where
  modules : List String
  inBlock : Bool

/-- The file itself. -/
def Place.file : Place := ⟨[], false⟩

/-- What there is to say about a struct with these fields. -/
def structFindings (attr : String) (place : Place) (name : Word) (declared : List NamedField) :
    List Finding :=
  let (fields, events) := readFields attr declared
  events.map .event ++
    match fields with
    | .error e => [.error e]
    | .ok [] => []
    | .ok fields =>
      if place.inBlock then [.event (.skippedLocalStruct name.text)]
      else [.record ⟨name.text, place.modules, fields⟩]

/-- What there is to say about a type. -/
def typeFindings (attr : String) (place : Place) (type : TypeDeclaration) : List Finding :=
  match type.form with
  | .namedStruct fields => structFindings attr place type.name fields
  | _ => []

/-- The attribute says that something is for tests only. -/
def isTestOnly (attr : Attribute) : Bool :=
  attr.isNamed "cfg" &&
    match attr.form with
    | .list arguments _ => printTokens arguments == "test"
    | _ => false

mutual

/-- What there is to say about a declaration at a place. -/
def findings (attr : String) (place : Place) : Declaration → List Finding
  | .type declared => typeFindings attr place declared
  | .module attributes name inner =>
    if attributes.any isTestOnly then [.event (.skippedTestModule name.text)]
    else findingsOfAll attr { place with modules := place.modules ++ [name.text] } inner
  | .block inner => findingsOfAll attr { place with inBlock := true } inner

/-- What there is to say about declarations at a place. -/
def findingsOfAll (attr : String) (place : Place) : List Declaration → List Finding
  | [] => []
  | declaration :: more => findings attr place declaration ++ findingsOfAll attr place more

end

/-! ## The result -/

/-- The first error. -/
def firstError (all : List Finding) : Option SourceError := all.findSome? fun
  | .error e => some e
  | _ => none

/-- All records. -/
def allRecords (all : List Finding) : List Record := all.filterMap fun
  | .record r => some r
  | _ => none

/-- The records, or the first error. -/
def settle (all : List Finding) : Except SourceError (List Record) :=
  match firstError all with
  | some e => .error e
  | none => .ok (allRecords all)

/-- The events: after an error only those about modules. -/
def eventsOf (failed : Bool) : List Finding → List Event
  | [] => []
  | .record _ :: more => eventsOf failed more
  | .error _ :: more => eventsOf true more
  | .event e :: more =>
    if failed && !e.isAboutModule then eventsOf failed more else e :: eventsOf failed more

/-- The records of a source and the events of reading it. -/
def records (attr text : String) : Except SourceError (List Record) × List Event :=
  match declarations text with
  | .error e => (.error e, [])
  | .ok declarations =>
    let all := findingsOfAll attr .file declarations
    (settle all, eventsOf false all)

end RequestBinding.Extraction
