import RequestBinding.Extraction

/-!
# The walk over a source

What `Extraction.records` gives, said on the structs of a source instead of on a walk with a place:
each struct comes with all that encloses it (`NestedStruct`), and the result is decided by that
alone.

* A field of a struct outside the modules for tests whose tag is no string is fatal, also in a
  block. The first such field decides the error.
* Without one, each struct that lies neither in a block nor in a module for tests gives a record of
  its qualifying fields, if it has any.

`records_outcome` says this of every file; `exists_isRecordOf` says of a record which struct it is
that of, and what its fields take from there. The induction behind both (`results_findings`) is over
the declarations for all places at once: what a module or a block adds to the place is what it adds
to the enclosures of the structs in it.
-/

namespace RequestBinding

namespace Source

/-! ## Tags that are strings -/

/-- The attribute holds a string literal, as its value or as its only argument, of this value. -/
inductive Attribute.Holds : Attribute → List Char → Prop
  | value {position place : Position} {name? : Option String} {text : String} :
    Holds ⟨position, name?, .value place (some text)⟩ (Lexeme.stringValue text.toList)
  | argument {position place close : Position} {name? : Option String} {text : String} :
    isStringText text = true →
      Holds ⟨position, name?, .list [.literal place text] close⟩ (Lexeme.stringValue text.toList)

theorem Attribute.stringArgument_eq_ok_iff {close : Position} {arguments : List TokenTree}
    {value : List Char} :
    stringArgument close arguments = .ok value ↔
      ∃ place text, arguments = [.literal place text] ∧ isStringText text = true ∧
        Lexeme.stringValue text.toList = value := by
  constructor
  · intro h
    unfold stringArgument at h
    split at h
    · cases h
    · next place text more =>
      split at h
      · next htext =>
        cases more with
        | nil => exact ⟨place, text, rfl, htext, Except.ok.inj h⟩
        | cons => cases h
      · cases h
    · cases h
  · rintro ⟨place, text, rfl, htext, rfl⟩
    rw [stringArgument, if_pos htext]

theorem Attribute.string_eq_ok_iff (name : String) {attr : Attribute} {value : List Char} :
    attr.string name = .ok value ↔ attr.Holds value := by
  constructor
  · intro h
    obtain ⟨position, name?, form⟩ := attr
    cases form with
    | word => cases h
    | list arguments close =>
      obtain ⟨place, text, rfl, htext, rfl⟩ := stringArgument_eq_ok_iff.mp h
      exact .argument htext
    | value place literal? =>
      cases literal? with
      | none => cases h
      | some text =>
        obtain rfl := Except.ok.inj h
        exact .value
  · intro h
    cases h with
    | value => rfl
    | @argument _ place close _ text htext =>
      show stringArgument close [.literal place text] = _
      exact stringArgument_eq_ok_iff.mpr ⟨place, text, rfl, htext, rfl⟩

/-- The first attribute of this name, if there is one, holds a string. -/
def FieldDeclaration.HasStringTag (name : String) (field : FieldDeclaration) : Prop :=
  ∀ attr, field.attributes.find? (·.isNamed name) = some attr → ∃ value, attr.Holds value

/-! ## Structs with what encloses them -/

/-- What a declaration may stand in. -/
inductive Enclosure where
  | module (attributes : List Attribute) (name : Word)
  | block

namespace Enclosure

def isTestModule : Enclosure → Bool
  | module attributes _ => attributes.any Extraction.isTestOnly
  | block => false

def isBlock : Enclosure → Bool
  | module _ _ => false
  | block => true

def moduleName? : Enclosure → Option String
  | module _ name => some name.text
  | block => none

end Enclosure

/-- A struct with named fields, and what encloses it, outermost first. -/
structure NestedStruct where
  enclosing : List Enclosure
  name : Word
  fields : List NamedField

namespace NestedStruct

/-- The struct within one more enclosure. -/
def inside (enclosure : Enclosure) (struct : NestedStruct) : NestedStruct :=
  { struct with enclosing := enclosure :: struct.enclosing }

/-- It lies in a module for tests, at any depth. -/
def isForTests (struct : NestedStruct) : Bool := struct.enclosing.any (·.isTestModule)

/-- It lies in a block, at any depth. -/
def isLocal (struct : NestedStruct) : Bool := struct.enclosing.any (·.isBlock)

/-- The modules around it, outermost first. -/
def modulePath (struct : NestedStruct) : List String := struct.enclosing.filterMap (·.moduleName?)

end NestedStruct

mutual

/-- The structs of a declaration, in the order of the source. -/
def nestedStructs : Declaration → List NestedStruct
  | .type declared =>
    match declared.form with
    | .namedStruct fields => [⟨[], declared.name, fields⟩]
    | _ => []
  | .module attributes name inner =>
    (nestedStructsOfAll inner).map (·.inside (.module attributes name))
  | .block inner => (nestedStructsOfAll inner).map (·.inside .block)

/-- The structs of declarations, in the order of the source. -/
def nestedStructsOfAll : List Declaration → List NestedStruct
  | [] => []
  | declaration :: more => nestedStructs declaration ++ nestedStructsOfAll more

end

end Source

namespace Extraction

open Source

/-! ## What is expected -/

/-- The structs outside the modules for tests, in the order of the source. -/
def examined (declarations : List Declaration) : List NestedStruct :=
  (nestedStructsOfAll declarations).filter fun struct => !struct.isForTests

/-- The directive in the first pair of a key, if that pair holds a valid one. -/
def firstDirective (key : String) (read : List Char → Except DirectiveError α)
    (tag : List Char) : Option α :=
  ((Tag.pairs tag).find? (·.key == key.toList)).bind fun pair => (read pair.value).toOption

/-- The field of a record that a declared field gives: it qualifies with any directive. -/
def qualifying? (attr : String) (field : NamedField) : Option Field :=
  match field.attributes.find? (·.isNamed attr) with
  | none => none
  | some first =>
    match first.string attr with
    | .error _ => none
    | .ok tag =>
      let bind := firstDirective "bind" Directive.readBind tag
      let bounds := firstDirective "validate" Directive.readValidate tag
      if bind.isSome || bounds.isSome then
        some (Field.of field.name.text (printTokens field.type) bind bounds)
      else none

/-- The record of a struct: it can be named from outside and has a field that qualifies. -/
def expectedRecord? (attr : String) (struct : NestedStruct) : Option Record :=
  if struct.isLocal then none
  else
    match struct.fields.filterMap (qualifying? attr) with
    | [] => none
    | fields => some ⟨struct.name.text, struct.modulePath, fields⟩

/-- The result of a source whose structs outside the modules for tests are these. -/
inductive Outcome (attr : String) (structs : List NestedStruct) :
    Except SourceError (List Record) → Prop
  /-- The first field whose tag is no string decides the error. -/
  | fault {before after : List NamedField} {field : NamedField} {first : Attribute}
    {e : SourceError} :
    structs.flatMap (·.fields) = before ++ field :: after →
    (∀ f ∈ before, f.HasStringTag attr) →
    field.attributes.find? (·.isNamed attr) = some first →
    (¬∃ value, first.Holds value) →
    first.string attr = .error e →
      Outcome attr structs (.error e)
  | records :
    (∀ struct ∈ structs, ∀ field ∈ struct.fields, field.HasStringTag attr) →
      Outcome attr structs (.ok (structs.filterMap (expectedRecord? attr)))

/-! ## Fields -/

/-- The error of a field whose tag is no string. -/
def fault? (attr : String) (field : NamedField) : Option SourceError :=
  match field.tag? attr with
  | .error e => some e
  | .ok _ => none

theorem fault?_eq_some_iff {attr : String} {field : NamedField} {e : SourceError} :
    fault? attr field = some e ↔
      ∃ first, field.attributes.find? (·.isNamed attr) = some first
        ∧ (¬∃ value, first.Holds value) ∧ first.string attr = .error e := by
  unfold fault? FieldDeclaration.tag?
  cases field.attributes.find? (·.isNamed attr) with
  | none => simp
  | some first =>
    simp only [Option.some.injEq, exists_eq_left', ← Attribute.string_eq_ok_iff attr]
    cases first.string attr with
    | error e' => simp [Except.map]
    | ok value => simp [Except.map]

theorem fault?_eq_none_iff {attr : String} {field : NamedField} :
    fault? attr field = none ↔ field.HasStringTag attr := by
  unfold fault? FieldDeclaration.tag? FieldDeclaration.HasStringTag
  cases field.attributes.find? (·.isNamed attr) with
  | none => simp
  | some first =>
    simp only [Option.some.injEq, forall_eq', ← Attribute.string_eq_ok_iff attr]
    cases first.string attr with
    | error e => simp [Except.map]
    | ok value => simp [Except.map]

/-- The outcome is determined: the error of the first fault, else the records expected. -/
theorem outcome_iff {attr : String} {structs : List NestedStruct}
    {result : Except SourceError (List Record)} :
    Outcome attr structs result ↔
      result = match (structs.flatMap (·.fields)).findSome? (fault? attr) with
        | some e => .error e
        | none => .ok (structs.filterMap (expectedRecord? attr)) := by
  constructor
  · intro h
    cases h with
    | fault hsplit hbefore hfirst hvalue hstring =>
      rw [List.findSome?_eq_some_iff.mpr ⟨_, _, _, hsplit,
        fault?_eq_some_iff.mpr ⟨_, hfirst, hvalue, hstring⟩,
        fun f hf => fault?_eq_none_iff.mpr (hbefore f hf)⟩]
    | records hsound =>
      rw [List.findSome?_eq_none_iff.mpr fun field hf => ?_]
      obtain ⟨struct, hs, hf⟩ := List.mem_flatMap.mp hf
      exact fault?_eq_none_iff.mpr (hsound struct hs field hf)
  · rintro rfl
    cases hfault : (structs.flatMap (·.fields)).findSome? (fault? attr) with
    | some e =>
      obtain ⟨before, field, after, hsplit, hfield, hbefore⟩ :=
        List.findSome?_eq_some_iff.mp hfault
      obtain ⟨first, hfirst, hvalue, hstring⟩ := fault?_eq_some_iff.mp hfield
      exact .fault hsplit (fun f hf => fault?_eq_none_iff.mp (hbefore f hf)) hfirst hvalue hstring
    | none =>
      exact .records fun struct hs field hf => fault?_eq_none_iff.mp
        (List.findSome?_eq_none_iff.mp hfault field (List.mem_flatMap_of_mem hs hf))

theorem keepValid_fst (field key : String) (read : List Char → Except DirectiveError α)
    (tag : List Char) :
    (keepValid field key ((Tag.lookup tag key.toList).map read)).1 = firstDirective key read tag := by
  unfold Tag.lookup firstDirective
  cases (Tag.pairs tag).find? (·.key == key.toList) with
  | none => rfl
  | some pair =>
    show (keepValid field key (some (read pair.value))).1 = (read pair.value).toOption
    cases read pair.value <;> rfl

theorem annotatedField_fst (name type : String) (tag : List Char) :
    (annotatedField name type tag).1
      = if (firstDirective "bind" Directive.readBind tag).isSome ||
          (firstDirective "validate" Directive.readValidate tag).isSome then
        some (Field.of name type (firstDirective "bind" Directive.readBind tag)
          (firstDirective "validate" Directive.readValidate tag))
      else none := by
  rw [← keepValid_fst name "bind", ← keepValid_fst name "validate"]
  rfl

/-- What a field gives: its error if its tag is no string, else what qualifies. -/
theorem readField_eq (attr : String) (field : NamedField) :
    (readField attr field).map (·.1)
      = match fault? attr field with
        | some e => .error e
        | none => .ok (qualifying? attr field) := by
  unfold readField fault? qualifying? FieldDeclaration.tag?
  cases field.attributes.find? (·.isNamed attr) with
  | none => rfl
  | some first =>
    dsimp only
    cases first.string attr with
    | error e => rfl
    | ok tag => exact congrArg Except.ok (annotatedField_fst _ _ tag)

/-- What fields give: the first error, else all that qualify. -/
theorem readFields_fst (attr : String) (fields : List NamedField) :
    (readFields attr fields).1
      = match fields.findSome? (fault? attr) with
        | some e => .error e
        | none => .ok (fields.filterMap (qualifying? attr)) := by
  induction fields with
  | nil => rfl
  | cons field more ih =>
    have hfield := readField_eq attr field
    rw [List.findSome?_cons, List.filterMap_cons, readFields]
    cases hread : readField attr field with
    | error e =>
      rw [hread] at hfield
      cases hfault : fault? attr field with
      | none => rw [hfault] at hfield; cases hfield
      | some e' => rw [hfault] at hfield; cases hfield; rfl
    | ok found =>
      rw [hread] at hfield
      cases hfault : fault? attr field with
      | some e' => rw [hfault] at hfield; cases hfield
      | none =>
        rw [hfault] at hfield
        -- the field is sound, so the rest decides
        obtain ⟨field?, events⟩ := found
        obtain rfl : field? = qualifying? attr field := Except.ok.inj hfield
        show ((readFields attr more).1.map _) = _
        rw [ih]
        cases more.findSome? (fault? attr) with
        | some e => rfl
        | none => cases qualifying? attr field <;> rfl

/-! ## Results of findings -/

/-- The findings that decide the result: the errors and the records. -/
def results (all : List Finding) : List (Except SourceError Record) := all.filterMap fun
  | .error e => some (.error e)
  | .record r => some (.ok r)
  | .event _ => none

theorem results_append (all more : List Finding) :
    results (all ++ more) = results all ++ results more := List.filterMap_append

theorem results_events (events : List Event) : results (events.map .event) = [] := by
  simp [results]

/-- The error, if it is one. -/
def error? : Except SourceError Record → Option SourceError
  | .error e => some e
  | .ok _ => none

theorem firstError_eq (all : List Finding) : firstError all = (results all).findSome? error? := by
  induction all with
  | nil => rfl
  | cons finding more ih => cases finding <;> first | rfl | exact ih

theorem allRecords_eq (all : List Finding) :
    allRecords all = (results all).filterMap (·.toOption) := by
  induction all with
  | nil => rfl
  | cons finding more ih =>
    cases finding with
    | record r => exact congrArg (r :: ·) ih
    | event _ => exact ih
    | error _ => exact ih

/-- The results of a struct at a place. -/
theorem results_structFindings (attr : String) (place : Place) (name : Word)
    (fields : List NamedField) :
    results (structFindings attr place name fields)
      = match fields.findSome? (fault? attr) with
        | some e => [.error e]
        | none =>
          match fields.filterMap (qualifying? attr) with
          | [] => []
          | fields => if place.inBlock then [] else [.ok ⟨name.text, place.modules, fields⟩] := by
  have hfields := readFields_fst attr fields
  unfold structFindings
  cases hread : readFields attr fields with
  | mk found events =>
    rw [hread] at hfields
    simp only at hfields
    simp only [results_append, results_events, List.nil_append, hfields]
    cases fields.findSome? (fault? attr) with
    | some e => rfl
    | none =>
      cases fields.filterMap (qualifying? attr) with
      | nil => rfl
      | cons field more => cases place.inBlock <;> rfl

/-! ## The walk -/

/-- The place of what stands at a place within these enclosures. -/
def Place.within (place : Place) (enclosing : List Enclosure) : Place :=
  ⟨place.modules ++ enclosing.filterMap (·.moduleName?), place.inBlock || enclosing.any (·.isBlock)⟩

/-- The place of what stands directly in this enclosure. -/
def Place.enter (place : Place) : Enclosure → Place
  | .module _ name => { place with modules := place.modules ++ [name.text] }
  | .block => { place with inBlock := true }

theorem Place.within_cons (place : Place) (enclosure : Enclosure) (enclosing : List Enclosure) :
    place.within (enclosure :: enclosing) = (place.enter enclosure).within enclosing := by
  cases enclosure <;> simp [within, enter, Enclosure.moduleName?, Enclosure.isBlock]

/-- The results that a struct gives, seen from a place. -/
def structResults (attr : String) (place : Place) (struct : NestedStruct) :
    List (Except SourceError Record) :=
  results (structFindings attr (place.within struct.enclosing) struct.name struct.fields)

theorem structResults_inside (attr : String) (place : Place) (enclosure : Enclosure)
    (struct : NestedStruct) :
    structResults attr place (struct.inside enclosure)
      = structResults attr (place.enter enclosure) struct := by
  show results (structFindings attr (place.within (_ :: struct.enclosing)) _ _) = _
  rw [Place.within_cons]
  rfl

/-- Nothing in a module for tests is examined. -/
theorem filter_inside_testModule {attributes : List Attribute} {name : Word}
    (h : attributes.any isTestOnly = true) (structs : List NestedStruct) :
    (structs.map (·.inside (.module attributes name))).filter (fun s => !s.isForTests) = [] := by
  rw [List.filter_eq_nil_iff]
  intro struct hm
  obtain ⟨inner, -, rfl⟩ := List.mem_map.mp hm
  simp [NestedStruct.isForTests, NestedStruct.inside, Enclosure.isTestModule, h]

/-- An enclosure that is no module for tests changes nothing about what is examined in it. -/
theorem filter_inside {enclosure : Enclosure} (h : enclosure.isTestModule = false)
    (structs : List NestedStruct) :
    (structs.map (·.inside enclosure)).filter (fun s => !s.isForTests)
      = (structs.filter fun s => !s.isForTests).map (·.inside enclosure) := by
  rw [List.filter_map]
  congr 1
  refine List.filter_congr fun struct _ => ?_
  simp [NestedStruct.isForTests, NestedStruct.inside, h]

mutual

/-- The results of a declaration at a place are those of its structs, seen from there. -/
theorem results_findings (attr : String) (place : Place) (declaration : Declaration) :
    results (findings attr place declaration)
      = ((nestedStructs declaration).filter fun s => !s.isForTests).flatMap
          (structResults attr place) := by
  cases declaration with
  | type declared =>
    rw [findings, typeFindings, nestedStructs]
    cases declared.form with
    | namedStruct fields =>
      have hplace : place.within [] = place := by simp [Place.within]
      show _ = structResults attr place ⟨[], declared.name, fields⟩ ++ []
      rw [List.append_nil, structResults, hplace]
    | tupleStruct _ => rfl
    | enumeration => rfl
    | union => rfl
  | module attributes name inner =>
    rw [findings, nestedStructs]
    by_cases htest : attributes.any isTestOnly = true
    · -- the walk leaves the module out, and none of its structs is examined
      rw [if_pos htest, filter_inside_testModule htest]
      rfl
    · -- the place that the walk enters is what the module adds to the enclosures
      have hmodule : (Enclosure.module attributes name).isTestModule = false := by
        simpa [Enclosure.isTestModule] using htest
      rw [if_neg htest, results_findingsOfAll, filter_inside hmodule, List.flatMap_map]
      simp only [structResults_inside]
      rfl
  | block inner =>
    rw [findings, nestedStructs, results_findingsOfAll, filter_inside rfl, List.flatMap_map]
    simp only [structResults_inside]
    rfl

/-- The results of declarations at a place are those of their structs, seen from there. -/
theorem results_findingsOfAll (attr : String) (place : Place) (declarations : List Declaration) :
    results (findingsOfAll attr place declarations)
      = (examined declarations).flatMap (structResults attr place) := by
  cases declarations with
  | nil => rfl
  | cons declaration more =>
    show _ = ((nestedStructs declaration ++ nestedStructsOfAll more).filter _).flatMap _
    rw [findingsOfAll, results_append, results_findings, results_findingsOfAll,
      List.filter_append, List.flatMap_append]
    rfl

end

/-! ## The result -/

/-- The results of a struct of a file: the error of its first fault, else its record. -/
theorem structResults_file (attr : String) (struct : NestedStruct) :
    structResults attr .file struct
      = match struct.fields.findSome? (fault? attr) with
        | some e => [.error e]
        | none => (expectedRecord? attr struct).toList.map .ok := by
  have hplace : Place.file.within struct.enclosing = ⟨struct.modulePath, struct.isLocal⟩ := by
    simp [Place.within, Place.file, NestedStruct.modulePath, NestedStruct.isLocal]
  rw [structResults, hplace, results_structFindings, expectedRecord?]
  cases struct.fields.findSome? (fault? attr) with
  | some e => rfl
  | none =>
    cases struct.fields.filterMap (qualifying? attr) with
    | nil => cases struct.isLocal <;> rfl
    | cons field more => cases struct.isLocal <;> rfl

/-- The first error is that of the first fault among all fields, also of structs without record. -/
theorem findSome?_structResults (attr : String) (structs : List NestedStruct) :
    (structs.flatMap (structResults attr .file)).findSome? error?
      = (structs.flatMap (·.fields)).findSome? (fault? attr) := by
  induction structs with
  | nil => rfl
  | cons struct more ih =>
    rw [List.flatMap_cons, List.flatMap_cons, List.findSome?_append, List.findSome?_append, ih,
      structResults_file]
    cases struct.fields.findSome? (fault? attr) with
    | some e => rfl
    | none => cases expectedRecord? attr struct <;> rfl

/-- Without faults the records are those expected. -/
theorem filterMap_structResults {attr : String} {structs : List NestedStruct}
    (h : (structs.flatMap (·.fields)).findSome? (fault? attr) = none) :
    (structs.flatMap (structResults attr .file)).filterMap (·.toOption)
      = structs.filterMap (expectedRecord? attr) := by
  induction structs with
  | nil => rfl
  | cons struct more ih =>
    rw [List.flatMap_cons, List.findSome?_append, Option.or_eq_none_iff] at h
    rw [List.flatMap_cons, List.filterMap_append, List.filterMap_cons, ih h.2, structResults_file,
      h.1]
    cases expectedRecord? attr struct <;> rfl

/-- The findings of a file settle as its structs outside the modules for tests say. -/
theorem settle_findingsOfAll (attr : String) (declarations : List Declaration) :
    Outcome attr (examined declarations) (settle (findingsOfAll attr .file declarations)) := by
  rw [outcome_iff, settle, firstError_eq, allRecords_eq, results_findingsOfAll,
    findSome?_structResults]
  cases hfault : ((examined declarations).flatMap (·.fields)).findSome? (fault? attr) with
  | some e => rfl
  | none => exact congrArg Except.ok (filterMap_structResults hfault)

/-! ## Where records come from -/

/-- The record is that of the struct: it has its name and modules, and what is declared of its
fields. -/
structure IsRecordOf (struct : NestedStruct) (record : Record) : Prop where
  name : record.name = struct.name.text
  modulePath : record.modulePath = struct.modulePath
  fields : ∀ field ∈ record.fields, ∃ declared ∈ struct.fields,
    field = Field.of declared.name.text (printTokens declared.type) field.bind field.bounds

theorem eq_of_qualifying? {attr : String} {declared : NamedField} {field : Field}
    (h : qualifying? attr declared = some field) :
    field = Field.of declared.name.text (printTokens declared.type) field.bind field.bounds := by
  unfold qualifying? at h
  split at h
  · cases h
  · split at h
    · cases h
    · obtain ⟨-, h⟩ := Option.ite_none_right_eq_some.mp h
      rw [← Option.some.inj h]
      rfl

theorem isRecordOf_of_expectedRecord? {attr : String} {struct : NestedStruct} {record : Record}
    (h : expectedRecord? attr struct = some record) : IsRecordOf struct record := by
  unfold expectedRecord? at h
  split at h
  · cases h
  · split at h
    · cases h
    · next fields hne hfields =>
      obtain rfl := Option.some.inj h
      refine ⟨rfl, rfl, fun field hfield => ?_⟩
      obtain ⟨declared, hdeclared, hqualifying⟩ := List.mem_filterMap.mp hfield
      exact ⟨declared, hdeclared, eq_of_qualifying? hqualifying⟩

/-- Every record of a source is that of a struct in it, outside the modules for tests. -/
theorem exists_isRecordOf {attr text : String} {found : List Record}
    (h : (records attr text).1 = .ok found) {record : Record} (hrecord : record ∈ found) :
    ∃ all, declarations text = .ok all ∧ ∃ struct ∈ examined all, IsRecordOf struct record := by
  unfold records at h
  split at h
  · cases h
  · next all hall =>
    have hsettle : settle (findingsOfAll attr .file all) = .ok found := h
    have houtcome := settle_findingsOfAll attr all
    rw [hsettle] at houtcome
    cases houtcome with
    | records _ =>
      obtain ⟨struct, hstruct, hexpected⟩ := List.mem_filterMap.mp hrecord
      exact ⟨all, hall, struct, hstruct, isRecordOf_of_expectedRecord? hexpected⟩

/-- Records that are found are the result. -/
theorem eq_ok_of_toOption {result : Except SourceError (List Record)} {found : List Record}
    (h : result.toOption = some found) : result = .ok found := by
  cases result with
  | error e => cases h
  | ok _ => exact congrArg Except.ok (Option.some.inj h)

/--
**The result of a source is decided by its structs outside the modules for tests.** A text without
declarations gives the error of reading it.
-/
theorem records_outcome (attr text : String) :
    match declarations text with
    | .error e => (records attr text).1 = .error e
    | .ok declarations => Outcome attr (examined declarations) (records attr text).1 := by
  unfold records
  cases declarations text with
  | error e => rfl
  | ok declarations => exact settle_findingsOfAll attr declarations

end Extraction

end RequestBinding
