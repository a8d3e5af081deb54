import RequestBinding.DerivedTypes
import RequestBinding.Proofs.SourceWalk

/-!
# The two checks of tags

The tags of a struct are checked when the type derives `Tagged` and again when its fields are read.
Deriving looks at every `tag` of every field. Reading looks only at the first one of each field, and
goes on to its value. So a struct that can be derived can be read. If no field has a second tag, the
two stop at the same attribute with the same error.

## Main statements

* `attributeError?_eq_some_iff` — the two checks of one attribute agree.
* `refusal?_eq_unread?` — both checks of a struct stop at one place if there are no second tags.
* `fault?_agrees` — what the one check says about the other.
-/

namespace RequestBinding.DerivedTypes

open Source Extraction

/-! ## One attribute -/

theorem attributeError?_eq_some_iff {attr : Attribute} {e : SourceError} :
    attributeError? attr = some e ↔ attr.string "tag" = .error e := by
  obtain ⟨position, name?, form⟩ := attr
  rw [attributeError?, Attribute.string]
  cases form with
  | word => simp
  | value place literal? => cases literal? <;> simp
  | list arguments close =>
    dsimp only
    cases Attribute.stringArgument close arguments <;> simp

/-- An attribute that holds no string, with the error that says so. -/
abbrev Refusal := Attribute × SourceError

/-- The refusal of an attribute, if it is refused. -/
def refusalOf? (attr : Attribute) : Option Refusal := (attributeError? attr).map (attr, ·)

/-! ## Where the checks stop -/

/-- Where deriving stops: at the first `tag` of all fields that is refused. -/
def refusal? (type : TypeDeclaration) : Option Refusal := (tagAttributes type).findSome? refusalOf?

/-- Where reading stops: at the first field whose first `tag` is refused. -/
def unread? (fields : List NamedField) : Option Refusal :=
  fields.findSome? fun field => (field.attributes.find? (·.isNamed "tag")).bind refusalOf?

/-- Deriving fails with the error of the attribute at which it stops. -/
theorem fault?_eq {type : TypeDeclaration} {fields : List NamedField}
    (hform : type.form = .namedStruct fields) :
    fault? type = (refusal? type).map fun refused => .tag refused.2 := by
  have herror : attributeError? = Option.map (·.2) ∘ refusalOf? := by
    funext attr
    cases h : attributeError? attr <;> simp [refusalOf?, h]
  rw [fault?, hform, refusal?]
  dsimp only
  rw [herror, ← List.map_findSome?, Option.map_map]
  rfl

/-- The error of reading a field is that of its first `tag`. -/
theorem fault?_field (field : NamedField) :
    Extraction.fault? "tag" field =
      ((field.attributes.find? (·.isNamed "tag")).bind refusalOf?).map (·.2) := by
  refine Option.ext fun e => ?_
  rw [Extraction.fault?, FieldDeclaration.tag?]
  cases field.attributes.find? (·.isNamed "tag") with
  | none => simp
  | some first =>
    rw [Option.bind_some]
    dsimp only
    cases h : first.string "tag" <;> simp [refusalOf?, h, attributeError?_eq_some_iff, Except.map]

/-- Reading fails with the error of the attribute at which it stops. -/
theorem readFields_eq (fields : List NamedField) :
    (readFields "tag" fields).1 =
      match unread? fields with
      | some refused => .error refused.2
      | none => .ok (fields.filterMap (qualifying? "tag")) := by
  have hfaults : fields.findSome? (Extraction.fault? "tag") = (unread? fields).map (·.2) := by
    rw [unread?, List.map_findSome?]
    exact congrArg fields.findSome? (funext fault?_field)
  rw [readFields_fst, hfaults]
  cases unread? fields <;> rfl

/-! ## Fields with several tags -/

theorem findSome?_flatMap (found : β → Option γ) (inner : α → List β) (all : List α) :
    (all.flatMap inner).findSome? found = all.findSome? fun a => (inner a).findSome? found := by
  induction all with
  | nil => rfl
  | cons a more ih =>
    rw [List.flatMap_cons, List.findSome?_append, List.findSome?_cons, ih]
    cases (inner a).findSome? found <;> rfl

/-- Deriving goes through the tags of one field after the other. -/
theorem refusal?_eq {type : TypeDeclaration} {fields : List NamedField}
    (hform : type.form = .namedStruct fields) :
    refusal? type = fields.findSome? fun field =>
      (field.attributes.filter (·.isNamed "tag")).findSome? refusalOf? := by
  rw [refusal?, tagAttributes, hform, TypeForm.fields, List.filter_flatMap, List.flatMap_map,
    findSome?_flatMap]

section

variable {attributes : List Attribute}

/-- If the first tag is refused, it is the first one that is. -/
theorem findSome?_of_first {refused : Refusal}
    (h : (attributes.find? (·.isNamed "tag")).bind refusalOf? = some refused) :
    (attributes.filter (·.isNamed "tag")).findSome? refusalOf? = some refused := by
  rw [← List.head?_filter] at h
  cases hall : attributes.filter (·.isNamed "tag") with
  | nil => simp [hall] at h
  | cons first more =>
    rw [hall, List.head?_cons, Option.bind_some] at h
    rw [List.findSome?_cons, h]

/-- A field without a second tag has no other that could be refused. -/
theorem findSome?_of_single (h : attributes.countP (·.isNamed "tag") ≤ 1) :
    (attributes.filter (·.isNamed "tag")).findSome? refusalOf? =
      (attributes.find? (·.isNamed "tag")).bind refusalOf? := by
  rw [← List.head?_filter]
  rw [List.countP_eq_length_filter] at h
  cases hall : attributes.filter (·.isNamed "tag") with
  | nil => rfl
  | cons first more =>
    obtain rfl : more = [] := by simpa [hall] using h
    rw [List.findSome?_singleton]
    rfl

end

/-! ## One struct -/

section

variable {type : TypeDeclaration} {fields : List NamedField}
  (hform : type.form = .namedStruct fields)

include hform

/-- A struct that is refused when it is read is refused when it is derived. -/
theorem refusal?_isSome (h : (unread? fields).isSome) : (refusal? type).isSome := by
  obtain ⟨refused, h⟩ := Option.isSome_iff_exists.mp h
  obtain ⟨field, hfield, hrefused⟩ := List.exists_of_findSome?_eq_some h
  rw [refusal?_eq hform, List.findSome?_isSome_iff]
  exact ⟨field, hfield, by rw [findSome?_of_first hrefused]; rfl⟩

/-- Without second tags both checks stop at one place. -/
theorem refusal?_eq_unread?
    (hsingle : ∀ field ∈ fields, field.attributes.countP (·.isNamed "tag") ≤ 1) :
    refusal? type = unread? fields := by
  rw [refusal?_eq hform, unread?]
  clear hform
  induction fields with
  | nil => rfl
  | cons field more ih =>
    rw [List.findSome?_cons, List.findSome?_cons,
      findSome?_of_single (hsingle field List.mem_cons_self),
      ih fun field hfield => hsingle field (.tail _ hfield)]

/-- An error that the walk finds in the struct is one of reading its fields. -/
theorem readFields_of_finding {place : Place} {e : SourceError}
    (h : .error e ∈ typeFindings "tag" place type) : (readFields "tag" fields).1 = .error e := by
  rw [typeFindings, hform] at h
  rcases List.mem_append.mp h with h | h
  · simp at h
  · split at h
    · next herror =>
      obtain rfl := Finding.error.inj (List.mem_singleton.mp h)
      exact herror
    · cases h
    · split at h <;> simp at h

end

/-- **The two checks of tags agree.** What can be derived can be read, so an error of reading is
only found where deriving fails too. If no field has a second tag, then either both succeed, or both
stop at one attribute with one error. -/
theorem fault?_agrees {type : TypeDeclaration} {fields : List NamedField}
    (hform : type.form = .namedStruct fields) :
    (fault? type = none → ∃ found, (readFields "tag" fields).1 = .ok found) ∧
    (∀ place e, .error e ∈ typeFindings "tag" place type → ∃ fault, fault? type = some fault) ∧
    ((∀ field ∈ fields, field.attributes.countP (·.isNamed "tag") ≤ 1) →
      (fault? type = none ∧ ∃ found, (readFields "tag" fields).1 = .ok found) ∨
      ∃ attr e, refusal? type = some (attr, e) ∧ unread? fields = some (attr, e) ∧
        fault? type = some (.tag e) ∧ (readFields "tag" fields).1 = .error e) := by
  have hread := readFields_eq fields
  have hderive := fault?_eq hform
  refine ⟨fun hnone => ?_, fun place e hfinding => ?_, fun hsingle => ?_⟩
  · have hrefusal : refusal? type = none := Option.map_eq_none_iff.mp (hderive ▸ hnone)
    cases hrefused : unread? fields with
    | none =>
      rw [hrefused] at hread
      exact ⟨_, hread⟩
    | some refused =>
      have hsome := refusal?_isSome hform (by rw [hrefused]; rfl)
      simp [hrefusal] at hsome
  · have hunread : (unread? fields).isSome := by
      rw [readFields_of_finding hform hfinding] at hread
      cases hrefused : unread? fields with
      | none => simp [hrefused] at hread
      | some refused => rfl
    obtain ⟨refused, hrefused⟩ := Option.isSome_iff_exists.mp (refusal?_isSome hform hunread)
    exact ⟨.tag refused.2, by rw [hderive, hrefused]; rfl⟩
  · have hsame := refusal?_eq_unread? hform hsingle
    cases hrefused : unread? fields with
    | none =>
      rw [hrefused] at hread hsame
      rw [hsame] at hderive
      exact .inl ⟨hderive, _, hread⟩
    | some refused =>
      rw [hrefused] at hread hsame
      rw [hsame] at hderive
      exact .inr ⟨refused.1, refused.2, hsame, rfl, hderive, hread⟩

namespace Example

/-- A field whose attributes are on one line, with forms at these columns. -/
def field (name : Word) (line : Nat) (tags : List (Nat × AttributeForm)) : NamedField :=
  { attributes := tags.map fun (column, form) => ⟨⟨line, column⟩, some "tag", form⟩
    type := []
    name := name }

/-- A tag that is a string, then one without a value. -/
def userFields : List NamedField := [
  field ⟨false, "id", by decide⟩ 2 [(7, .value ⟨2, 13⟩ (some "\"bind:path\""))],
  field ⟨false, "name", by decide⟩ 3 [(7, .word)]]

def user : TypeDeclaration := ⟨[], ⟨1, 8⟩, ⟨false, "User", by decide⟩, .namedStruct userFields⟩

end Example

/-- Both checks stop at the tag of the second field. -/
theorem fault?_agrees_user :
    Example.user.form = .namedStruct Example.userFields ∧
    (∀ field ∈ Example.userFields, field.attributes.countP (·.isNamed "tag") ≤ 1) ∧
    ∃ attr e, attr.position = ⟨3, 7⟩ ∧
      refusal? Example.user = some (attr, e) ∧ unread? Example.userFields = some (attr, e) ∧
      fault? Example.user = some (.tag e) ∧
      (readFields "tag" Example.userFields).1 = .error e := by
  have hform : Example.user.form = .namedStruct Example.userFields := rfl
  have hsingle : ∀ field ∈ Example.userFields,
      field.attributes.countP (·.isNamed "tag") ≤ 1 := by decide
  refine ⟨hform, hsingle, ?_⟩
  rcases (fault?_agrees hform).2.2 hsingle with ⟨hnone, -⟩ | ⟨attr, e, hrefusal, hagree⟩
  · cases hnone
  · obtain ⟨rfl, -⟩ := Prod.mk.inj (Option.some.inj hrefusal)
    exact ⟨_, e, rfl, hrefusal, hagree⟩

/-- Only deriving looks at a second tag. -/
example :
    let tags : List Attribute :=
      [⟨⟨2, 7⟩, some "tag", .value ⟨2, 13⟩ (some "\"\"")⟩, ⟨⟨2, 27⟩, some "tag", .word⟩]
    let fields : List NamedField :=
      [{ attributes := tags, type := [], name := ⟨false, "id", by decide⟩ }]
    (fault? ⟨[], ⟨1, 8⟩, ⟨false, "User", by decide⟩, .namedStruct fields⟩).isSome = true ∧
      (readFields "tag" fields).1.isOk = true := by decide

end RequestBinding.DerivedTypes
