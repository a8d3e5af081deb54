import RequestBinding.Proofs.BindMeaning

/-!
# Bind and validate agree

The validate function of a record is the bind function of the record without its bind directives
(`validateBody_eq`), so it does what a visit does that fills nothing (`visitFields_of_unfilled`).

What a bind function leaves when it succeeds passes the validate function. A visit writes only to the
field that it visits, so with different names a value that was between its bounds when it was filled
is still there at the end of the run (`boundFailure?_of_visitFields`).
-/

namespace RequestBinding

/-- The field with only its bounds. -/
def Field.withoutBind (field : Field) : Field := { field with bind := none }

/-- The record with only the bounds of its fields. -/
def Record.withoutBinds (record : Record) : Record :=
  { record with fields := record.fields.map (·.withoutBind) }

namespace Function

variable {pointer : PointerWidth}

/-! ## The two bodies -/

theorem validateBody_eq (record : Record) : validateBody record = bindBody record.withoutBinds := by
  unfold validateBody bindBody Record.withoutBinds
  rw [List.flatMap_map]
  rfl

theorem IsWritten.withoutBinds {record : Record} (h : IsWritten record) :
    IsWritten record.withoutBinds where
  names := by
    intro field hm
    obtain ⟨bound, hb, rfl⟩ := List.mem_map.mp hm
    exact h.names bound hb
  types := by
    intro field hm
    obtain ⟨bound, hb, rfl⟩ := List.mem_map.mp hm
    exact h.types bound hb

theorem Holds.withoutBind {field : Field} {value : Value pointer} (h : Holds field value) :
    Holds field.withoutBind value := by
  cases h with
  | text hkind => exact .text hkind
  | integer hkind htype hpath => exact .integer hkind htype hpath
  | other hkind => exact .other hkind

theorem HasTypes.withoutBinds {s : Struct pointer} {fields : List Field} (h : HasTypes s fields) :
    HasTypes s (fields.map (·.withoutBind)) := by
  intro field hm
  obtain ⟨bound, hb, rfl⟩ := List.mem_map.mp hm
  exact (h bound hb).withoutBind

/-! ## Visits that fill nothing -/

/-- The field is not filled: it is not bound, or it is of a kind that cannot be. -/
def IsUnfilled (field : Field) : Prop := field.kind ≠ .other → field.bind = none

theorem isUnfilled_withoutBinds (record : Record) :
    ∀ field ∈ record.withoutBinds.fields, IsUnfilled field := by
  intro field hm
  obtain ⟨bound, -, rfl⟩ := List.mem_map.mp hm
  exact fun _ => rfl

theorem fillField_of_unfilled (request : Request) (s : Struct pointer) {field : Field}
    (h : IsUnfilled field) : fillField request s field = (s, none) := by
  unfold fillField
  by_cases hkind : field.kind = .other
  · rw [hkind]
    cases field.bind <;> rfl
  · rw [h hkind]

/-- A visit that fills nothing leaves the struct as it is, and fails at the first bound. -/
theorem visitFields_of_unfilled (request : Request) (s : Struct pointer) {fields : List Field}
    (h : ∀ field ∈ fields, IsUnfilled field) :
    visitFields request s fields = (s, fields.findSome? (boundFailure? s)) := by
  induction fields with
  | nil => rfl
  | cons field more ih =>
    rw [visitFields, visitField, fillField_of_unfilled request s (h field List.mem_cons_self),
      List.findSome?_cons]
    dsimp only
    cases boundFailure? s field with
    | some message => rfl
    | none => exact ih fun f hf => h f (List.mem_cons_of_mem _ hf)

/-- The validate function fails at the first bound that is not kept. -/
theorem runText_validateBody {record : Record} (h : IsWritten record) {s : Struct pointer}
    (htypes : HasTypes s record.fields) (request : Request) :
    runText request s (bodyText (validateBody record))
      = some (s, record.fields.findSome? (boundFailure? s)) := by
  rw [validateBody_eq, runText_bindBody h.withoutBinds htypes.withoutBinds,
    visitFields_of_unfilled request s (isUnfilled_withoutBinds record)]
  show some (s, (record.fields.map (·.withoutBind)).findSome? _) = _
  rw [List.findSome?_map]
  rfl

/-! ## What a visit keeps -/

theorem fillField_of_ne (request : Request) (s : Struct pointer) {field : Field} {name : String}
    (h : name ≠ field.name) : (fillField request s field).1 name = s name := by
  obtain hkept | ⟨value, hset, -⟩ := fillField_fst request s field
  · rw [hkept]
  · rw [hset, Struct.set_of_ne s value h]

/-- A visit writes to no field that it does not visit. -/
theorem visitFields_of_not_mem (request : Request) {fields : List Field} {name : String}
    (h : name ∉ fields.map (·.name)) (s : Struct pointer) :
    (visitFields request s fields).1 name = s name := by
  induction fields generalizing s with
  | nil => rfl
  | cons field more ih =>
    rw [List.map_cons, List.mem_cons, not_or] at h
    have hfield : (visitField request s field).1 name = s name := by
      rw [visitField_fst, fillField_of_ne request s h.1]
    rw [visitFields]
    split
    · next heq => rw [← hfield, heq]
    · next heq => rw [ih h.2, ← hfield, heq]

/-- The bounds of a field are checked on its own value. -/
theorem boundFailure?_congr {s t : Struct pointer} {field : Field} (h : s field.name = t field.name) :
    boundFailure? s field = boundFailure? t field := by
  rw [boundFailure?, boundFailure?, h]

/-- A field that is visited with success is between its bounds. -/
theorem boundFailure?_of_visitField {request : Request} {s after : Struct pointer} {field : Field}
    (h : visitField request s field = (after, none)) : boundFailure? after field = none := by
  unfold visitField at h
  split at h
  · cases h
  · next heq =>
    obtain ⟨rfl, hnone⟩ := Prod.mk.inj h
    exact hnone

/-- What a visit leaves when it succeeds is between all bounds. -/
theorem boundFailure?_of_visitFields {request : Request} {fields : List Field}
    (hnames : (fields.map (·.name)).Nodup) {s after : Struct pointer}
    (h : visitFields request s fields = (after, none)) :
    ∀ field ∈ fields, boundFailure? after field = none := by
  induction fields generalizing s with
  | nil => exact fun _ hm => absurd hm List.not_mem_nil
  | cons field more ih =>
    rw [List.map_cons, List.nodup_cons] at hnames
    rw [visitFields] at h
    split at h
    · cases h
    · next visited hvisit =>
      intro other hm
      rcases List.mem_cons.mp hm with rfl | hm
      · -- the later visits leave the value of this field
        have hkept := visitFields_of_not_mem request hnames.1 visited
        rw [h] at hkept
        rw [boundFailure?_congr hkept]
        exact boundFailure?_of_visitField hvisit
      · exact ih hnames.2 h other hm

/-! ## Agreement -/

/-- What the bind function leaves when it succeeds passes the validate function. -/
theorem runText_validateBody_of_bindBody {record : Record} (h : IsWritten record)
    (hnames : (record.fields.map (·.name)).Nodup) {s after : Struct pointer}
    (htypes : HasTypes s record.fields) {request : Request}
    (hrun : runText request s (bodyText (bindBody record)) = some (after, none)) (other : Request) :
    runText other after (bodyText (validateBody record)) = some (after, none) := by
  rw [runText_bindBody h htypes] at hrun
  have hvisit := Option.some.inj hrun
  have hafter : HasTypes after record.fields := by
    have hkept := htypes.visitFields request (List.Subset.refl record.fields)
    rwa [hvisit] at hkept
  have hnone : record.fields.findSome? (boundFailure? after) = none :=
    List.findSome?_eq_none_iff.mpr (boundFailure?_of_visitFields hnames hvisit)
  rw [runText_validateBody h hafter, hnone]

/-- Where the bind function fills nothing, it fails at the first bound that is not kept. -/
theorem runText_bindBody_of_unfilled {record : Record} (h : IsWritten record) {s : Struct pointer}
    (htypes : HasTypes s record.fields) (hunfilled : ∀ field ∈ record.fields, IsUnfilled field)
    (request : Request) :
    runText request s (bodyText (bindBody record))
      = some (s, record.fields.findSome? (boundFailure? s)) := by
  rw [runText_bindBody h htypes, visitFields_of_unfilled request s hunfilled]

/--
**The two functions of a record agree.** Their bodies differ in the bind directives only; what the
first leaves when it succeeds passes the second; and where the first fills nothing, both leave the
struct as it is and say the same.
-/
theorem bindBody_validateBody_agree (record : Record) :
    bodyText (validateBody record) = bodyText (bindBody record.withoutBinds)
      ∧ (IsWritten record → ∀ s : Struct pointer, HasTypes s record.fields →
        ∀ request other : Request,
          ((record.fields.map (·.name)).Nodup → ∀ after,
            runText request s (bodyText (bindBody record)) = some (after, none) →
              runText other after (bodyText (validateBody record)) = some (after, none))
          ∧ ((∀ field ∈ record.fields, IsUnfilled field) → ∃ message?,
            runText request s (bodyText (bindBody record)) = some (s, message?)
              ∧ runText other s (bodyText (validateBody record)) = some (s, message?))) := by
  refine ⟨by rw [validateBody_eq], fun h s htypes request other => ⟨?_, ?_⟩⟩
  · intro hnames after hrun
    exact runText_validateBody_of_bindBody h hnames htypes hrun other
  · intro hunfilled
    exact ⟨record.fields.findSome? (boundFailure? s),
      runText_bindBody_of_unfilled h htypes hunfilled request, runText_validateBody h htypes other⟩

/-- A request that fills `getItem`. -/
def smallLimit : Request
  | .path, "id" => "7"
  | .query, "limit" => "25"
  | .header, "name" => "n"
  | _, _ => ""

/-- The filled item passes the validate function; without binds the two say the same of any item. -/
theorem bindBody_validateBody_agree_getItem :
    runText smallLimit freshItem (bodyText (bindBody getItem))
        = some ((visitFields smallLimit freshItem getItem.fields).1, none)
      ∧ runText largeLimit (visitFields smallLimit freshItem getItem.fields).1
          (bodyText (validateBody getItem))
        = some ((visitFields smallLimit freshItem getItem.fields).1, none)
      ∧ runText smallLimit freshItem (bodyText (bindBody getItem.withoutBinds))
        = runText largeLimit freshItem (bodyText (validateBody getItem.withoutBinds)) := by
  have hnone : (visitFields smallLimit freshItem getItem.fields).2 = none := by decide
  have hrun : runText smallLimit freshItem (bodyText (bindBody getItem))
      = some ((visitFields smallLimit freshItem getItem.fields).1, none) := by
    rw [runText_bindBody isWritten_getItem hasTypes_freshItem, ← hnone]
  have hpasses := ((bindBody_validateBody_agree getItem).2 isWritten_getItem freshItem
    hasTypes_freshItem smallLimit largeLimit).1 (by decide) _ hrun
  obtain ⟨message?, hbind, hvalidate⟩ := ((bindBody_validateBody_agree getItem.withoutBinds).2
    isWritten_getItem.withoutBinds freshItem hasTypes_freshItem.withoutBinds smallLimit
    largeLimit).2 (isUnfilled_withoutBinds getItem)
  exact ⟨hrun, hpasses, hbind.trans hvalidate.symm⟩

end Function

end RequestBinding
