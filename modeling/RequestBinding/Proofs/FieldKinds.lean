import RequestBinding.Record

/-!
# Kinds of types

Which types are strings and which are integers, by the text of the type without its blanks. A plain
name is looked at as a whole, and so are the paths to `String`. Below `std::primitive` and
`core::primitive` only the beginning and the last segment are looked at, not what lies between: also
`std::primitive::x::u8` is an integer, and `core::primitive::String` a string.

## Steps

* **Segments.** The paths that count with a last segment (`isQualified_and_lastSegment_iff`).
* **Kinds.** A kind is a choice of last segments, so it is a choice of paths
  (`ofType_eq_string_iff`, `ofType_eq_integer_iff`).

## Main statements

* `ofType_paths` — the paths of either kind, and where they differ from the documented ones.
-/

namespace RequestBinding.FieldKind

/-! ## Documented paths -/

/-- The documented paths of the string type. -/
def stringPaths : List String := ["String", "std::string::String", "alloc::string::String"]

/-- What stands before the name of a primitive type in a path to it. -/
def primitiveStarts : List String := ["std::primitive::", "core::primitive::"]

/-- The documented paths of the primitive integer types. -/
def integerPaths : List String :=
  integerTypes ++ primitiveStarts.flatMap fun start => integerTypes.map (start ++ ·)

/-- The documented kind of a path. -/
def documented (path : String) : FieldKind :=
  if path ∈ stringPaths then string else if path ∈ integerPaths then integer else other

/-- The path of a type: its text without the blanks. -/
def pathOf (type : String) : String := String.ofList (compact type.toList)

/-- The path begins like one to a primitive type, and this is its last segment. -/
def EndsBelow (segment path : String) : Prop :=
  ∃ start ∈ primitiveStarts,
    start.toList <+: path.toList ∧ ':' :: ':' :: segment.toList <:+ path.toList

instance (segment path : String) : Decidable (EndsBelow segment path) :=
  inferInstanceAs (Decidable (∃ start ∈ primitiveStarts, _))

/-! ## Segments -/

/-- The last segments of strings and integers. -/
def segments : List String := "String" :: integerTypes

theorem colon_not_mem_of_mem_segments : ∀ segment ∈ segments, ':' ∉ segment.toList := by
  decide +kernel

theorem isQualified_iff {path : String} :
    isQualified path.toList = true ↔ path.toList = Text.lastSegment path.toList ∨
      path = "std::string::String" ∨ path = "alloc::string::String" ∨
        ∃ start ∈ primitiveStarts, start.toList <+: path.toList := by
  simp only [isQualified, Bool.or_eq_true, beq_iff_eq, String.toList_inj,
    List.isPrefixOf_iff_prefix, primitiveStarts, List.mem_cons, List.not_mem_nil, or_false, exists_eq_or_imp, exists_eq_left,
    or_assoc]

theorem lastSegment_of_mem_stringPaths : ∀ path ∈ stringPaths,
    isQualified path.toList = true ∧ Text.lastSegment path.toList = "String".toList := by
  decide +kernel

/-- The paths that count with this last segment. -/
theorem isQualified_and_lastSegment_iff {segment : String} (h : segment ∈ segments)
    (path : String) :
    isQualified path.toList = true ∧ Text.lastSegment path.toList = segment.toList ↔
      path = segment ∨ segment = "String" ∧ path ∈ stringPaths ∨ EndsBelow segment path := by
  have hcolon := colon_not_mem_of_mem_segments segment h
  constructor
  · rintro ⟨hqualified, hlast⟩
    have hstring (hpath : path ∈ stringPaths) : segment = "String" := by
      rw [← String.toList_inj, ← hlast, (lastSegment_of_mem_stringPaths path hpath).2]
    rcases isQualified_iff.mp hqualified with hwhole | rfl | rfl | ⟨start, hstart, hprefix⟩
    · exact .inl (String.toList_inj.mp (hwhole.trans hlast))
    · exact .inr (.inl ⟨hstring (by decide), by decide⟩)
    · exact .inr (.inl ⟨hstring (by decide), by decide⟩)
    · rcases (Text.lastSegment_eq_iff hcolon).mp hlast with hwhole | hsuffix
      · exact .inl (String.toList_inj.mp hwhole)
      · exact .inr (.inr ⟨start, hstart, hprefix, hsuffix⟩)
  · rintro (rfl | ⟨rfl, hpath⟩ | ⟨start, hstart, hprefix, hsuffix⟩)
    · have hlast := Text.lastSegment_of_not_mem hcolon
      exact ⟨isQualified_iff.mpr (.inl hlast.symm), hlast⟩
    · exact lastSegment_of_mem_stringPaths path hpath
    · exact ⟨isQualified_iff.mpr (.inr (.inr (.inr ⟨start, hstart, hprefix⟩))),
        (Text.lastSegment_eq_iff hcolon).mpr (.inr hsuffix)⟩

/-! ## Kinds -/

/-- The kind is chosen by the last segment, if the path counts at all. -/
theorem ofType_iff (type : String) :
    (ofType type = string ↔ isQualified (pathOf type).toList = true ∧
      Text.lastSegment (pathOf type).toList = "String".toList) ∧
    (ofType type = integer ↔ isQualified (pathOf type).toList = true ∧
      ∃ segment ∈ integerTypes, Text.lastSegment (pathOf type).toList = segment.toList) := by
  have hcontains (cs : List Char) : integerTypes.contains (String.ofList cs) = true ↔
      ∃ segment ∈ integerTypes, cs = segment.toList := by
    rw [List.contains_iff_mem]
    constructor
    · intro hmem
      exact ⟨_, hmem, String.toList_ofList.symm⟩
    · rintro ⟨segment, hmem, rfl⟩
      rwa [String.ofList_toList]
  have hstring : integerTypes.contains (String.ofList "String".toList) = false := by decide
  rw [pathOf, String.toList_ofList, ← hcontains]
  unfold ofType
  dsimp only
  generalize compact type.toList = path
  cases hqualified : isQualified path with
  | false => simp
  | true =>
    by_cases hlast : Text.lastSegment path = "String".toList
    · rw [hlast, hstring]
      decide
    · have hne : (Text.lastSegment path == "String".toList) = false := beq_eq_false_iff_ne.mpr hlast
      rw [hne]
      cases integerTypes.contains (String.ofList (Text.lastSegment path)) <;> simpa using hlast

/-- **The paths of strings.** -/
theorem ofType_eq_string_iff (type : String) :
    ofType type = string ↔ pathOf type ∈ stringPaths ∨ EndsBelow "String" (pathOf type) := by
  rw [(ofType_iff type).1, isQualified_and_lastSegment_iff List.mem_cons_self, ← or_assoc]
  refine or_congr_left ?_
  constructor
  · rintro (hpath | ⟨-, hpath⟩)
    · rw [hpath]
      decide
    · exact hpath
  · exact fun hpath => .inr ⟨rfl, hpath⟩

/-- **The paths of integers.** -/
theorem ofType_eq_integer_iff (type : String) :
    ofType type = integer ↔
      pathOf type ∈ integerTypes ∨ ∃ segment ∈ integerTypes, EndsBelow segment (pathOf type) := by
  have hsegment (segment : String) (hmem : segment ∈ integerTypes) :
      isQualified (pathOf type).toList = true ∧
          Text.lastSegment (pathOf type).toList = segment.toList ↔
        pathOf type = segment ∨ EndsBelow segment (pathOf type) := by
    have hne : segment ≠ "String" := by
      rintro rfl
      exact absurd hmem (by decide)
    rw [isQualified_and_lastSegment_iff (List.mem_cons_of_mem _ hmem)]
    simp [hne]
  rw [(ofType_iff type).2]
  constructor
  · rintro ⟨hqualified, segment, hmem, hlast⟩
    rcases (hsegment segment hmem).mp ⟨hqualified, hlast⟩ with rfl | hbelow
    · exact .inl hmem
    · exact .inr ⟨segment, hmem, hbelow⟩
  · rintro (hmem | ⟨segment, hmem, hbelow⟩)
    · obtain ⟨hqualified, hlast⟩ := (hsegment _ hmem).mpr (.inl rfl)
      exact ⟨hqualified, _, hmem, hlast⟩
    · obtain ⟨hqualified, hlast⟩ := (hsegment segment hmem).mpr (.inr hbelow)
      exact ⟨hqualified, segment, hmem, hlast⟩

/-! ## Where the documented kinds are missed -/

theorem not_endsBelow_of_mem_stringPaths : ∀ path ∈ stringPaths, ∀ segment ∈ segments,
    ¬EndsBelow segment path := by
  decide +kernel

/-- The documented paths of integers are plain names, and names directly below a module of primitive
types. -/
theorem endsBelow_of_mem_integerPaths : ∀ path ∈ integerPaths,
    path ∈ integerTypes ∨ ∃ segment ∈ integerTypes, EndsBelow segment path := by
  decide +kernel

/-- A kind is the documented one unless more than a name lies below a module of primitive types. -/
theorem ofType_eq_documented_iff (type : String) :
    ofType type = documented (pathOf type) ↔
      ∀ segment ∈ segments, EndsBelow segment (pathOf type) → pathOf type ∈ integerPaths := by
  have hstring := ofType_eq_string_iff type
  have hinteger := ofType_eq_integer_iff type
  by_cases hs : pathOf type ∈ stringPaths
  · rw [documented, if_pos hs, hstring]
    constructor
    · intro _ segment hmem hbelow
      exact absurd hbelow (not_endsBelow_of_mem_stringPaths _ hs segment hmem)
    · exact fun _ => .inl hs
  · by_cases hi : pathOf type ∈ integerPaths
    · rw [documented, if_neg hs, if_pos hi, hinteger]
      exact ⟨fun _ _ _ _ => hi, fun _ => endsBelow_of_mem_integerPaths _ hi⟩
    · rw [documented, if_neg hs, if_neg hi]
      constructor
      · intro hother segment hmem hbelow
        rcases List.mem_cons.mp hmem with rfl | hmem
        · rw [hstring.mpr (.inr hbelow)] at hother
          cases hother
        · rw [hinteger.mpr (.inr ⟨segment, hmem, hbelow⟩)] at hother
          cases hother
      · intro h
        have hnot (segment : String) (hmem : segment ∈ segments) :
            ¬EndsBelow segment (pathOf type) := fun hbelow => hi (h segment hmem hbelow)
        cases hkind : ofType type with
        | other => rfl
        | string =>
          rcases hstring.mp hkind with hpath | hbelow
          · exact absurd hpath hs
          · exact absurd hbelow (hnot _ List.mem_cons_self)
        | integer =>
          rcases hinteger.mp hkind with hpath | ⟨segment, hmem, hbelow⟩
          · exact absurd (List.mem_append_left _ hpath) hi
          · exact absurd hbelow (hnot segment (List.mem_cons_of_mem _ hmem))

/-- **Which types are strings and which are integers,** by their paths, and where that is not what
is documented: at the paths that begin in a module of primitive types and end in a name that counts,
with something between the two. -/
theorem ofType_paths (type : String) :
    (ofType type = string ↔ pathOf type ∈ stringPaths ∨ EndsBelow "String" (pathOf type)) ∧
    (ofType type = integer ↔
      pathOf type ∈ integerTypes ∨ ∃ segment ∈ integerTypes, EndsBelow segment (pathOf type)) ∧
    (ofType type = documented (pathOf type) ↔
      ∀ segment ∈ segments, EndsBelow segment (pathOf type) → pathOf type ∈ integerPaths) :=
  ⟨ofType_eq_string_iff type, ofType_eq_integer_iff type, ofType_eq_documented_iff type⟩

/-- Both kinds have paths that are not documented. -/
theorem ofType_not_documented :
    ¬(ofType "std::primitive::x::u8" = integer ↔
        pathOf "std::primitive::x::u8" ∈ integerPaths) ∧
      ¬(ofType "core::primitive::String" = string ↔
        pathOf "core::primitive::String" ∈ stringPaths) := by
  decide +kernel

end RequestBinding.FieldKind
