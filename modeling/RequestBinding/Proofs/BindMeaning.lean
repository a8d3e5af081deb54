import RequestBinding.Function.Reference
import RequestBinding.Source.Token
import RequestBinding.Proofs.BodyText

/-!
# The meaning of bind functions

The text of the bind function of a record, read as a program and run, does what `visitFields` does:
the same struct is left, also after a failure, and the same message is returned.

## Steps

* **Types.** A path whose last word is the name of a primitive type is recognized as it is printed
  (`integerType?_of_isPathTo`), and the comparison for that type is the one of the numbers
  (`value?_ofType`).
* **Statements.** The statements of one field do what the visit of that field does, whatever text is
  at hand before them (`run_readStatements`, `run_boundStatements`).
* **Fields.** A visit keeps the types of all fields, so the next field can be visited in the same way
  (`run_fields`).
-/

namespace RequestBinding.Function

open Source

variable {pointer : PointerWidth}

/-! ## Types of fields -/

/-- The tokens are a path whose last word is this plain name. -/
inductive IsPathTo (name : String) : List TokenTree → Prop
  | word {place : Position} {word : Word} : word.text = name → IsPathTo name [.word place word]
  | segment {before : List TokenTree} {first second place : Position} {word : Word} :
    word.text = name → IsPathTo name
      (before ++ [.mark first .colon true, .mark second .colon false, .word place word])

/-- The names of the primitive types hold neither a colon nor a blank. -/
theorem name_chars (type : IntegerType) :
    ∀ c ∈ type.name.toList, c ≠ ':' ∧ Text.isBlank c = false := by
  have hall : type.name.toList.all (fun c => c != ':' && !Text.isBlank c) = true := by
    obtain ⟨signed, width⟩ := type
    cases signed <;> cases width <;> rfl
  intro c hc
  simpa using List.all_eq_true.mp hall c hc

theorem trim_lastSegment_of_isPathTo {type : IntegerType} {tokens : List TokenTree}
    (h : IsPathTo type.name tokens) :
    Text.trim (Text.lastSegment (printTokens tokens).toList) = type.name.toList := by
  have hcolon : ':' ∉ type.name.toList := fun hm => (name_chars type ':' hm).1 rfl
  have hblank : ∀ c ∈ type.name.toList, Text.isBlank c = false := fun c hc =>
    (name_chars type c hc).2
  cases h with
  | @word place word hword =>
    show Text.trim (Text.lastSegment word.text.toList) = _
    rw [hword, Text.lastSegment_of_not_mem hcolon, Text.trim_of_not_blank hblank]
  | @segment before first second place word hword =>
    obtain ⟨start, hstart⟩ := printTokens_append before
      (List.cons_ne_nil (TokenTree.mark first .colon true)
        [.mark second .colon false, .word place word])
    have hspace : ':' ∉ ' ' :: type.name.toList := by
      simpa using hcolon
    have htext : (printTokens (before ++
        [.mark first .colon true, .mark second .colon false, .word place word])).toList
          = start.toList ++ ':' :: ':' :: ' ' :: type.name.toList := by
      rw [hstart, String.toList_append, ← hword]
      simp [printTokens, TokenTree.print, TokenTree.isJoint, Mark.colon]
    have htrim : Text.trim ([' '] ++ type.name.toList ++ []) = type.name.toList :=
      Text.trim_padded (by decide) rfl hblank
    rw [htext, Text.lastSegment_append hspace]
    rwa [List.append_nil] at htrim

/-- The name of the primitive type is found in the printed path to it. -/
theorem integerType?_of_isPathTo {field : Field} {type : IntegerType} {tokens : List TokenTree}
    (hkind : field.kind = .integer) (htype : field.type = printTokens tokens)
    (h : IsPathTo type.name tokens) : field.integerType? = some type.name := by
  rw [Field.integerType?, hkind]
  show some (String.ofList (Text.trim (Text.lastSegment field.type.toList))) = _
  rw [htype, trim_lastSegment_of_isPathTo h, String.ofList_toList]

/-! ## Comparisons -/

theorem size_bits128 :
    IntegerWidth.bits128.size pointer = 340282366920938463463374607431768211456 := rfl

theorem admits_i128 (n : Int64) : IntegerType.i128.admits pointer n.toInt = true := by
  have hlo := n.le_toInt
  have hhi := n.toInt_lt
  refine IntegerType.admits_signed.mpr ?_
  rw [size_bits128]
  omega

/-- A value of a type as wide as a pointer is not changed by widening it. -/
theorem bmod_of_pointer {signed : Bool} (n : IntegerType.Values pointer ⟨signed, .pointer⟩) :
    Int.bmod n (IntegerWidth.bits128.size pointer) = n := by
  obtain ⟨n, hn⟩ := n
  have hsize : IntegerWidth.pointer.size pointer ≤ 18446744073709551616 := by
    cases pointer <;> decide
  have hrange : -9223372036854775808 ≤ n ∧ n < 18446744073709551616 := by
    cases signed with
    | true =>
      have h := IntegerType.admits_signed.mp hn
      omega
    | false =>
      have h := IntegerType.admits_unsigned.mp hn
      omega
  show Int.bmod n _ = n
  rw [size_bits128]
  exact Int.bmod_eq_of_le_mul_two (by omega) (by omega)

/-- A value too large for 128 bits with a sign lies above every bound. -/
theorem test_of_large {n : Int} (hn : 0 ≤ n) (hlarge : IntegerType.i128.admits pointer n = false)
    (side : Side) (bound : Int64) : side.test n bound.toInt = (side == .above) := by
  have hbound : bound.toInt < n := by
    have hhi := bound.toInt_lt
    have hnot : ¬IntegerType.i128.admits pointer n = true := by
      rw [hlarge]
      decide
    rw [IntegerType.i128, IntegerType.admits_signed, size_bits128] at hnot
    omega
  cases side with
  | below => exact decide_eq_false (by omega)
  | above => exact decide_eq_true hbound

/-- **The comparison for a type is the comparison of the numbers.** -/
theorem value?_ofType {type : IntegerType} (name : String) (side : Side) (bound : Int64)
    (n : type.Values pointer) :
    (Comparison.mk name (.ofType side type.name) side bound).value? n
      = some (side.test n bound.toInt) := by
  obtain ⟨signed, width⟩ := type
  cases width with
  | bits128 =>
    cases signed with
    | true =>
      have hwidening : Widening.ofType side (IntegerType.name ⟨true, .bits128⟩) = .none := by
        rfl
      rw [hwidening]
      exact if_pos (admits_i128 bound)
    | false =>
      have hwidening : Widening.ofType side (IntegerType.name ⟨false, .bits128⟩)
          = .attempt (side == .above) := by
        rfl
      rw [hwidening]
      -- a value without a place in 128 bits with a sign is the other case of the attempt
      show (if IntegerType.i128.admits pointer n then _ else _) = _
      split
      · rfl
      · next hlarge =>
        rw [test_of_large (IntegerType.admits_unsigned.mp n.property).1 (by simpa using hlarge)]
  | pointer =>
    have hwidening : Widening.ofType side (IntegerType.name ⟨signed, .pointer⟩) = .cast := by
      cases signed <;> rfl
    rw [hwidening]
    show some (side.test (Int.bmod n _) bound.toInt) = _
    rw [bmod_of_pointer]
  | bits8 | bits16 | bits32 | bits64 =>
    cases signed <;> rfl

/-! ## Values of fields -/

/-- The two values are of one type. -/
inductive SameType : Value pointer → Value pointer → Prop
  | text {t u : String} : SameType (.text t) (.text u)
  | integer {type : IntegerType} {n m : type.Values pointer} :
    SameType (.integer type n) (.integer type m)
  | refl {value : Value pointer} : SameType value value

/--
The value may stand in the field: a text in a string field, a value of the type that the field names
in an integer field, anything in another.
-/
inductive Holds (field : Field) : Value pointer → Prop
  | text {t : String} : field.kind = .string → Holds field (.text t)
  | integer {type : IntegerType} {n : type.Values pointer} {tokens : List TokenTree} :
    field.kind = .integer → field.type = printTokens tokens → IsPathTo type.name tokens →
      Holds field (.integer type n)
  | other {value : Value pointer} : field.kind = .other → Holds field value

theorem Holds.of_sameType {field : Field} {v w : Value pointer} (h : Holds field v)
    (hsame : SameType v w) : Holds field w := by
  cases hsame with
  | refl => exact h
  | text =>
    cases h with
    | text hkind => exact .text hkind
    | other hkind => exact .other hkind
  | integer =>
    cases h with
    | integer hkind htype hpath => exact .integer hkind htype hpath
    | other hkind => exact .other hkind

/-- Every field of the struct holds a value that may stand in it. -/
def HasTypes (s : Struct pointer) (fields : List Field) : Prop :=
  ∀ field ∈ fields, Holds field (s field.name)

theorem sameType_set {s : Struct pointer} {field : String} {value : Value pointer}
    (h : SameType (s field) value) (name : String) :
    SameType (s name) (s.set field value name) := by
  by_cases hname : name = field
  · rw [hname, Struct.set_same]
    exact h
  · rw [Struct.set_of_ne s value hname]
    exact .refl

/-- Filling a field leaves the struct, or sets that field to a value of the type that it had. -/
theorem fillField_fst (request : Request) (s : Struct pointer) (field : Field) :
    (fillField request s field).1 = s
      ∨ ∃ value, (fillField request s field).1 = s.set field.name value
        ∧ (Holds field (s field.name) → SameType (s field.name) value) := by
  unfold fillField
  cases field.bind with
  | none => exact .inl rfl
  | some bind =>
    cases hkind : field.kind with
    | other => exact .inl rfl
    | string =>
      refine .inr ⟨.text (request bind.source field.name), rfl, fun h => ?_⟩
      generalize s field.name = value at h
      cases h with
      | text => exact .text
      | integer hinteger => cases hkind.symm.trans hinteger
      | other hother => cases hkind.symm.trans hother
    | integer =>
      dsimp only
      -- a missing or an empty text is not read
      split
      · exact .inl rfl
      · split
        · exact .inl rfl
        · split
          · next type n hvalue =>
            split
            · next m _ => exact .inr ⟨.integer type m, rfl, fun _ => hvalue ▸ .integer⟩
            · exact .inl rfl
          · exact .inl rfl

/-- Filling a field changes no type. -/
theorem sameType_fillField (request : Request) {s : Struct pointer} {field : Field}
    (h : Holds field (s field.name)) (name : String) :
    SameType (s name) ((fillField request s field).1 name) := by
  obtain hkept | ⟨value, hset, htype⟩ := fillField_fst request s field
  · rw [hkept]
    exact .refl
  · rw [hset]
    exact sameType_set (htype h) name

theorem visitField_fst (request : Request) (s : Struct pointer) (field : Field) :
    (visitField request s field).1 = (fillField request s field).1 := by
  unfold visitField
  split
  · next heq => rw [heq]
  · next heq => rw [heq]

/-- A visit of one of the fields changes no type. -/
theorem HasTypes.visitField (request : Request) {s : Struct pointer} {fields : List Field}
    (h : HasTypes s fields) {field : Field} (hm : field ∈ fields) :
    HasTypes (visitField request s field).1 fields := by
  intro f hf
  rw [visitField_fst]
  exact (h f hf).of_sameType (sameType_fillField request (h field hm) f.name)

/-- A visit of some of the fields changes no type. -/
theorem HasTypes.visitFields (request : Request) {s : Struct pointer} {fields visited : List Field}
    (h : HasTypes s fields) (hsub : visited ⊆ fields) :
    HasTypes (visitFields request s visited).1 fields := by
  induction visited generalizing s with
  | nil => exact h
  | cons field more ih =>
    rw [List.cons_subset] at hsub
    have hfield := h.visitField request hsub.1
    rw [Function.visitFields]
    split
    · next heq => rwa [heq] at hfield
    · next heq =>
      rw [heq] at hfield
      exact ih hfield hsub.2

/-! ## Statements -/

theorem runBody_append (request : Request) (store : Store pointer) (body more : List Statement) :
    runBody request store (body ++ more)
      = match runBody request store body with
        | some (after, none) => runBody request after more
        | stopped => stopped := by
  induction body generalizing store with
  | nil => rfl
  | cons statement body ih =>
    rw [List.cons_append, runBody, runBody]
    cases statement.run request store with
    | none => rfl
    | some outcome =>
      obtain ⟨after, message?⟩ := outcome
      cases message? with
      | some message => rfl
      | none => exact ih after

/-- The message for a value that lies on this side of a bound. -/
def sideFailure? (name : String) (n : Int) (side : Side) (bound : Option Int64) : Option String :=
  bound.bind fun b => if side.test n b.toInt then some (boundMessage name side b) else none

theorem boundMessage_eq {side : Side} {words : String}
    (h : words = " must be " ++ side.words ++ " ") (name : String) (bound : Int64) :
    boundMessage name side bound = name ++ words ++ toString bound.toInt := by
  rw [h, boundMessage]
  simp only [String.append_assoc]

theorem sideFailure?_below (name : String) (n : Int) (bound : Option Int64) :
    sideFailure? name n .below bound = belowFailure? name n bound := by
  have hwords : " must be at least " = " must be " ++ Side.below.words ++ " " := by decide
  cases bound with
  | none => rfl
  | some b =>
    simp only [sideFailure?, belowFailure?, Side.test, Option.bind_some, boundMessage_eq hwords,
      decide_eq_true_eq]

theorem sideFailure?_above (name : String) (n : Int) (bound : Option Int64) :
    sideFailure? name n .above bound = aboveFailure? name n bound := by
  have hwords : " must be at most " = " must be " ++ Side.above.words ++ " " := by decide
  cases bound with
  | none => rfl
  | some b =>
    simp only [sideFailure?, aboveFailure?, Side.test, Option.bind_some, boundMessage_eq hwords,
      decide_eq_true_eq, gt_iff_lt]

/-- The check of one side fails with the message of that side. -/
theorem run_sideStatements (request : Request) {s : Struct pointer} (raw : Option String)
    {field : Field} {type : IntegerType} {n : type.Values pointer}
    (hvalue : s field.name = .integer type n) (htype : field.integerType? = some type.name)
    (side : Side) (bound : Option Int64) :
    runBody request ⟨s, raw⟩ (sideStatements field side bound)
      = some (⟨s, raw⟩, sideFailure? field.name n side bound) := by
  cases bound with
  | none => rfl
  | some b =>
    have hcompare : (Store.mk s raw).compare?
        ⟨field.name, .ofType side (field.integerType?.getD ""), side, b⟩
          = some (side.test n b.toInt) := by
      simp only [Store.compare?, hvalue, htype, Option.getD_some]
      exact value?_ofType field.name side b n
    simp only [sideStatements, runBody, Statement.run, hcompare, Option.map_some, sideFailure?,
      Option.bind_some]
    cases side.test n b.toInt <;> rfl

/-- The checks of a field say what its bounds say. -/
theorem run_boundStatements (request : Request) {s : Struct pointer} (raw : Option String)
    {field : Field} (h : Holds field (s field.name)) :
    runBody request ⟨s, raw⟩ (boundStatements field)
      = some (⟨s, raw⟩, boundFailure? s field) := by
  unfold boundStatements boundFailure? Field.integerBounds?
  generalize hvalue : s field.name = value at h
  cases h with
  | text hkind =>
    simp only [hkind]
    rfl
  | other hkind =>
    simp only [hkind]
    rfl
  | @integer type n _ hkind htype hpath =>
    have hname := integerType?_of_isPathTo hkind htype hpath
    simp only [hkind]
    cases field.bounds with
    | none => rfl
    | some bounds =>
      have hbelow := run_sideStatements request raw hvalue hname .below bounds.min
      have habove := run_sideStatements request raw hvalue hname .above bounds.max
      rw [sideFailure?_below] at hbelow
      rw [sideFailure?_above] at habove
      -- the upper bound is checked only where the lower one is kept
      show _ = some (Store.mk s raw, (belowFailure? field.name n bounds.min).or _)
      rw [runBody_append, hbelow]
      cases belowFailure? field.name n bounds.min with
      | some message => rfl
      | none => exact habove

/-- The text of the field is stored, then tested if it is required. -/
theorem run_storeStatements (request : Request) {s : Struct pointer} (raw : Option String)
    {name old : String} (hvalue : s name = .text old) (lookup : Lookup) (required : Bool)
    (message : String) :
    runBody request ⟨s, raw⟩ (.store name lookup
        :: (if required then [.demand (.field name) message] else []))
      = some (⟨s.set name (.text (request lookup.source lookup.key)), raw⟩,
          if required && (request lookup.source lookup.key).isEmpty then some message else none) := by
  have hstore : (Store.mk s raw).storeText name (request lookup.source lookup.key)
      = some (⟨s.set name (.text (request lookup.source lookup.key)), raw⟩, none) := by
    simp only [Store.storeText, hvalue]
    rfl
  simp only [runBody, Statement.run, hstore]
  cases required with
  | false => rfl
  | true =>
    simp only [if_true, runBody, Statement.run, Store.tested?, Struct.set_same, Option.map_some]
    cases (request lookup.source lookup.key).isEmpty <;> rfl

/-- The text at hand is read into the field, as what the field holds. -/
theorem convert_of_integer {s : Struct pointer} (raw : Option String) {name : String}
    {type : IntegerType} {n : type.Values pointer} (hvalue : s name = .integer type n)
    (key text : String) :
    (Store.mk s raw).convert name key text
      = match parseInteger pointer type text key with
        | .ok m => some (⟨s.set name (.integer type m), raw⟩, none)
        | .error message => some (⟨s, raw⟩, some message) := by
  simp only [Store.convert, hvalue]
  rfl

/-- The text for the field is fetched, tested if it is required, and read if it is not empty. -/
theorem run_fetchStatements (request : Request) {s : Struct pointer} (raw : Option String)
    {name : String} {type : IntegerType} {n : type.Values pointer}
    (hvalue : s name = .integer type n) (lookup : Lookup) {text : String}
    (htext : request lookup.source lookup.key = text) (required : Bool) (message : String) :
    runBody request ⟨s, raw⟩ (.fetch lookup
        :: (if required then [.demand .raw message, .convert name name]
            else [.convertPresent name name]))
      = if required && text.isEmpty then some (⟨s, some text⟩, some message)
        else if text.isEmpty then some (⟨s, some text⟩, none)
        else
          match parseInteger pointer type text name with
          | .ok m => some (⟨s.set name (.integer type m), some text⟩, none)
          | .error failure => some (⟨s, some text⟩, some failure) := by
  have hconvert := convert_of_integer (some text) hvalue name text
  rw [runBody, Statement.run, htext]
  cases required with
  | true =>
    cases hempty : text.isEmpty with
    | true =>
      simp only [if_true, runBody, Statement.run, Store.tested?, Option.map_some, hempty]
      rfl
    | false =>
      simp only [if_true, runBody, Statement.run, Store.tested?, Option.map_some, hempty,
        Option.bind_some, hconvert, Bool.and_false, Bool.false_eq_true, if_false]
      cases parseInteger pointer type text name <;> rfl
  | false =>
    cases hempty : text.isEmpty with
    | true =>
      simp only [runBody, Statement.run, Option.bind_some, hempty, Bool.false_and,
        Bool.false_eq_true, if_false, if_true]
    | false =>
      simp only [runBody, Statement.run, Option.bind_some, hempty, hconvert, Bool.false_and,
        Bool.false_eq_true, if_false]
      cases parseInteger pointer type text name <;> rfl

/-- The statements that fill a field do so, whatever text is at hand before. -/
theorem run_readStatements (request : Request) {s : Struct pointer} (raw : Option String)
    {field : Field} (h : Holds field (s field.name)) :
    ∃ after, runBody request ⟨s, raw⟩ (readStatements field)
      = some (⟨(fillField request s field).1, after⟩, (fillField request s field).2) := by
  unfold readStatements fillField
  cases field.bind with
  | none => exact ⟨raw, rfl⟩
  | some bind =>
    generalize hvalue : s field.name = value at h
    cases h with
    | text hkind =>
      simp only [hkind]
      exact ⟨raw, run_storeStatements request raw hvalue ⟨bind.source, field.name⟩ bind.required _⟩
    | other hkind =>
      simp only [hkind]
      exact ⟨raw, rfl⟩
    | @integer type n _ hkind _ _ =>
      have hfetch := run_fetchStatements request raw hvalue ⟨bind.source, field.name⟩ rfl
        bind.required (requiredMessage field.name)
      refine ⟨some (request bind.source field.name), ?_⟩
      simp only [hkind]
      rw [hfetch]
      split
      · rfl
      · split
        · rfl
        · dsimp only
          cases parseInteger pointer type (request bind.source field.name) field.name <;> rfl

/-! ## Fields -/

/-- The statements of fields do what a visit of the fields does. -/
theorem run_fields (request : Request) {fields : List Field} {s : Struct pointer}
    (h : HasTypes s fields) (raw : Option String) :
    ∃ after, runBody request ⟨s, raw⟩
        (fields.flatMap fun field => readStatements field ++ boundStatements field)
      = some (⟨(visitFields request s fields).1, after⟩, (visitFields request s fields).2) := by
  induction fields generalizing s raw with
  | nil => exact ⟨raw, rfl⟩
  | cons field more ih =>
    have hfield := h field List.mem_cons_self
    have hmore : HasTypes (visitField request s field).1 more := fun f hf =>
      h.visitField request List.mem_cons_self f (List.mem_cons_of_mem _ hf)
    obtain ⟨read, hread⟩ := run_readStatements request raw hfield
    have hkept := hfield.of_sameType (sameType_fillField request hfield field.name)
    have hbounds := run_boundStatements request read hkept
    rw [List.flatMap_cons, runBody_append, runBody_append, hread, visitFields]
    unfold visitField at hmore ⊢
    -- the field fails as it is filled, or at its bounds, or not at all
    cases hfill : fillField request s field with
    | mk filled message? =>
      rw [hfill] at hbounds hmore
      cases message? with
      | some message => exact ⟨read, rfl⟩
      | none =>
        simp only [hbounds]
        cases hfailure : boundFailure? filled field with
        | some message => exact ⟨read, rfl⟩
        | none => exact ih hmore read

/-- The record is as a source gives it: its field names are words, its types print on one line. -/
structure IsWritten (record : Record) : Prop where
  names : ∀ field ∈ record.fields, IsFieldName field.name
  types : ∀ field ∈ record.fields, IsOneLine field.type

theorem isReadable_boundStatements {field : Field} (hname : IsFieldName field.name) :
    ∀ statement ∈ boundStatements field, statement.IsReadable := by
  have hside : ∀ side bound, ∀ statement ∈ sideStatements field side bound,
      statement.IsReadable := by
    intro side bound statement hm
    cases bound with
    | none => cases hm
    | some n =>
      rw [List.mem_singleton.mp hm]
      exact hname
  intro statement hm
  unfold boundStatements at hm
  split at hm
  · cases hm
  · rcases List.mem_append.mp hm with hm | hm
    · exact hside _ _ statement hm
    · exact hside _ _ statement hm

theorem isReadable_readStatements {field : Field} (hname : IsFieldName field.name)
    (htype : IsOneLine field.type) : ∀ statement ∈ readStatements field, statement.IsReadable := by
  intro statement hm
  unfold readStatements at hm
  cases hbind : field.bind with
  | none => rw [hbind] at hm; cases hm
  | some bind =>
    rw [hbind] at hm
    cases hkind : field.kind with
    | string =>
      simp only [hkind] at hm
      rcases List.mem_cons.mp hm with rfl | hm
      · exact hname
      · split at hm
        · rw [List.mem_singleton.mp hm]
          exact hname
        · cases hm
    | integer =>
      simp only [hkind] at hm
      rcases List.mem_cons.mp hm with rfl | hm
      · trivial
      · split at hm
        · rcases List.mem_cons.mp hm with rfl | hm
          · trivial
          · rw [List.mem_singleton.mp hm]
            exact hname
        · rw [List.mem_singleton.mp hm]
          exact hname
    | other =>
      simp only [hkind] at hm
      have hword : IsOneLine bind.source.word := by cases bind.source <;> decide
      rw [List.mem_singleton.mp hm]
      simp +decide only [Statement.IsReadable, isOneLine_append, hname.isOneLine, hword, htype]

theorem isReadable_bindBody {record : Record} (h : IsWritten record) :
    ∀ statement ∈ bindBody record, statement.IsReadable := by
  intro statement hm
  obtain ⟨field, hf, hm⟩ := List.mem_flatMap.mp hm
  rcases List.mem_append.mp hm with hm | hm
  · exact isReadable_readStatements (h.names field hf) (h.types field hf) statement hm
  · exact isReadable_boundStatements (h.names field hf) statement hm

/-- The body of the bind function, run from its text, visits the fields. -/
theorem runText_bindBody {record : Record} (h : IsWritten record) {s : Struct pointer}
    (htypes : HasTypes s record.fields) (request : Request) :
    runText request s (bodyText (bindBody record))
      = some (visitFields request s record.fields) := by
  obtain ⟨raw, hrun⟩ := run_fields request htypes none
  rw [runText_bodyText (isReadable_bindBody h), bindBody, hrun]
  rfl

/--
**The bind function of a record does what a visit of its fields does.** Its body, read as a program,
runs on every struct of the record's types and with whatever the helpers find.
-/
theorem runText_bindText {record : Record} (h : IsWritten record) {s : Struct pointer}
    (htypes : HasTypes s record.fields) (request : Request) :
    ∃ body, bindText record = bindHead record ++ body ++ functionEnd
      ∧ runText request s body = some (visitFields request s record.fields) :=
  ⟨bodyText (bindBody record), rfl, runText_bindBody h htypes request⟩

/-! ## A record with a field of each kind -/

def getItem : Record := ⟨"GetItem", ["api"], [
  .of "id" "i64" (some ⟨.path, true⟩) (some ⟨some 1, none, rfl⟩),
  .of "limit" "std :: primitive :: usize" (some ⟨.query, false⟩) (some ⟨none, some 100, rfl⟩),
  .of "name" "String" (some ⟨.header, true⟩) none,
  .of "tags" "Vec < String >" (some ⟨.query, false⟩) none]⟩

/-- A struct of the types of `getItem`. -/
def freshItem : Struct .bits64
  | "id" => .integer ⟨true, .bits64⟩ ⟨0, by decide⟩
  | "limit" => .integer ⟨false, .pointer⟩ ⟨10, by decide⟩
  | "name" => .text ""
  | _ => .other

/-- A request whose limit is too large. -/
def largeLimit : Request
  | .path, "id" => "7"
  | .query, "limit" => "250"
  | _, _ => ""

theorem isWritten_getItem : IsWritten getItem where
  names := by
    simp only [getItem, List.forall_mem_cons]
    exact ⟨⟨⟨false, "id", by decide⟩, rfl⟩, ⟨⟨false, "limit", by decide⟩, rfl⟩,
      ⟨⟨false, "name", by decide⟩, rfl⟩, ⟨⟨false, "tags", by decide⟩, rfl⟩, by simp⟩
  types := by decide

theorem hasTypes_freshItem : HasTypes freshItem getItem.fields := by
  have hid : IsPathTo (IntegerType.name ⟨true, .bits64⟩)
      [.word .start ⟨false, "i64", by decide⟩] := .word rfl
  have hlimit : IsPathTo (IntegerType.name ⟨false, .pointer⟩)
      ([.word .start ⟨false, "std", by decide⟩, .mark .start .colon true, .mark .start .colon false,
        .word .start ⟨false, "primitive", by decide⟩]
        ++ [.mark .start .colon true, .mark .start .colon false,
          .word .start ⟨false, "usize", by decide⟩]) := .segment rfl
  unfold HasTypes
  simp only [getItem, List.forall_mem_cons]
  exact ⟨.integer rfl rfl hid, .integer rfl rfl hlimit, .text rfl, .other rfl, by simp⟩

/-- The id is stored, the limit is stored and refused, the missing name is not reached. -/
theorem runText_bindText_getItem :
    (∃ body, bindText getItem = bindHead getItem ++ body ++ functionEnd
      ∧ runText largeLimit freshItem body
        = some (visitFields largeLimit freshItem getItem.fields))
      ∧ (visitFields largeLimit freshItem getItem.fields).2 = some "limit must be at most 100" :=
  ⟨runText_bindText isWritten_getItem hasTypes_freshItem largeLimit, by decide⟩

end RequestBinding.Function
