import RequestBinding.Function.Statement

/-!
# What generated functions do

A function body works on the fields of a struct and on the text last fetched, and stops with a
message at the first statement that fails. What was done before it stopped stays done.

A body that the types of the fields do not fit, or that uses a text before one was fetched, does
nothing at all: `Statement.run` and `runBody` have no result for it.
-/

namespace RequestBinding.Function

variable {pointer : PointerWidth}

/-! ## Values -/

/-- What a field of a struct holds. -/
inductive Value (pointer : PointerWidth) where
  | text (value : String)
  | integer (type : IntegerType) (value : type.Values pointer)
  /-- A value that the functions cannot read. -/
  | other

/-- The fields of a struct by their names. -/
abbrev Struct (pointer : PointerWidth) := String → Value pointer

namespace Struct

/-- The struct with another value of a field. -/
def set (s : Struct pointer) (field : String) (value : Value pointer) : Struct pointer :=
  fun name => if name = field then value else s name

@[simp] theorem set_same (s : Struct pointer) (field : String) (value : Value pointer) :
    s.set field value field = value := by
  simp [set]

theorem set_of_ne (s : Struct pointer) {field name : String} (value : Value pointer)
    (h : name ≠ field) : s.set field value name = s name := by
  simp [set, h]

end Struct

/-! ## Statements -/

/-- What the helpers for the sources find under a key. -/
abbrev Request := BindSource → String → String

/-- What a function body works on. -/
structure Store (pointer : PointerWidth) where
  fields : Struct pointer
  /-- The text last fetched, if one was. -/
  raw : Option String

/-- What is left of a run: the store, and the message if it failed. -/
abbrev Outcome (pointer : PointerWidth) := Store pointer × Option String

namespace Store

/-- The store with another value of a field. -/
def set (store : Store pointer) (field : String) (value : Value pointer) : Store pointer :=
  { store with fields := store.fields.set field value }

/-- The text that is tested. -/
def tested? (store : Store pointer) : Tested → Option String
  | .raw => store.raw
  | .field name =>
    match store.fields name with
    | .text value => some value
    | _ => none

/-- A text becomes the value of a field that holds a text. -/
def storeText (store : Store pointer) (field text : String) : Option (Outcome pointer) :=
  match store.fields field with
  | .text _ => some (store.set field (.text text), none)
  | _ => none

/-- The text at hand is read into a field, as the integer type that the field has. -/
def convert (store : Store pointer) (field key raw : String) : Option (Outcome pointer) :=
  match store.fields field with
  | .integer type _ =>
    match parseInteger pointer type raw key with
    | .ok n => some (store.set field (.integer type n), none)
    | .error message => some (store, some message)
  | _ => none

/-- The value of a test of a field that holds an integer. -/
def compare? (store : Store pointer) (comparison : Comparison) : Option Bool :=
  match store.fields comparison.field with
  | .integer _ value => comparison.value? value
  | _ => none

end Store

/-- What a statement does. -/
def Statement.run (request : Request) (store : Store pointer) :
    Statement → Option (Outcome pointer)
  | .store field lookup => store.storeText field (request lookup.source lookup.key)
  | fetch lookup => some ({ store with raw := some (request lookup.source lookup.key) }, none)
  | demand tested message =>
    (store.tested? tested).map fun text => (store, if text.isEmpty then some message else none)
  | convert field key => store.raw.bind fun raw => store.convert field key raw
  | convertPresent field key =>
    store.raw.bind fun raw => if raw.isEmpty then some (store, none) else store.convert field key raw
  | remark _ => some (store, none)
  | refuse comparison message =>
    (store.compare? comparison).map fun holds => (store, if holds then some message else none)

/-! ## Bodies -/

/-- What a body does, up to the first statement that fails. -/
def runBody (request : Request) (store : Store pointer) : List Statement → Option (Outcome pointer)
  | [] => some (store, none)
  | statement :: more =>
    match statement.run request store with
    | some (after, none) => runBody request after more
    | some (after, some message) => some (after, some message)
    | none => none

end RequestBinding.Function
