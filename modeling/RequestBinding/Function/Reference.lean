import RequestBinding.Record
import RequestBinding.Function.Meaning

/-!
# What generated functions are for

The functions of a record said without statements: the fields are visited in the order of their
declaration, each is filled from the request if it is bound and then compared with its bounds. The
first failure ends the visit; what was filled before it stays filled.
-/

namespace RequestBinding.Function

variable {pointer : PointerWidth}

/--
Fill a bound field. A text is stored before it is tested; an integer is tested before it is read, and
left as it is if there is no text for it.
-/
def fillField (request : Request) (s : Struct pointer) (field : Field) :
    Struct pointer × Option String :=
  match field.bind with
  | none => (s, none)
  | some bind =>
    let text := request bind.source field.name
    let missing := bind.required && text.isEmpty
    match field.kind with
    | .string =>
      (s.set field.name (.text text), if missing then some (field.name ++ " is required") else none)
    | .integer =>
      if missing then (s, some (field.name ++ " is required"))
      else if text.isEmpty then (s, none)
      else
        match s field.name with
        | .integer type _ =>
          match parseInteger pointer type text field.name with
          | .ok n => (s.set field.name (.integer type n), none)
          | .error message => (s, some message)
        | _ => (s, none)
    | .other => (s, none)

/-- The message for a value below the lower bound. -/
def belowFailure? (name : String) (n : Int) : Option Int64 → Option String
  | none => none
  | some min =>
    if n < min.toInt then some (name ++ " must be at least " ++ toString min.toInt) else none

/-- The message for a value above the upper bound. -/
def aboveFailure? (name : String) (n : Int) : Option Int64 → Option String
  | none => none
  | some max =>
    if max.toInt < n then some (name ++ " must be at most " ++ toString max.toInt) else none

/-- The message for an integer field that is not between its bounds; the lower one comes first. -/
def boundFailure? (s : Struct pointer) (field : Field) : Option String :=
  match field.kind, field.bounds, s field.name with
  | .integer, some bounds, .integer _ n =>
    (belowFailure? field.name n bounds.min).or (aboveFailure? field.name n bounds.max)
  | _, _, _ => none

/-- Fill a field, then compare it with its bounds. -/
def visitField (request : Request) (s : Struct pointer) (field : Field) :
    Struct pointer × Option String :=
  match fillField request s field with
  | (after, some message) => (after, some message)
  | (after, none) => (after, boundFailure? after field)

/-- Visit fields up to the first failure. -/
def visitFields (request : Request) (s : Struct pointer) :
    List Field → Struct pointer × Option String
  | [] => (s, none)
  | field :: more =>
    match visitField request s field with
    | (after, some message) => (after, some message)
    | (after, none) => visitFields request after more

end RequestBinding.Function
