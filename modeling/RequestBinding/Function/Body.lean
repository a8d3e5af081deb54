import RequestBinding.Function.Name
import RequestBinding.Function.Statement

/-!
# Generated functions

For every record a bind function, which fills the fields from a request and checks them, and a
validate function, which only checks the bounds. Fields come in the order of their declaration; each
is read, then tested for emptiness if required, then compared with its bounds, the lower one first.
-/

namespace RequestBinding.Function

/-! ## Messages -/

/-- The message for a required field that is empty. -/
def requiredMessage (name : String) : String := name ++ " is required"

/-- The message for a field that lies on the wrong side of a bound. -/
def boundMessage (name : String) (side : Side) (bound : Int64) : String :=
  name ++ " must be " ++ side.words ++ " " ++ toString bound.toInt

/-! ## Statements -/

/-- The statements that check a field against a bound, if there is one. -/
def sideStatements (field : Field) (side : Side) : Option Int64 → List Statement
  | none => []
  | some n =>
    [.refuse ⟨field.name, .ofType side (field.integerType?.getD ""), side, n⟩
      (boundMessage field.name side n)]

/-- The statements that check the bounds of a field. -/
def boundStatements (field : Field) : List Statement :=
  match field.integerBounds? with
  | none => []
  | some bounds => sideStatements field .below bounds.min ++ sideStatements field .above bounds.max

/-- The statements that fill a field, if it is bound. -/
def readStatements (field : Field) : List Statement :=
  match field.bind with
  | none => []
  | some bind =>
    let lookup : Lookup := ⟨bind.source, field.name⟩
    let message := requiredMessage field.name
    match field.kind with
    | .string =>
      .store field.name lookup
        :: (if bind.required then [.demand (.field field.name) message] else [])
    | .integer =>
      .fetch lookup
        :: (if bind.required then [.demand .raw message, .convert field.name field.name]
            else [.convertPresent field.name field.name])
    | .other =>
      [.remark (field.name ++ ": " ++ bind.source.word ++ " binding skipped for unsupported type `"
        ++ field.type ++ "`")]

/-- The statements of the bind function. -/
def bindBody (record : Record) : List Statement :=
  record.fields.flatMap fun field => readStatements field ++ boundStatements field

/-- The statements of the validate function. -/
def validateBody (record : Record) : List Statement := record.fields.flatMap boundStatements

/-! ## Texts -/

/-- The line of the answer that all is well. -/
def answerLine : String := Statement.indent ++ "Ok(())"

/-- A body as a text, with the answer at its end. -/
def bodyText (body : List Statement) : String :=
  endLines (body.flatMap Statement.lines ++ [answerLine])

/-- The bind function of a record up to its body. -/
def bindHead (record : Record) : String := endLines [
  "pub fn " ++ bindName record ++ "<B>(",
  Statement.indent ++ "req: &Request<B>,",
  Statement.indent ++ "path_params: &HashMap<String, String>,",
  Statement.indent ++ "s: &mut " ++ record.typePath ++ ",",
  ") -> Result<(), String> \x7b"]

/-- The validate function of a record up to its body. -/
def validateHead (record : Record) : String := endLines [
  "pub fn " ++ validateName record ++ "(s: &" ++ record.typePath ++ ") -> Result<(), String> \x7b"]

/-- The line that ends a function. -/
def functionEnd : String := endLines ["\x7d"]

/-- The bind function of a record. -/
def bindText (record : Record) : String :=
  bindHead record ++ bodyText (bindBody record) ++ functionEnd

/-- The validate function of a record. -/
def validateText (record : Record) : String :=
  validateHead record ++ bodyText (validateBody record) ++ functionEnd

end RequestBinding.Function
