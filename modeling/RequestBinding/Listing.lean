import RequestBinding.Generation
import RequestBinding.Json

/-!
# Listings

Records as text for readers and as JSON.
-/

namespace RequestBinding.Listing

/-! ## Text -/

/-- The lines of a field. -/
def fieldLines (field : Field) : List String :=
  let bound (words : String) (value? : Option Int64) :=
    (value?.map fun value => "    Validate " ++ words ++ ": " ++ toString value.toInt).toList
  ["  Field: " ++ field.name ++ " (" ++ field.type ++ ")"] ++
    (field.bind.map fun bind =>
      "    Bind: " ++ bind.source.word ++ " (required: " ++ toString bind.required ++ ")").toList ++
    bound "Min" (field.bounds.bind (·.min)) ++
    bound "Max" (field.bounds.bind (·.max))

/-- The lines of a record. -/
def recordLines (record : Record) : List String :=
  ("Struct: " ++ record.name) :: record.fields.flatMap fieldLines

/-- The lines of records. -/
def lines (records : List Record) : List String :=
  if records.isEmpty then [Generation.nothingFound] else records.flatMap recordLines

/-! ## JSON -/

/-- The value, or nothing. -/
def optional (value? : Option Json) : Json := value?.getD .null

def bindJson (bind : BindDirective) : Json :=
  .object [("source", .text bind.source.word), ("required", .bool bind.required)]

def boundsJson (bounds : Bounds) : Json :=
  .object [
    ("min", optional (bounds.min.map fun n => .number n.toInt)),
    ("max", optional (bounds.max.map fun n => .number n.toInt))]

def fieldJson (field : Field) : Json :=
  .object [
    ("name", .text field.name),
    ("ty", .text field.type),
    ("kind", .text field.kind.word),
    ("bind", optional (field.bind.map bindJson)),
    ("validate", optional (field.bounds.map boundsJson))]

/-- A record; its modules are told if there are any. -/
def recordJson (record : Record) : Json :=
  .object <|
    [("name", .text record.name)] ++
    (if record.modulePath.isEmpty then []
      else [("module_path", .list (record.modulePath.map .text))]) ++
    [("fields", .list (record.fields.map fieldJson))]

def json (records : List Record) : Json := .list (records.map recordJson)

/-- Lists the records of directories. -/
def list (settings : Settings) (asJson : Bool) (directories : List String) : Run Unit := do
  let read ← directories.mapM (SourceDirectory.read settings)
  let records := read.flatMap (·.records)
  if asJson then Run.print (json records).pretty
  else (lines records).forM Run.print

end RequestBinding.Listing
