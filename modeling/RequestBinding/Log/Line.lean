import RequestBinding.Json
import RequestBinding.Log.Event
import RequestBinding.Log.Settings
import RequestBinding.Text.Pieces

/-!
# Log lines

An event as a line of a log: plain, with its fields as `name=value` after the message, or as a JSON
object.
-/

namespace RequestBinding

/-- The value in a JSON log line. -/
def EventValue.json : EventValue → Json
  | text value => .text value
  | shown value => .text value
  | number value => .number value

/-- A line of a log. -/
inductive LogLine where
  | plain (text : String)
  | object (members : List (String × Json))

namespace LogLine

/-- The plain text of an event. -/
def plainText (event : Event) : String :=
  " ".intercalate
    ([event.level.word, event.message] ++
      event.fields.map fun (name, value) => name ++ "=" ++ value.plain)

/-- The members of the object of an event. -/
def members (showsLocation : Bool) (event : Event) : List (String × Json) :=
  [("level", .text event.level.word),
    ("fields", .object (("message", .text event.message) ::
      event.fields.map fun (name, value) => (name, value.json))),
    ("target", .text event.target)] ++
    if showsLocation then [("has_filename", .bool true)] else []

/-- A text as plain lines. -/
def plainLines (text : String) : List LogLine :=
  (Text.pieces '\n' text.toList).map fun line => plain (String.ofList line)

/-- The lines of an event. -/
def ofEvent (settings : LogSettings) (event : Event) : List LogLine :=
  match settings.format with
  | .pretty => plainLines (plainText event)
  | .json => [object (members settings.showsLocation event)]

/-- The line as it is printed. -/
def text : LogLine → String
  | plain text => text
  | object members => (Json.object members).compact

end LogLine

end RequestBinding
