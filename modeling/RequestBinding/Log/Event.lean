import RequestBinding.Log.Level
import RequestBinding.Text.Quoted

/-!
# Log events

What is worth telling about a run: what was read, what was skipped, what was written.
-/

namespace RequestBinding

inductive Event where
  | skippedTestModule (module : String)
  | skippedLocalStruct (record : String)
  | ignoredDirective (field key error : String)
  | skippedGenerated (path : String)
  | parsedFile (path : String) (records : Nat)
  | parsedDirectory (directory : String) (files records : Nat)
  | noRecords (directory : String)
  | writing (path : String) (records : Nat) (target : String)
deriving Repr, DecidableEq

/-- The value of a field of an event. -/
inductive EventValue where
  /-- A text that stands in quotes in a plain log line. -/
  | text (value : String)
  /-- A text that stands bare. -/
  | shown (value : String)
  | number (value : Nat)
deriving Repr, DecidableEq

/-- The value in a plain log line. -/
def EventValue.plain : EventValue → String
  | text value => Text.quoted value
  | shown value => value
  | number value => toString value

namespace Event

def level : Event → LogLevel
  | skippedTestModule _ => .debug
  | skippedLocalStruct _ => .warn
  | ignoredDirective _ _ _ => .debug
  | skippedGenerated _ => .debug
  | parsedFile _ _ => .debug
  | parsedDirectory _ _ _ => .info
  | noRecords _ => .warn
  | writing _ _ _ => .info

/-- The part of the program that an event comes from. -/
def target : Event → String
  | skippedTestModule _ => "tagwrangler::parse::source"
  | skippedLocalStruct _ => "tagwrangler::parse::source"
  | ignoredDirective _ _ _ => "tagwrangler::parse::source"
  | skippedGenerated _ => "tagwrangler::parse::directory"
  | parsedFile _ _ => "tagwrangler::parse::directory"
  | parsedDirectory _ _ _ => "tagwrangler::parse::directory"
  | noRecords _ => "tagwrangler::generator::project"
  | writing _ _ _ => "tagwrangler::generator::project"

def message : Event → String
  | skippedTestModule _ => "skipping test-only module"
  | skippedLocalStruct _ =>
    "skipping struct declared inside a block: generated code cannot name it"
  | ignoredDirective _ _ _ => "ignoring invalid directive"
  | skippedGenerated _ => "skipping generated file"
  | parsedFile _ _ => "parsed source file"
  | parsedDirectory _ _ _ => "parsed directory"
  | noRecords _ => "no tagged structs found"
  | writing _ _ _ => "writing bindings"

/-- The fields of an event in the order in which they are told. -/
def fields : Event → List (String × EventValue)
  | skippedTestModule module => [("module", .shown module)]
  | skippedLocalStruct record => [("record", .shown record)]
  | ignoredDirective field key error =>
    [("field", .text field), ("key", .text key), ("error", .shown error)]
  | skippedGenerated path => [("path", .shown path)]
  | parsedFile path records => [("path", .shown path), ("records", .number records)]
  | parsedDirectory directory files records =>
    [("dir", .shown directory), ("files", .number files), ("records", .number records)]
  | noRecords directory => [("dir", .shown directory)]
  | writing path records target =>
    [("path", .shown path), ("records", .number records), ("target", .text target)]

/-- The event concerns a module, not a struct. -/
def isAboutModule : Event → Bool
  | skippedTestModule _ => true
  | _ => false

end Event

end RequestBinding
