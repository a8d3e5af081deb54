import RequestBinding.OutputPlan

/-!
# Commands

What the program can be asked to do, and why a request is not understood.
-/

namespace RequestBinding

inductive Command where
  /-- Write bindings modules by a strategy. -/
  | generate (strategy : Strategy) (module directory : Option String)
      (modules : Option (List String)) (dryRun : Bool) (directories : List String)
  /-- List records. -/
  | inspect (asJson : Bool) (directories : List String)
deriving Repr, DecidableEq

namespace Command

/-- The directories that are read. -/
def sources : Command → List String
  | generate _ _ _ _ _ directories => directories
  | inspect _ directories => directories

/-- The directory that is written to, if one is named. -/
def target? : Command → Option String
  | generate _ _ directory _ _ _ => directory
  | inspect _ _ => none

end Command

/-- Why arguments are no command. -/
inductive UsageError where
  | helpWanted
  /-- There is no command at all. -/
  | noCommand
  | unknownCommand
  | unknownArgument
  | noDirectories
  /-- A value is missing, empty or none of those possible. -/
  | badValue
  /-- An option that takes no value has one. -/
  | excessValue
  /-- An option that may stand once stands twice. -/
  | repeated
deriving Repr, DecidableEq

/-- The exit code of the program: asking for help is no error. -/
def UsageError.exitCode : UsageError → Nat
  | helpWanted => 0
  | _ => 2

end RequestBinding
