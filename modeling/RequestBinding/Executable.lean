import RequestBinding.CommandLine.Arguments
import RequestBinding.Listing
import RequestBinding.Log.Filter
import RequestBinding.Log.Line

/-!
# The program

Doing what a command asks for, and a whole run of the program: the files after it, its output, its
messages and its exit code. Messages are first what is wrong with the log filter, then the log, then
the failure, if the run failed.
-/

namespace RequestBinding

/-! ## Commands -/

/-- Does what a command asks for. -/
def Command.run (settings : Settings) : Command → Run Unit
  | generate strategy module directory modules dryRun directories =>
    match OutputPlan.make strategy module directory modules with
    | .error e => throw (.plan e)
    | .ok plan => discard (Generation.generate settings dryRun plan directories)
  | inspect asJson directories => Listing.list settings asJson directories

/-! ## Whole runs -/

/-- How a run of the program ends. -/
structure Outcome where
  exitCode : Nat
  /-- The printed text. -/
  output : String
  /-- The lines of messages. -/
  messages : List LogLine
  files : FileTree

namespace Executable

/-- The log lines of events. -/
def logLines (settings : LogSettings) (filter : LogFilter) (events : List Event) : List LogLine :=
  (events.filter filter.admits).flatMap (LogLine.ofEvent settings)

/-- The lines about directives of the log filter that cannot be read. -/
def warnings (faulty : List String) : List LogLine :=
  faulty.flatMap fun directive =>
    LogLine.plainLines ("Warning: Invalid log filter directive: " ++ directive)

/-- The lines about the failure of a run. -/
def failureLines : Except Failure Unit → List LogLine
  | .ok _ => []
  | .error failure => failure.report.flatMap LogLine.plainLines

/-- A run of the program with arguments in an environment. -/
def run (environment : Environment) (arguments : List String) (files : FileTree) : Outcome :=
  let logSettings := LogSettings.ofEnvironment environment
  let (filter, faulty) := LogFilter.ofEnvironment environment
  match CommandLine.readCommand environment arguments with
  | .error e => ⟨e.exitCode, "", warnings faulty, files⟩
  | .ok command =>
    let (result, state) :=
      (command.run (Settings.ofEnvironment environment)).run.run (RunState.of files)
    { exitCode := if result.isOk then 0 else 1
      output := state.output
      messages :=
        warnings faulty ++ logLines logSettings filter state.events ++ failureLines result
      files := state.files }

end Executable

end RequestBinding
