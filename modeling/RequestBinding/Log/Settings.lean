import RequestBinding.Log.Level
import RequestBinding.Settings

/-!
# Log settings

What the environment says about log lines: their level, their format, which parts of the program
they come from and whether they tell where they were written.
-/

namespace RequestBinding

inductive LogFormat where
  | json
  | pretty
deriving Repr, DecidableEq

namespace LogFormat

/-- The word for a format. -/
def word : LogFormat → String
  | json => "json"
  | pretty => "pretty"

/-- The format that a word asks for; the pretty one unless the word is `json` in any case. -/
def ofWord (word : String) : LogFormat :=
  if Text.lowercased word = json.word then json else pretty

end LogFormat

structure LogSettings where
  /-- The level as it was given. -/
  levelName : String
  format : LogFormat
  /-- Further directives of the filter, separated by commas. -/
  directives? : Option String
  showsLocation : Bool
deriving Repr, DecidableEq

namespace LogSettings

def default : LogSettings := ⟨"warn", .pretty, none, false⟩

/-- The log settings of an environment. -/
def ofEnvironment (environment : Environment) : LogSettings where
  levelName := (environment.lookup "TAGWRANGLER_LOG_LEVEL").getD default.levelName
  format := ((environment.lookup "TAGWRANGLER_LOG_FORMAT").map LogFormat.ofWord).getD default.format
  directives? := environment.lookup "TAGWRANGLER_LOG_TARGET_FILTER"
  showsLocation := environment.lookup "TAGWRANGLER_LOG_INCLUDE_LOCATION" = some "true"

/-- The level; a name that is none means warnings. -/
def level (settings : LogSettings) : LogLevel :=
  let name := Text.lowercased settings.levelName
  (LogLevel.all.find? fun level => Text.lowercased level.word = name).getD .warn

end LogSettings

end RequestBinding
