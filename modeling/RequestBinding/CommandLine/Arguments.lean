import RequestBinding.CommandLine.Command
import RequestBinding.Settings
import RequestBinding.Text.Pieces

/-!
# Arguments

The arguments after the word of a command: options with a value, options without, and directories,
in any order. An option's value follows it as the next argument, or in the same argument after `=`;
after `--` all arguments are directories.

## When values are checked

A value, and a row of directories, is collected first and `settle`d when the next option, the next
row or the end comes. So an unknown option is reported before a faulty value that stands before it.
-/

namespace RequestBinding.CommandLine

/-! ## Options -/

/-- An option with a value. -/
inductive Key where
  | strategy
  | module
  | directory
  | modules
deriving Repr, DecidableEq

/-- What an option of a command means. -/
inductive Meaning where
  | help
  | switch
  | key (key : Key)
deriving Repr, DecidableEq

/-- The options of a command by their names. -/
abbrev Options := List (String × Meaning)

def generateOptions : Options := [
  ("strategy", .key .strategy),
  ("target-pkg", .key .module),
  ("target-dir", .key .directory),
  ("target-pkgs", .key .modules),
  ("dry-run", .switch),
  ("help", .help)]

def inspectOptions : Options := [("json", .switch), ("help", .help)]

/-! ## What was given -/

/-- The values that were given. -/
structure Given where
  strategy : Option Strategy
  module : Option String
  directory : Option String
  modules : Option (List String)
  switched : Bool
  directories : List String
deriving Repr, DecidableEq

namespace Given

def nothing : Given := ⟨none, none, none, none, false, []⟩

/-- A value for what may be given once. -/
def once (old : Option α) (value : Except UsageError α) : Except UsageError (Option α) :=
  if old.isSome then .error .repeated else value.map some

/-- A strategy by its word. -/
def strategyOf (value : String) : Except UsageError Strategy :=
  (Strategy.ofWord? value).elim (.error .badValue) .ok

/-- A path; it is not empty. -/
def pathOf (value : String) : Except UsageError String :=
  if value.isEmpty then .error .badValue else .ok value

/-- Names of modules with blanks between them. -/
def modulesOf (value : String) : List String := (Text.pieces ' ' value.toList).map String.ofList

/-- The value of an option. -/
def setKey (given : Given) (value : String) : Key → Except UsageError Given
  | .strategy => do return { given with strategy := ← once given.strategy (strategyOf value) }
  | .module => do return { given with module := ← once given.module (.ok value) }
  | .directory => do return { given with directory := ← once given.directory (pathOf value) }
  | .modules => .ok { given with modules := some (given.modules.getD [] ++ modulesOf value) }

/-- The option without value. -/
def switchOn (given : Given) : Except UsageError Given :=
  if given.switched then .error .repeated else .ok { given with switched := true }

/-- Further directories. -/
def addDirectories (given : Given) (directories : List String) : Except UsageError Given := do
  return { given with directories := given.directories ++ (← directories.mapM pathOf) }

end Given

/-! ## What is being collected -/

/-- What was met but not yet settled. -/
inductive Pending where
  | nothing
  | value (key : Key) (text : Option String)
  | directories (paths : List String)
deriving Repr, DecidableEq

/-- The values with what was collected. -/
def settle (given : Given) : Pending → Except UsageError Given
  | .nothing => .ok given
  | .value _ none => .error .badValue
  | .value key (some text) => given.setKey text key
  | .directories paths => given.addDirectories paths

/-- An argument that is no option: the value of the option before it, or a directory. -/
def takeWord (given : Given) (pending : Pending) (word : String) :
    Except UsageError (Given × Pending) :=
  match pending with
  | .value key none => .ok (given, .value key (some word))
  | .directories paths => .ok (given, .directories (paths ++ [word]))
  | pending => return (← settle given pending, .directories [word])

/-- The arguments after `--`: directories only. -/
def takeTrailing (given : Given) (pending : Pending) (words : List String) :
    Except UsageError Given :=
  match pending, words with
  | pending, [] => settle given pending
  | .directories paths, words => settle given (.directories (paths ++ words))
  | pending, words => do settle (← settle given pending) (.directories words)

/-- An option by its long name. -/
def takeLong (options : Options) (given : Given) (pending : Pending) (name : String)
    (value : Option String) : Except UsageError (Given × Pending) :=
  match options.lookup name, value with
  | none, _ => .error .unknownArgument
  | some (.key key), none => return (← settle given pending, .value key none)
  | some (.key key), some value => return (← (← settle given pending).setKey value key, .nothing)
  | some _, some _ => .error .excessValue
  | some .switch, none => return (← (← settle given pending).switchOn, .nothing)
  | some .help, none => do
    discard (settle given pending)
    .error .helpWanted

/-- An option by its short name: there is one, for help. -/
def takeShort (given : Given) (pending : Pending) (name : Char) :
    Except UsageError (Given × Pending) :=
  if name = 'h' then do
    discard (settle given pending)
    .error .helpWanted
  else .error .unknownArgument

/-! ## Reading arguments -/

/-- An argument by its shape. -/
inductive Shape where
  | separator
  | long (name : String) (value : Option String)
  | short (name : Char)
  | word
deriving Repr, DecidableEq

/-- The shape of an argument; a single dash is a word. -/
def Shape.of (argument : String) : Shape :=
  match argument.toList with
  | ['-', '-'] => separator
  | '-' :: '-' :: text =>
    let (name, rest) := text.span (· != '=')
    long (String.ofList name) (rest.tail?.map String.ofList)
  | '-' :: c :: _ => short c
  | _ => word

/-- Reads arguments on from what was given and is pending. -/
def readFrom (options : Options) (given : Given) (pending : Pending) :
    List String → Except UsageError Given
  | [] => settle given pending
  | argument :: more =>
    match Shape.of argument with
    | .separator => takeTrailing given pending more
    | .long name value => do
      let (given, pending) ← takeLong options given pending name value
      readFrom options given pending more
    | .short name => do
      let (given, pending) ← takeShort given pending name
      readFrom options given pending more
    | .word => do
      let (given, pending) ← takeWord given pending argument
      readFrom options given pending more

/-- The values with those that the environment has for what was not given. -/
def addEnvironment (environment : Environment) (given : Given) : Except UsageError Given := do
  let fallback {α : Type} (old : Option α) (name : String) (read : String → Except UsageError α) :
      Except UsageError (Option α) :=
    match old, environment.lookup name with
    | none, some value => (read value).map some
    | old, _ => .ok old
  let strategy ← fallback given.strategy "TAGWRANGLER_STRATEGY" Given.strategyOf
  let module ← fallback given.module "TAGWRANGLER_TARGET_PKG" .ok
  let directory ← fallback given.directory "TAGWRANGLER_TARGET_DIR" Given.pathOf
  return { given with strategy, module, directory }

/-- The values, if there is at least one directory among them. -/
def requireDirectories (given : Given) : Except UsageError Given :=
  if given.directories.isEmpty then .error .noDirectories else .ok given

/-! ## Commands -/

/-- The words of the commands. -/
def commandWords : List String := ["generate", "inspect", "help"]

/-- What help is asked for: that of the program or that of a command. -/
def helpError : List String → UsageError
  | [] => .helpWanted
  | [word] => if commandWords.contains word then .helpWanted else .unknownCommand
  | _ => .unknownCommand

/-- Why arguments do not start with the word of a command. -/
def noCommandError (argument : String) (more : List String) : UsageError :=
  match Shape.of argument with
  | .separator =>
    match more with
    | [] => .noCommand
    | word :: _ => if commandWords.contains word then .unknownArgument else .unknownCommand
  | .long "help" none => .helpWanted
  | .long "help" (some _) => .excessValue
  | .long _ _ => .unknownArgument
  | .short name => if name = 'h' then .helpWanted else .unknownArgument
  | .word => .unknownCommand

/-- The command that arguments ask for. -/
def readCommand (environment : Environment) : List String → Except UsageError Command
  | [] => .error .noCommand
  | "generate" :: arguments => do
    let given ← readFrom generateOptions .nothing .nothing arguments
    let given ← requireDirectories (← addEnvironment environment given)
    return .generate (given.strategy.getD .same) given.module given.directory given.modules
      given.switched given.directories
  | "inspect" :: arguments => do
    let given ← requireDirectories (← readFrom inspectOptions .nothing .nothing arguments)
    return .inspect given.switched given.directories
  | "help" :: words => .error (helpError words)
  | argument :: more => .error (noCommandError argument more)

end RequestBinding.CommandLine
