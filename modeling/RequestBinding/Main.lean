import RequestBinding.Executable

/-!
# The command line

The outer layer: it looks at the environment and at the files that the arguments name, lets the
program run on what it saw, and puts into effect what the run did.
-/

namespace RequestBinding.Main

/-! ## Looking -/

/-- The variables of the environment that the program looks at. -/
def variableNames : List String := [
  "RUST_LOG",
  "TAGWRANGLER_TAG_ATTR",
  "TAGWRANGLER_BINDINGS_SUFFIX",
  "TAGWRANGLER_LOG_LEVEL",
  "TAGWRANGLER_LOG_FORMAT",
  "TAGWRANGLER_LOG_TARGET_FILTER",
  "TAGWRANGLER_LOG_INCLUDE_LOCATION",
  "TAGWRANGLER_STRATEGY",
  "TAGWRANGLER_TARGET_PKG",
  "TAGWRANGLER_TARGET_DIR"]

/-- The environment, as far as the program looks at it. -/
def readEnvironment : IO Environment :=
  variableNames.filterMapM fun name => do return (← IO.getEnv name).map (name, ·)

/-- The location of a path from the root. -/
def locationOf (path : String) : Location :=
  ((FilePath.names path).filter (· ≠ ".")).reverse

/-- The path of a location. -/
def pathOf (location : Location) : String := "/" ++ "/".intercalate location.reverse

/-- The result of an action; none if it fails. -/
def succeeds? (action : IO α) : IO (Option α) := do
  try return some (← action) catch _ => return none

/-- Where a location is when all links are followed, if there is something. -/
def realLocation? (location : Location) : IO (Option Location) := do
  match ← succeeds? do (← IO.FS.realPath (pathOf location)).metadata with
  | none => return none
  | some _ => return some (locationOf (← IO.FS.realPath (pathOf location)).toString)

/-- The text of a file that may be a source. -/
def readText (location : Location) : IO (Option String) := do
  if (location.head?.bind FilePath.extension?) = some "rs" then
    return ((← succeeds? (IO.FS.readBinFile (pathOf location))).bind String.fromUTF8?)
  else return some ""

/-- What is at a location that is reached without links. -/
def nodeAt (location : Location) : IO Node := do
  let metadata ← (← IO.FS.realPath (pathOf location)).metadata
  if metadata.type == .dir then return .directory else return .file (← readText location)

/-- The tree with a directory and those around it. -/
def noteDirectories (tree : FileTree) : Location → FileTree
  | [] => tree
  | name :: outer => (noteDirectories tree outer).put (name :: outer) .directory

/-- The tree with what is at a location that is reached without links, and around it. -/
def noteReal (tree : FileTree) (location : Location) : IO FileTree := do
  let tree := noteDirectories tree location.tail
  if location.isEmpty then return tree else return tree.put location (← nodeAt location)

/-- The tree with what is on the way along names. -/
def noteNames (tree : FileTree) (here : Location) : List String → IO FileTree
  | [] => return tree
  | name :: more => do
    if name = "." then noteNames tree here more
    else if name = ".." then noteNames tree here.tail more
    else
      match ← realLocation? (name :: here) with
      | none => return tree
      | some location =>
        let tree ← noteReal tree location
        let isLink := location ≠ name :: here
        let tree := if isLink then tree.put (name :: here) (.link (pathOf location)) else tree
        noteNames tree location more

/-- The tree with what is on the way along a path. -/
def notePath (tree : FileTree) (path : String) : IO FileTree :=
  noteNames tree (FileTree.startOf tree.current path) (FilePath.names path)

/-- The tree with what is in a directory, too. -/
def noteContents (tree : FileTree) (path : String) : IO FileTree := do
  let tree ← notePath tree path
  match tree.resolve path with
  | .error _ => return tree
  | .ok location =>
    if !tree.isDirectoryAt location then return tree
    else
      let entries ← (← IO.FS.realPath (pathOf location)).readDir
      entries.foldlM (fun tree entry => noteNames tree location [entry.fileName]) tree

/-- The files that a command is about. -/
def readFiles (command : Command) : IO FileTree := do
  let current := locationOf (← IO.FS.realPath ".").toString
  let tree ← noteReal ⟨[], current⟩ current
  let tree ← command.sources.foldlM noteContents tree
  command.target?.toList.foldlM notePath tree

/-! ## Acting -/

/-- Puts a change of a location into effect. -/
def enact (location : Location) : Node → IO Unit
  | .directory => IO.FS.createDir (pathOf location)
  | .file (some text) => IO.FS.writeFile (pathOf location) text
  | _ => pure ()

/-- Puts the changes between two trees into effect. -/
def enactChanges (before after : FileTree) : IO Unit :=
  after.entries.forM fun (location, node) =>
    if before.node? location = some node then pure () else enact location node

/-- Runs the program. -/
def run (arguments : List String) : IO UInt32 := do
  let environment ← readEnvironment
  let files ←
    match CommandLine.readCommand environment arguments with
    | .ok command => readFiles command
    | .error _ => pure ⟨[], []⟩
  let outcome := Executable.run environment arguments files
  enactChanges files outcome.files
  IO.print outcome.output
  outcome.messages.forM fun line => IO.eprintln line.text
  return outcome.exitCode.toUInt32

end RequestBinding.Main

def main (arguments : List String) : IO UInt32 := RequestBinding.Main.run arguments
