import RequestBinding.BindingsModule
import RequestBinding.Directory

/-!
# Generation

Reading directories and writing bindings modules by a plan. A directory without records gives no
module. On a dry run the modules are only announced.
-/

namespace RequestBinding.Generation

/-- What is said if there are no records at all. -/
def nothingFound : String := "No structs with bind or validate tags found."

/-! ## Writing a module -/

/-- Makes the directory that a path lies in. -/
def makeParent (path : String) : Run Unit :=
  match FilePath.parent? path with
  | none => pure ()
  | some parent =>
    if parent.isEmpty then pure ()
    else do
      let (made, error) := (← Run.files).makeDirectories parent
      Run.setFiles made
      match error with
      | none => pure ()
      | some e => throw (.during .creating parent (.file e))

/-- Writes the bindings module of records. -/
def writeModule (path : String) (records : List Record) (target : String) : Run Unit := do
  makeParent path
  let written := (← Run.files).write path (some (BindingsModule.text target records))
  Run.setFiles (← Run.require .writing path written)
  Run.print ("✅ Generated code written to " ++ path)

/-- Writes the module, or announces it on a dry run. -/
def produce (dryRun : Bool) (path : String) (records : List Record) (target : String) : Run Unit :=
  if dryRun then
    let size := (BindingsModule.text target records).utf8ByteSize
    Run.print s!"🔍 Dry run: would write {path} ({size} bytes)"
  else do
    Run.tell (.writing path records.length target)
    writeModule path records target

/-! ## Reading directories -/

/-- Says what a directory holds. -/
def report (directory : String) : List Record → Run Unit
  | [] => do
    Run.print ("No structs in " ++ directory)
    Run.tell (.noRecords directory)
  | records => records.forM fun record => Run.print ("Parsed struct: " ++ record.name)

/-- Reads a directory and says what it holds. -/
def readReporting (settings : Settings) (directory : String) : Run SourceDirectory := do
  let read ← SourceDirectory.read settings directory
  report directory read.records
  return read

/-- Reads a directory and writes its module; the path of the module, if there is one. -/
def generateOne (settings : Settings) (dryRun : Bool) (directory : String)
    (place : SourceDirectory → String × String) : Run (Option String) := do
  let read ← readReporting settings directory
  if read.records.isEmpty then return none
  else
    let (path, target) := place read
    produce dryRun path read.records target
    return some path

/-! ## The plans -/

/-- The module beside the sources. -/
def placeBeside (settings : Settings) (directory : String) (read : SourceDirectory) :
    String × String :=
  (FilePath.join directory (read.groupName ++ settings.generatedEnding), read.groupName)

/-- The path of a module in a directory. -/
def modulePath (directory module : String) : String := FilePath.join directory (module ++ ".rs")

/-- Reads all directories and writes one module. -/
def generateSingle (settings : Settings) (dryRun : Bool) (directories : List String)
    (target module : String) : Run (List String) := do
  let read ← directories.mapM (readReporting settings)
  let records := read.flatMap (·.records)
  if records.isEmpty then
    Run.print nothingFound
    return []
  else
    let path := modulePath target module
    produce dryRun path records module
    return [path]

/-- Writes the modules of the directories by a plan; the paths of the modules. -/
def generate (settings : Settings) (dryRun : Bool) (plan : OutputPlan) (directories : List String) :
    Run (List String) := do
  match plan.error? directories.length with
  | some e => throw (.plan e)
  | none =>
    match plan with
    | .sameLocation =>
      let paths ← directories.mapM fun directory =>
        generateOne settings dryRun directory (placeBeside settings directory)
      return paths.filterMap id
    | .perGroup target modules =>
      let paths ← (directories.zip modules).mapM fun (directory, module) =>
        generateOne settings dryRun directory fun _ => (modulePath target module, module)
      return paths.filterMap id
    | .singleGroup target module => generateSingle settings dryRun directories target module

end RequestBinding.Generation
