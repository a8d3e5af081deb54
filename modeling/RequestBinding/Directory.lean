import RequestBinding.Extraction
import RequestBinding.Run
import RequestBinding.Settings
import RequestBinding.Text.SnakeCase

/-!
# Source directories

The sources of a directory are its files with the extension `rs`, without those that were generated;
directories inside it are not entered. They are read in the order of their names. The name of the
directory gives the name of the module for its records.
-/

namespace RequestBinding

/-- What a directory holds. -/
structure SourceDirectory where
  /-- The name of the module for its records. -/
  groupName : String
  records : List Record
deriving Repr, DecidableEq

namespace SourceDirectory

/-! ## The name of the group -/

/-- The name in snake case, with underscores for what is no ASCII letter or digit. -/
def groupNameOf (name : String) : String :=
  String.ofList <|
    (Text.toSnakeCase name).toList.map fun c => if Text.isAsciiAlphanumeric c then c else '_'

/-- A module can have the name: it is not empty and does not start with a digit. -/
def isGroupName (name : String) : Bool :=
  match name.toList with
  | [] => false
  | c :: _ => !Text.isAsciiDigit c

/-- The name of the group of a directory. -/
def readGroupName (directory : String) : Run String := do
  match ← Run.require .resolving directory ((← Run.files).resolve directory) with
  | [] => throw (.noGroupName directory)
  | name :: _ =>
    let groupName := groupNameOf name
    if isGroupName groupName then return groupName else throw (.badGroupName name)

/-! ## The sources -/

/-- The name is that of a generated file. A name that is no text ends in nothing and would be that of
a source, but trees have none. -/
def isGenerated (ending name : String) : Bool := !ending.isEmpty && name.endsWith ending

/-- The names of a directory's files with the extension of sources, in the order of the listing. -/
def candidates (files : FileTree) (directory : String) (names : List String) : List String :=
  names.filter fun name =>
    files.isFile (FilePath.join directory name) && FilePath.extension? name = some "rs"

/-- The paths of the sources of a directory, in the order of their names. -/
def sources (settings : Settings) (directory : String) : Run (List String) := do
  let files ← Run.files
  let names ← Run.require .listing directory (files.list directory)
  let (generated, kept) :=
    (candidates files directory names).partition (isGenerated settings.generatedEnding)
  Run.tellAll (generated.map fun name => .skippedGenerated (FilePath.join directory name))
  return (kept.mergeSort (· ≤ ·)).map (FilePath.join directory)

/-- The records of a source. -/
def readSource (settings : Settings) (path : String) : Run (List Record) := do
  let text ← Run.require .reading path ((← Run.files).read path)
  let (result, events) := Extraction.records settings.tagAttribute text
  Run.tellAll events
  match result with
  | .error e => throw (.during .parsing path (.source e))
  | .ok records =>
    Run.tell (.parsedFile path records.length)
    return records

/-- The group name and the records of a directory. -/
def read (settings : Settings) (directory : String) : Run SourceDirectory := do
  let groupName ← readGroupName directory
  let paths ← sources settings directory
  let records ← paths.mapM (readSource settings)
  Run.tell (.parsedDirectory directory paths.length records.flatten.length)
  return ⟨groupName, records.flatten⟩

end SourceDirectory

end RequestBinding
