import RequestBinding.Text.Pieces

/-!
# Paths of files

A path is a text of names with slashes between them. Joining and taking parents work on the text and
change nothing in it: `m/` joined with `a` is `m/a`, `./m` stays `./m`.
-/

namespace RequestBinding.FilePath

/-- The names of a path; a slash at the end counts as the name `.`. -/
def names (path : String) : List String :=
  let all := ((Text.pieces '/' path.toList).filter (· ≠ [])).map String.ofList
  if path.endsWith "/" then all ++ ["."] else all

/-- The path starts at the root. -/
def isAbsolute (path : String) : Bool := path.startsWith "/"

/-- A path below another; an absolute path stands for itself. -/
def join (base path : String) : String :=
  if isAbsolute path || base.isEmpty then path
  else if base.endsWith "/" then base ++ path
  else base ++ "/" ++ path

/-! ## Parents -/

/-- A reversed path without the slashes at its end and without the dots between them. -/
def dropTrailing : List Char → List Char
  | '/' :: cs => dropTrailing cs
  | '.' :: '/' :: cs => dropTrailing cs
  | cs => cs

/-- The path without its last name; a path without names has no parent. -/
def parent? (path : String) : Option String :=
  match dropTrailing path.toList.reverse with
  | [] => none
  | cs =>
    let outer := dropTrailing (cs.dropWhile (· != '/'))
    some (if outer.isEmpty && isAbsolute path then "/" else String.ofList outer.reverse)

/-- At most so many paths, each the parent of the one before, as long as they have names. -/
def ancestorsUpTo : Nat → String → List String
  | 0, _ => []
  | n + 1, path =>
    match parent? path with
    | none => []
    | some outer => path :: ancestorsUpTo n outer

/-- The path and its ancestors, as far as they have names, the outermost last. -/
def ancestors (path : String) : List String := ancestorsUpTo (path.length + 1) path

/-! ## Names of files -/

/-- The part of a file name after its last dot, unless the dot is its first character. -/
def extension? (name : String) : Option String :=
  match Text.pieces '.' name.toList with
  | [] => none
  | [_] => none
  | [[], _] => none
  | _ :: more => more.getLast?.map String.ofList

end RequestBinding.FilePath
