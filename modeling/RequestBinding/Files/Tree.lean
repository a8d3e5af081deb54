import RequestBinding.Files.Path

/-!
# File trees

The state of a file system, as far as it matters: which directories, files and links there are, and
what the files hold. A location is a list of names from the innermost to the root, and a tree is a
list of locations with what is there, in the order in which directories are listed.

## Paths

A path leads from the current directory, or from the root, name by name to a location. Links on the
way are followed, at most `linkLimit` of them. A link that stands for a file to be written counts
with those on the way to it.
-/

namespace RequestBinding

/-- Why a file operation fails. -/
inductive FileError where
  | notFound
  | alreadyThere
  | notDirectory
  | isDirectory
  | tooManyLinks
  | notText
deriving Repr, DecidableEq

def FileError.message : FileError → String
  | notFound => "No such file or directory (os error 2)"
  | alreadyThere => "File exists (os error 17)"
  | notDirectory => "Not a directory (os error 20)"
  | isDirectory => "Is a directory (os error 21)"
  | tooManyLinks => "Too many levels of symbolic links (os error 40)"
  | notText => "stream did not contain valid UTF-8"

/-- The names that lead to a place, the innermost first. -/
abbrev Location := List String

/-- What is at a location. -/
inductive Node where
  /-- A file with its text; none if its bytes are no text. -/
  | file (text : Option String)
  | directory
  | link (target : String)
deriving Repr, DecidableEq

/-- The state of a file system. Two things that there can be are left out. Each file has one
location: there are no hard links, so what is written to one location changes no other. And names
are texts: there are no files whose names are not valid UTF-8. -/
structure FileTree where
  entries : List (Location × Node)
  /-- The current directory. -/
  current : Location
deriving Repr

namespace FileTree

/-! ## What is where -/

/-- What is at a location; the root is a directory. -/
def node? (tree : FileTree) (location : Location) : Option Node :=
  if location = [] then some .directory else tree.entries.lookup location

def isDirectoryAt (tree : FileTree) (location : Location) : Bool :=
  tree.node? location = some .directory

/-- The names in the directory at a location, in the order of the listing. -/
def namesAt (tree : FileTree) (location : Location) : List String :=
  tree.entries.filterMap fun entry =>
    match entry.1 with
    | name :: parent => if parent = location then some name else none
    | [] => none

/-- The tree with something else at a location. -/
def put (tree : FileTree) (location : Location) (node : Node) : FileTree :=
  { tree with
    entries :=
      if tree.entries.any (·.1 = location) then
        tree.entries.map fun entry => if entry.1 = location then (location, node) else entry
      else tree.entries ++ [(location, node)] }

/-- The tree without a location and all that is inside it. -/
def drop (tree : FileTree) (location : Location) : FileTree :=
  { tree with entries := tree.entries.filter fun entry => !location.isSuffixOf entry.1 }

/-! ## Following paths -/

/-- How many links are followed in one look-up of a path. -/
def linkLimit : Nat := 40

/-- Where a path or the target of a link starts. -/
def startOf (here : Location) (path : String) : Location :=
  if FilePath.isAbsolute path then [] else here

/-- Where names lead from a location, if at most `links` links are followed, and how many links are
left then. -/
def follow (tree : FileTree) (links : Nat) (here : Location) :
    List String → Except FileError (Location × Nat)
  | [] => .ok (here, links)
  | name :: names =>
    if !tree.isDirectoryAt here then .error .notDirectory
    else if name = "." then tree.follow links here names
    else if name = ".." then tree.follow links here.tail names
    else
      match tree.node? (name :: here) with
      | none => .error .notFound
      | some (.link target) =>
        match links with
        | 0 => .error .tooManyLinks
        | links + 1 => tree.follow links (startOf here target) (FilePath.names target ++ names)
      | some _ => tree.follow links (name :: here) names
termination_by names => (links, names.length)

/-- No links are gained on the way. -/
theorem le_of_follow {tree : FileTree} {links left : Nat} {here location : Location}
    {names : List String} (h : tree.follow links here names = .ok (location, left)) :
    left ≤ links := by
  fun_induction follow tree links here names with
  | case1 =>
    cases h
    exact Nat.le_refl _
  | case2 | case5 | case6 => cases h
  | case3 _ _ _ _ ih | case4 _ _ _ _ _ ih | case8 _ _ _ _ _ _ _ _ _ _ ih => exact ih h
  | case7 _ _ _ _ _ _ _ _ _ ih =>
    -- Following a link uses one up.
    exact Nat.le_succ_of_le (ih h)

/-- Where names lead from a location, if at most `links` links are followed. -/
def walk (tree : FileTree) (links : Nat) (here : Location) (names : List String) :
    Except FileError Location :=
  (tree.follow links here names).map Prod.fst

/-- Where a path leads. -/
def resolve (tree : FileTree) (path : String) : Except FileError Location :=
  if path.isEmpty then .error .notFound
  else tree.walk linkLimit (startOf tree.current path) (FilePath.names path)

/-- What a path leads to. -/
def nodeOf? (tree : FileTree) (path : String) : Option Node :=
  (tree.resolve path).toOption.bind tree.node?

def isDirectory (tree : FileTree) (path : String) : Bool := tree.nodeOf? path = some .directory

def isFile (tree : FileTree) (path : String) : Bool := (tree.nodeOf? path) matches some (.file _)

/-! ## Reading -/

/-- The names in a directory. -/
def list (tree : FileTree) (path : String) : Except FileError (List String) := do
  let location ← tree.resolve path
  if tree.isDirectoryAt location then .ok (tree.namesAt location) else .error .notDirectory

/-- The text of a file. -/
def read (tree : FileTree) (path : String) : Except FileError String := do
  match tree.node? (← tree.resolve path) with
  | some (.file (some text)) => .ok text
  | some (.file none) => .error .notText
  | some _ => .error .isDirectory
  | none => .error .notFound

/-! ## Making -/

/-- The names of a path without slash at its end, the last one apart. -/
def splitLast (path : String) : Option (List String × String) :=
  match (((Text.pieces '/' path.toList).filter (· ≠ [])).map String.ofList).reverse with
  | [] => none
  | last :: before => some (before.reverse, last)

/-- Makes a directory. Only its parent is looked for; nothing may be there yet. -/
def makeDirectory (tree : FileTree) (path : String) : Except FileError FileTree :=
  match splitLast path with
  | none => .error (if path.isEmpty then .notFound else .alreadyThere)
  | some (before, last) => do
    let parent ← tree.walk linkLimit (startOf tree.current path) before
    let taken := last = "." || last = ".." || (tree.node? (last :: parent)).isSome
    if !tree.isDirectoryAt parent then .error .notDirectory
    else if taken then .error .alreadyThere
    else .ok (tree.put (last :: parent) .directory)

/-- Makes the first of the paths, each the parent of the one before it, and what it lies in. -/
def makeAll (tree : FileTree) : List String → FileTree × Option FileError
  | [] => (tree, none)
  | path :: outer =>
    match tree.makeDirectory path with
    | .ok made => (made, none)
    | .error .notFound =>
      match tree.makeAll outer with
      | (below, some e) => (below, some e)
      | (below, none) =>
        match below.makeDirectory path with
        | .ok made => (made, none)
        | .error e => (below, if below.isDirectory path then none else some e)
    | .error e => (tree, if tree.isDirectory path then none else some e)

/-- Makes a directory and what it lies in, unless they are there. -/
def makeDirectories (tree : FileTree) (path : String) : FileTree × Option FileError :=
  tree.makeAll (FilePath.ancestors path)

/-- The location of a file to be written, which need not be there. Links that stand for it are
followed, and count together with those on the way. -/
def target (tree : FileTree) (links : Nat) (here : Location) (path : String) :
    Except FileError Location :=
  match splitLast path with
  | none => .error (if path.isEmpty then .notFound else .isDirectory)
  | some (before, last) =>
    match _ : tree.follow links (startOf here path) before with
    | .error e => .error e
    | .ok (parent, left) =>
      if !tree.isDirectoryAt parent then .error .notDirectory
      else if path.endsWith "/" || last = "." || last = ".." then .error .isDirectory
      else
        match tree.node? (last :: parent) with
        | some .directory => .error .isDirectory
        | some (.link next) =>
          match left with
          | 0 => .error .tooManyLinks
          | left + 1 => tree.target left parent next
        | _ => .ok (last :: parent)
termination_by links
decreasing_by exact le_of_follow ‹_›

/-- Writes a file, which may be there already; its directory must be. -/
def write (tree : FileTree) (path : String) (text : Option String) : Except FileError FileTree := do
  return tree.put (← tree.target linkLimit tree.current path) (.file text)

/-- Makes a link to a path. -/
def makeLink (tree : FileTree) (path target : String) : Except FileError FileTree :=
  match splitLast path with
  | none => .error .alreadyThere
  | some (before, last) => do
    let parent ← tree.walk linkLimit (startOf tree.current path) before
    if (tree.node? (last :: parent)).isSome then .error .alreadyThere
    else .ok (tree.put (last :: parent) (.link target))

/-- Removes a file, a link or a directory with all that is in it. -/
def remove (tree : FileTree) (path : String) : Except FileError FileTree :=
  match splitLast path with
  | none => .error .notFound
  | some (before, last) => do
    let parent ← tree.walk linkLimit (startOf tree.current path) before
    if (tree.node? (last :: parent)).isSome then .ok (tree.drop (last :: parent))
    else .error .notFound

/-! ## Comparing -/

/-- The path of a location below a directory. -/
def relative? (directory location : Location) : Option String :=
  if directory.isSuffixOf location && location.length ≠ directory.length then
    some ("/".intercalate (location.take (location.length - directory.length)).reverse)
  else none

/-- A path with a mark of its kind at its end: `/` for a directory, `@` for a link. -/
def marked (path : String) : Node → String
  | .file _ => path
  | .directory => path ++ "/"
  | .link _ => path ++ "@"

/-- What is below the current directory and was not so before: marked paths with their texts. -/
def changes (before after : FileTree) : List (String × String) :=
  after.entries.filterMap fun (location, node) =>
    if before.node? location = some node then none
    else (relative? after.current location).map fun path =>
      (marked path node, match node with | .file (some text) => text | _ => "")

end FileTree

end RequestBinding
