import Mathlib.Data.List.Nodup
import RequestBinding.Proofs.PathNames

/-!
# What can happen to a file tree

Making directories and writing files only adds to a tree: directories are made where nothing was,
files are written where no directory is, and nothing is removed. So whatever a path leads to stays
there. This is said on plain trees, the states of a file system without links.

## Main statements

* `node?_put` — the one equation of changes to a tree.
* `walk_eq_descend` — without links a walk follows the names one by one.
* `Growth` — what a run may do to a tree, said on each location, with `Growth.trans` and
  `Growth.resolve`.
* `makeDirectories_growth`, `write_eq_ok` — what making directories and writing a file do.
* `makeDirectories_again`, `write_again` — done once more they do nothing.
-/

namespace RequestBinding

def Node.isLink : Node → Bool
  | .link _ => true
  | _ => false

namespace FileTree

/-! ## Plain trees -/

/-- The state of a file system without links. -/
structure Plain (tree : FileTree) : Prop where
  /-- Each location is listed once. -/
  unique : (tree.entries.map (·.1)).Nodup
  /-- Whatever is listed has the name of a file. -/
  isName : ∀ entry ∈ tree.entries, ∀ name ∈ entry.1.head?, FilePath.IsName name
  noLinks : ∀ entry ∈ tree.entries, entry.2.isLink = false

instance (tree : FileTree) : Decidable tree.Plain :=
  decidable_of_iff
    ((tree.entries.map (·.1)).Nodup ∧
      (∀ entry ∈ tree.entries, ∀ name ∈ entry.1.head?, FilePath.IsName name) ∧
      ∀ entry ∈ tree.entries, entry.2.isLink = false)
    ⟨fun ⟨h₁, h₂, h₃⟩ => ⟨h₁, h₂, h₃⟩, fun h => ⟨h.unique, h.isName, h.noLinks⟩⟩

/-! ## Entries -/

theorem node?_of_ne_nil (tree : FileTree) {location : Location} (h : location ≠ []) :
    tree.node? location = tree.entries.lookup location := if_neg h

theorem node?_cons (tree : FileTree) (name : String) (outer : Location) :
    tree.node? (name :: outer) = tree.entries.lookup (name :: outer) :=
  tree.node?_of_ne_nil (List.cons_ne_nil _ _)

@[simp] theorem node?_root (tree : FileTree) : tree.node? [] = some .directory := rfl

/-- What is at a location is listed there. -/
theorem mem_of_lookup {entries : List (Location × Node)} {location : Location} {node : Node}
    (h : entries.lookup location = some node) : (location, node) ∈ entries := by
  obtain ⟨before, after, rfl, -⟩ := List.lookup_eq_some_iff.mp h
  simp

theorem Plain.mem_of_node? {tree : FileTree} {location : Location} {node : Node}
    (hne : location ≠ []) (h : tree.node? location = some node) :
    (location, node) ∈ tree.entries :=
  mem_of_lookup (tree.node?_of_ne_nil hne ▸ h)

theorem Plain.isLink_of_node? {tree : FileTree} (h : tree.Plain) {location : Location} {node : Node}
    (hnode : tree.node? location = some node) : node.isLink = false := by
  by_cases hne : location = []
  · subst hne
    obtain rfl := Option.some.inj hnode
    rfl
  · exact h.noLinks _ (mem_of_node? hne hnode)

theorem lookup_map_of_ne {entries : List (Location × Node)} {location other : Location}
    (hne : other ≠ location) (node : Node) :
    (entries.map fun entry => if entry.1 = location then (location, node) else entry).lookup other =
      entries.lookup other := by
  induction entries with
  | nil => rfl
  | cons entry more ih =>
    obtain ⟨key, value⟩ := entry
    have hbeq : (other == location) = false := by simpa using hne
    by_cases he : key = location
    · subst he
      rw [List.map_cons, if_pos rfl, List.lookup_cons, List.lookup_cons, hbeq, ih]
    · simp only [List.map_cons, if_neg he, List.lookup_cons, ih]

theorem lookup_map_self {entries : List (Location × Node)} {location : Location}
    (h : entries.any (·.1 = location)) (node : Node) :
    (entries.map fun entry => if entry.1 = location then (location, node) else entry).lookup
      location = some node := by
  induction entries with
  | nil => cases h
  | cons entry more ih =>
    by_cases he : entry.1 = location
    · simp [he]
    · have hbeq : (location == entry.1) = false := by simpa using fun h => he h.symm
      obtain ⟨key, value⟩ := entry
      simp only [List.map_cons, if_neg he, List.lookup_cons, hbeq]
      exact ih (by simpa [he] using h)

theorem lookup_eq_none_of_not_any {entries : List (Location × Node)} {location : Location}
    (h : entries.any (·.1 = location) = false) : entries.lookup location = none := by
  rw [List.lookup_eq_none_iff]
  intro entry hentry
  have := List.any_eq_false.mp h entry hentry
  simpa using fun he => this (by simp [he])

/-- A change concerns its location only. -/
theorem node?_put (tree : FileTree) {location : Location} (hne : location ≠ []) (node : Node)
    (other : Location) :
    (tree.put location node).node? other =
      if other = location then some node else tree.node? other := by
  by_cases hroot : other = []
  · subst hroot
    rw [if_neg (Ne.symm hne), node?_root, node?_root]
  · rw [node?_of_ne_nil _ hroot, node?_of_ne_nil _ hroot, put]
    by_cases hany : tree.entries.any (·.1 = location)
    · rw [if_pos hany]
      split
      · next he => rw [he, lookup_map_self hany]
      · next he => exact lookup_map_of_ne he node
    · rw [if_neg hany, List.lookup_append]
      split
      · next he =>
        rw [he, lookup_eq_none_of_not_any (Bool.eq_false_iff.mpr hany)]
        simp
      · next he =>
        have hbeq : (other == location) = false := by simpa using he
        simp [List.lookup_cons, hbeq]

theorem keys_put (tree : FileTree) (location : Location) (node : Node) :
    (tree.put location node).entries.map (·.1) =
      if tree.entries.any (·.1 = location) then tree.entries.map (·.1)
      else tree.entries.map (·.1) ++ [location] := by
  rw [put]
  split
  · rw [List.map_map]
    refine List.map_congr_left fun entry _ => ?_
    show (if entry.1 = location then (location, node) else entry).1 = entry.1
    split
    · next he => exact he.symm
    · rfl
  · simp

theorem mem_put {tree : FileTree} {location : Location} {node : Node} {entry : Location × Node}
    (h : entry ∈ (tree.put location node).entries) :
    entry = (location, node) ∨ entry ∈ tree.entries := by
  rw [put] at h
  simp only at h
  split at h
  · obtain ⟨old, hold, rfl⟩ := List.mem_map.mp h
    split
    · exact .inl rfl
    · exact .inr hold
  · rcases List.mem_append.mp h with h | h
    · exact .inr h
    · exact .inl (List.mem_singleton.mp h)

theorem Plain.put {tree : FileTree} (h : tree.Plain) {name : String} (hname : FilePath.IsName name)
    (outer : Location) {node : Node} (hnode : node.isLink = false) :
    (tree.put (name :: outer) node).Plain where
  unique := by
    rw [keys_put]
    split
    · exact h.unique
    · next hany =>
      refine List.nodup_append.mpr ⟨h.unique, by simp, ?_⟩
      rintro key hkey _ hlast rfl
      obtain ⟨entry, hentry, rfl⟩ := List.mem_map.mp hkey
      exact hany (List.any_eq_true.mpr ⟨entry, hentry, by simpa using hlast⟩)
  isName := by
    intro entry hentry name' hname'
    rcases mem_put hentry with rfl | hentry
    · obtain rfl : name = name' := by simpa using hname'
      exact hname
    · exact h.isName entry hentry name' hname'
  noLinks := by
    intro entry hentry
    rcases mem_put hentry with rfl | hentry
    · exact hnode
    · exact h.noLinks entry hentry

/-- Putting what is there changes nothing. -/
theorem Plain.put_self {tree : FileTree} (h : tree.Plain) {location : Location} {node : Node}
    (hne : location ≠ []) (hnode : tree.node? location = some node) :
    tree.put location node = tree := by
  have hmem : (location, node) ∈ tree.entries := mem_of_node? hne hnode
  have hany : tree.entries.any (·.1 = location) = true :=
    List.any_eq_true.mpr ⟨_, hmem, by simp⟩
  have hentries : (tree.entries.map fun entry =>
      if entry.1 = location then (location, node) else entry) = tree.entries := by
    refine (List.map_congr_left fun entry hentry => ?_).trans (List.map_id _)
    split
    · next he => exact List.inj_on_of_nodup_map h.unique hmem hentry he.symm
    · rfl
  rw [FileTree.put, if_pos hany, hentries]

theorem mem_namesAt {tree : FileTree} {location : Location} {name : String} :
    name ∈ tree.namesAt location ↔ (tree.node? (name :: location)).isSome := by
  rw [node?_cons, List.lookup_isSome_iff, namesAt, List.mem_filterMap]
  constructor
  · rintro ⟨⟨key, node⟩, hentry, h⟩
    refine ⟨_, hentry, ?_⟩
    cases key with
    | nil => cases h
    | cons last outer =>
      simp only at h
      split at h
      · next he => simp [he, Option.some.inj h]
      · cases h
  · rintro ⟨entry, hentry, he⟩
    refine ⟨entry, hentry, ?_⟩
    rw [← eq_of_beq he]
    simp

theorem nodup_namesAt_of_unique {tree : FileTree} (h : (tree.entries.map (·.1)).Nodup)
    (location : Location) : (tree.namesAt location).Nodup := by
  have hkeys : tree.namesAt location = (tree.entries.map (·.1)).filterMap fun key =>
      if key.tail = location then key.head? else none := by
    rw [List.filterMap_map, namesAt]
    refine List.filterMap_congr fun entry _ => ?_
    obtain ⟨key, node⟩ := entry
    cases key with
    | nil => exact (ite_self _).symm
    | cons name parent => rfl
  have hcons {key : Location} {name : String}
      (hkey : (if key.tail = location then key.head? else none) = some name) :
      key = name :: location := by
    obtain ⟨htail, hhead⟩ := Option.ite_none_right_eq_some.mp hkey
    obtain ⟨parent, rfl⟩ := List.head?_eq_some_iff.mp hhead
    exact congrArg (name :: ·) htail
  rw [hkeys]
  refine List.Nodup.filterMap (fun key key' name hkey hkey' => ?_) h
  rw [hcons hkey, hcons hkey']

theorem Plain.nodup_namesAt {tree : FileTree} (h : tree.Plain) (location : Location) :
    (tree.namesAt location).Nodup := nodup_namesAt_of_unique h.unique location

/-- The names in a directory are names of files. -/
theorem Plain.isName_of_node? {tree : FileTree} (h : tree.Plain) {location : Location}
    {name : String} {node : Node} (hnode : tree.node? (name :: location) = some node) :
    FilePath.IsName name :=
  h.isName _ (mem_of_node? (List.cons_ne_nil _ _) hnode) name (by simp)

/-! ## Walks without links -/

/-- Where names lead from a location if there are no links. -/
def descend (tree : FileTree) (here : Location) : List String → Except FileError Location
  | [] => .ok here
  | name :: names =>
    if !tree.isDirectoryAt here then .error .notDirectory
    else if name = "." then tree.descend here names
    else if name = ".." then tree.descend here.tail names
    else
      match tree.node? (name :: here) with
      | none => .error .notFound
      | some _ => tree.descend (name :: here) names

theorem Plain.follow_eq {tree : FileTree} (h : tree.Plain) (links : Nat) (here : Location)
    (names : List String) :
    tree.follow links here names = (tree.descend here names).map (·, links) := by
  induction names generalizing here with
  | nil =>
    rw [follow, descend]
    rfl
  | cons name names ih =>
    rw [follow, descend]
    simp only [ih]
    split
    · rfl
    split
    · rfl
    split
    · rfl
    cases hnode : tree.node? (name :: here) with
    | none => rfl
    | some node =>
      cases node with
      | link target => cases h.isLink_of_node? hnode
      | file text => rfl
      | directory => rfl

theorem Plain.follow_eq_ok {tree : FileTree} (h : tree.Plain) {links left : Nat}
    {here location : Location} {names : List String} :
    tree.follow links here names = .ok (location, left) ↔
      tree.descend here names = .ok location ∧ left = links := by
  rw [h.follow_eq]
  cases tree.descend here names with
  | error e => simp [Except.map]
  | ok mid => simp [Except.map, eq_comm]

theorem Plain.walk_eq_descend {tree : FileTree} (h : tree.Plain) (links : Nat) (here : Location)
    (names : List String) : tree.walk links here names = tree.descend here names := by
  rw [walk, h.follow_eq]
  cases tree.descend here names <;> rfl

theorem descend_append (tree : FileTree) (here : Location) (names more : List String) :
    tree.descend here (names ++ more) = (tree.descend here names).bind (tree.descend · more) := by
  induction names generalizing here with
  | nil => rfl
  | cons name names ih =>
    rw [List.cons_append, descend, descend]
    simp only [ih]
    split
    · rfl
    split
    · rfl
    split
    · rfl
    split <;> rfl

theorem descend_append_eq_ok {tree : FileTree} {here location : Location}
    {names more : List String} :
    tree.descend here (names ++ more) = .ok location ↔
      ∃ mid, tree.descend here names = .ok mid ∧ tree.descend mid more = .ok location := by
  rw [descend_append]
  cases tree.descend here names with
  | error e => simp [Except.bind]
  | ok mid => simp [Except.bind]

/-- What one name leads to from a directory. -/
inductive Enters (tree : FileTree) (here : Location) : String → Location → Prop
  | stay : Enters tree here "." here
  | leave : Enters tree here ".." here.tail
  | enter {name : String} : name ≠ "." → name ≠ ".." → (tree.node? (name :: here)).isSome →
    Enters tree here name (name :: here)

theorem Enters.eq_cons {tree : FileTree} {here next : Location} {name : String}
    (h : Enters tree here name next) (hname : FilePath.IsName name) :
    next = name :: here ∧ (tree.node? (name :: here)).isSome := by
  cases h with
  | stay => exact absurd rfl hname.2.2.1
  | leave => exact absurd rfl hname.2.2.2
  | enter _ _ hsome => exact ⟨rfl, hsome⟩

theorem Enters.of_isName {tree : FileTree} {here : Location} {name : String}
    (hname : FilePath.IsName name) (hsome : (tree.node? (name :: here)).isSome) :
    Enters tree here name (name :: here) := .enter hname.2.2.1 hname.2.2.2 hsome

theorem Enters.eq_of_dot {tree : FileTree} {here next : Location} (h : Enters tree here "." next) :
    next = here := by
  generalize hname : "." = name at h
  cases h with
  | stay => rfl
  | leave => simp at hname
  | enter hdot => exact absurd hname.symm hdot

theorem descend_cons_eq_ok {tree : FileTree} {here location : Location} {name : String}
    {names : List String} :
    tree.descend here (name :: names) = .ok location ↔
      tree.isDirectoryAt here = true ∧
        ∃ next, Enters tree here name next ∧ tree.descend next names = .ok location := by
  rw [descend]
  constructor
  · intro h
    split at h
    · cases h
    next hdir =>
    refine ⟨by simpa using hdir, ?_⟩
    split at h
    · next he => exact ⟨here, he ▸ .stay, h⟩
    split at h
    · next he => exact ⟨here.tail, he ▸ .leave, h⟩
    next hdot hdots =>
    split at h
    · cases h
    · next hnode => exact ⟨_, .enter hdot hdots (by simp [hnode]), h⟩
  · rintro ⟨hdir, next, henters, h⟩
    rw [hdir]
    cases henters with
    | stay => simpa using h
    | leave => simpa using h
    | enter hdot hdots hsome =>
      obtain ⟨node, hnode⟩ := Option.isSome_iff_exists.mp hsome
      simpa [hdot, hdots, hnode] using h

theorem descend_singleton_eq_ok {tree : FileTree} {here location : Location} {name : String} :
    tree.descend here [name] = .ok location ↔
      tree.isDirectoryAt here = true ∧ Enters tree here name location := by
  rw [descend_cons_eq_ok]
  simp [descend]

theorem Plain.resolve_eq {tree : FileTree} (h : tree.Plain) (path : String) :
    tree.resolve path =
      if path.isEmpty then .error .notFound
      else tree.descend (startOf tree.current path) (FilePath.names path) := by
  rw [resolve]
  split
  · rfl
  · exact h.walk_eq_descend _ _ _

/-- A path that is not empty leads where its names lead. -/
theorem Plain.resolve_of_descend {tree : FileTree} (h : tree.Plain) {path : String} {l : Location}
    (hne : path.isEmpty = false)
    (hl : tree.descend (startOf tree.current path) (FilePath.names path) = .ok l) :
    tree.resolve path = .ok l := by
  rw [h.resolve_eq, hne, if_neg Bool.false_ne_true]
  exact hl

theorem isDirectoryAt_iff {tree : FileTree} {location : Location} :
    tree.isDirectoryAt location = true ↔ tree.node? location = some .directory := by
  simp [isDirectoryAt]

theorem isDirectory_iff {tree : FileTree} {path : String} :
    tree.isDirectory path = true ↔
      ∃ location, tree.resolve path = .ok location ∧ tree.isDirectoryAt location = true := by
  rw [isDirectory, decide_eq_true_eq, nodeOf?]
  simp only [isDirectoryAt_iff]
  cases tree.resolve path with
  | error e => simp [Except.toOption]
  | ok location => simp [Except.toOption]

/-- One of the paths leads to the location. -/
def Reaches (tree : FileTree) (paths : List String) (location : Location) : Prop :=
  ∃ path ∈ paths, tree.resolve path = .ok location

theorem Reaches.subset {tree : FileTree} {paths more : List String} {location : Location}
    (h : tree.Reaches paths location) (hsub : paths ⊆ more) : tree.Reaches more location := by
  obtain ⟨path, hpath, hl⟩ := h
  exact ⟨path, hsub hpath, hl⟩

theorem ne_empty_of_resolve {tree : FileTree} {path : String} {location : Location}
    (h : tree.resolve path = .ok location) : path.isEmpty = false := by
  rw [resolve] at h
  split at h
  · cases h
  · next hne => simpa using hne

/-- A path leads where its components lead, if that is a directory or no slash is at its end. -/
theorem Plain.resolve_of_components {tree : FileTree} (h : tree.Plain) {path : String}
    (hne : path.isEmpty = false) {l : Location}
    (hl : tree.descend (startOf tree.current path) (FilePath.components path) = .ok l)
    (hdir : path.endsWith "/" = true → tree.isDirectoryAt l = true) :
    tree.resolve path = .ok l := by
  refine h.resolve_of_descend hne ?_
  rw [FilePath.names_eq]
  refine descend_append_eq_ok.mpr ⟨l, hl, ?_⟩
  split
  · next hend => exact descend_singleton_eq_ok.mpr ⟨hdir hend, .stay⟩
  · rfl

/-- What a path leads to is where its components lead. -/
theorem Plain.descend_components {tree : FileTree} (h : tree.Plain) {path : String} {l : Location}
    (hl : tree.resolve path = .ok l) :
    tree.descend (startOf tree.current path) (FilePath.components path) = .ok l := by
  have hne := ne_empty_of_resolve hl
  rw [h.resolve_eq, hne, if_neg Bool.false_ne_true, FilePath.names_eq] at hl
  obtain ⟨mid, hmid, hl⟩ := descend_append_eq_ok.mp hl
  split at hl
  · obtain ⟨-, henters⟩ := descend_singleton_eq_ok.mp hl
    exact henters.eq_of_dot ▸ hmid
  · cases hl
    exact hmid

theorem startOf_join {name : String} (hslash : '/' ∉ name.toList) (here : Location)
    (path : String) : startOf here (FilePath.join path name) = startOf here path := by
  rw [startOf, startOf, FilePath.isAbsolute_join hslash]

/-- A name that is joined to a path leads into the directory of its components. -/
theorem Plain.resolve_join {tree : FileTree} (h : tree.Plain) {name : String}
    (hname : FilePath.IsName name) (path : String) {l : Location} :
    tree.resolve (FilePath.join path name) = .ok l ↔
      ∃ outer, tree.descend (startOf tree.current path) (FilePath.components path) = .ok outer ∧
        tree.isDirectoryAt outer = true ∧ (tree.node? (name :: outer)).isSome ∧
        l = name :: outer := by
  have hstart := startOf_join hname.2.1 tree.current path
  have hcomponents := FilePath.components_join hname.1 hname.2.1 path
  constructor
  · intro hl
    have hl := h.descend_components hl
    rw [hstart, hcomponents] at hl
    obtain ⟨outer, houter, hl⟩ := descend_append_eq_ok.mp hl
    obtain ⟨hdir, henters⟩ := descend_singleton_eq_ok.mp hl
    obtain ⟨rfl, hsome⟩ := henters.eq_cons hname
    exact ⟨outer, houter, hdir, hsome, rfl⟩
  · rintro ⟨outer, houter, hdir, hsome, rfl⟩
    refine h.resolve_of_components (FilePath.ne_empty_of_components (by simp [hcomponents])) ?_ ?_
    · rw [hstart, hcomponents]
      exact descend_append_eq_ok.mpr ⟨outer, houter,
        descend_singleton_eq_ok.mpr ⟨hdir, .of_isName hname hsome⟩⟩
    · intro hend
      rw [FilePath.endsWith_slash_join hname.1 hname.2.1] at hend
      cases hend

/-- What is called by a name in the directory of a path. -/
theorem Plain.resolve_join_of_resolve {tree : FileTree} (h : tree.Plain) {name path : String}
    (hname : FilePath.IsName name) {outer : Location} (houter : tree.resolve path = .ok outer)
    (hdir : tree.isDirectoryAt outer = true) (hsome : (tree.node? (name :: outer)).isSome) :
    tree.resolve (FilePath.join path name) = .ok (name :: outer) :=
  (h.resolve_join hname path).mpr ⟨outer, h.descend_components houter, hdir, hsome, rfl⟩

/-- A name leads into the current directory. -/
theorem Plain.resolve_name {tree : FileTree} (h : tree.Plain) {name : String}
    (hname : FilePath.IsName name) {l : Location} :
    tree.resolve name = .ok l ↔
      tree.isDirectoryAt tree.current = true ∧ (tree.node? (name :: tree.current)).isSome ∧
        l = name :: tree.current := by
  have hjoin : FilePath.join "" name = name := by simp [FilePath.join]
  have hstart : tree.descend (startOf tree.current "") (FilePath.components "") =
      .ok tree.current := rfl
  rw [← hjoin, h.resolve_join hname, hstart, hjoin]
  constructor
  · rintro ⟨_, ⟨⟩, hfound⟩
    exact hfound
  · exact fun hfound => ⟨tree.current, rfl, hfound⟩

/-! ## Growth -/

/-- Between two states directories were made at some locations and files written at others. -/
structure Growth (made written : Location → Prop) (before after : FileTree) : Prop where
  current : after.current = before.current
  plain : before.Plain → after.Plain
  node? : ∀ location,
    after.node? location = before.node? location ∨
      (made location ∧ before.node? location = none ∧
        after.node? location = some .directory) ∨
      (written location ∧ before.node? location ≠ some .directory ∧
        ∃ text, after.node? location = some (.file text))

namespace Growth

variable {made written made' written' : Location → Prop} {before mid after : FileTree}

theorem refl (tree : FileTree) : Growth made written tree tree where
  current := rfl
  plain := id
  node? _ := .inl rfl

theorem mono (h : Growth made written before after) (hmade : ∀ l, made l → made' l)
    (hwritten : ∀ l, written l → written' l) : Growth made' written' before after where
  current := h.current
  plain := h.plain
  node? l := by
    rcases h.node? l with h | ⟨hl, h⟩ | ⟨hl, h⟩
    · exact .inl h
    · exact .inr (.inl ⟨hmade l hl, h⟩)
    · exact .inr (.inr ⟨hwritten l hl, h⟩)

theorem trans (h : Growth made written before mid) (h' : Growth made written mid after) :
    Growth made written before after where
  current := h'.current.trans h.current
  plain := h'.plain ∘ h.plain
  node? l := by
    rcases h'.node? l with he | ⟨hl, hmid, hafter⟩ | ⟨hl, hmid, hafter⟩
    · rw [he]
      exact h.node? l
    · rcases h.node? l with he | ⟨-, -, he⟩ | ⟨-, -, _, he⟩
      · exact .inr (.inl ⟨hl, he ▸ hmid, hafter⟩)
      · simp [he] at hmid
      · simp [he] at hmid
    · refine .inr (.inr ⟨hl, ?_, hafter⟩)
      rcases h.node? l with he | ⟨-, -, he⟩ | ⟨-, hbefore, -⟩
      · exact he ▸ hmid
      · exact absurd he hmid
      · exact hbefore

/-- Whatever was made and written, a tree only grows. -/
theorem trans_any (h : Growth made written before mid) (h' : Growth made' written' mid after) :
    Growth (fun _ => True) (fun _ => True) before after :=
  (h.mono (fun _ _ => trivial) fun _ _ => trivial).trans
    (h'.mono (fun _ _ => trivial) fun _ _ => trivial)

theorem putDirectory {tree : FileTree} {name : String} {outer : Location}
    (hname : FilePath.IsName name) (hnone : tree.node? (name :: outer) = none)
    (hmade : made (name :: outer)) :
    Growth made written tree (tree.put (name :: outer) .directory) where
  current := rfl
  plain h := h.put hname outer rfl
  node? l := by
    rw [node?_put _ (List.cons_ne_nil _ _)]
    split
    · next he => exact .inr (.inl ⟨he ▸ hmade, he ▸ hnone, rfl⟩)
    · exact .inl rfl

theorem putFile {tree : FileTree} {name : String} {outer : Location} (text : Option String)
    (hname : FilePath.IsName name) (hfile : tree.node? (name :: outer) ≠ some .directory)
    (hwritten : written (name :: outer)) :
    Growth made written tree (tree.put (name :: outer) (.file text)) where
  current := rfl
  plain h := h.put hname outer rfl
  node? l := by
    rw [node?_put _ (List.cons_ne_nil _ _)]
    split
    · next he => exact .inr (.inr ⟨he ▸ hwritten, he ▸ hfile, text, rfl⟩)
    · exact .inl rfl

/-- What is there and was not written is as it was. -/
theorem node?_of_not_written (h : Growth made written before after) {l : Location} {node : Node}
    (hnode : before.node? l = some node) (hwritten : ¬written l) : after.node? l = some node := by
  rcases h.node? l with h | ⟨-, hnone, -⟩ | ⟨hl, -⟩
  · exact h.trans hnode
  · simp [hnode] at hnone
  · exact absurd hl hwritten

/-- A file that was not written was there. -/
theorem file_of_not_written (h : Growth made written before after) {l : Location}
    {text : Option String} (hnode : after.node? l = some (.file text)) (hwritten : ¬written l) :
    before.node? l = some (.file text) := by
  rcases h.node? l with h | ⟨-, -, hdir⟩ | ⟨hl, -⟩
  · exact h.symm.trans hnode
  · simp [hnode] at hdir
  · exact absurd hl hwritten

theorem isDirectoryAt (h : Growth made written before after) {l : Location}
    (hdir : before.isDirectoryAt l = true) : after.isDirectoryAt l = true := by
  rw [isDirectoryAt_iff] at *
  rcases h.node? l with h | ⟨-, -, h⟩ | ⟨-, hnot, -⟩
  · exact h.trans hdir
  · exact h
  · exact absurd hdir hnot

/-- A file may get another text but stays a file. -/
theorem file (h : Growth made written before after) {l : Location} {text : Option String}
    (hfile : before.node? l = some (.file text)) : ∃ text, after.node? l = some (.file text) := by
  rcases h.node? l with h | ⟨-, hnone, -⟩ | ⟨-, -, h⟩
  · exact ⟨text, h.trans hfile⟩
  · simp [hfile] at hnone
  · exact h

theorem isSome (h : Growth made written before after) {l : Location}
    (hsome : (before.node? l).isSome) : (after.node? l).isSome := by
  rcases h.node? l with h | ⟨-, -, h⟩ | ⟨-, -, _, h⟩
  · exact h ▸ hsome
  · simp [h]
  · simp [h]

theorem enters (h : Growth made written before after) {here next : Location} {name : String}
    (henters : Enters before here name next) : Enters after here name next := by
  cases henters with
  | stay => exact .stay
  | leave => exact .leave
  | enter hdot hdots hsome => exact .enter hdot hdots (h.isSome hsome)

/-- Where names lead does not change. -/
theorem descend (h : Growth made written before after) {here l : Location} {names : List String}
    (hl : before.descend here names = .ok l) : after.descend here names = .ok l := by
  induction names generalizing here with
  | nil => exact hl
  | cons name names ih =>
    obtain ⟨hdir, next, henters, hl⟩ := descend_cons_eq_ok.mp hl
    exact descend_cons_eq_ok.mpr ⟨h.isDirectoryAt hdir, next, h.enters henters, ih hl⟩

theorem resolve (h : Growth made written before after) (hplain : before.Plain) {path : String}
    {l : Location} (hl : before.resolve path = .ok l) : after.resolve path = .ok l := by
  rw [hplain.resolve_eq] at hl
  rw [(h.plain hplain).resolve_eq, h.current]
  split at hl
  · cases hl
  · next hne =>
    rw [if_neg hne]
    exact h.descend hl

theorem reaches (h : Growth made written before after) (hplain : before.Plain)
    {paths : List String} {l : Location} (hl : before.Reaches paths l) : after.Reaches paths l := by
  obtain ⟨path, hpath, hl⟩ := hl
  exact ⟨path, hpath, h.resolve hplain hl⟩

theorem isDirectory (h : Growth made written before after) (hplain : before.Plain) {path : String}
    (hdir : before.isDirectory path = true) : after.isDirectory path = true := by
  obtain ⟨l, hl, hdir⟩ := isDirectory_iff.mp hdir
  exact isDirectory_iff.mpr ⟨l, h.resolve hplain hl, h.isDirectoryAt hdir⟩

end Growth

/-! ## Making directories -/

section Making

variable {tree after : FileTree} {path : String}

theorem ne_empty_of_splitLast {before : List String} {last : String}
    (h : splitLast path = some (before, last)) : path.isEmpty = false :=
  FilePath.ne_empty_of_components (by simp [FilePath.splitLast_eq_some_iff.mp h])

/-- Whether a directory is made where its path leads is decided by the directory around it. -/
theorem Plain.makeDirectory_eq (h : tree.Plain) {before : List String} {last : String}
    (hsplit : splitLast path = some (before, last)) {parent : Location}
    (hparent : tree.descend (startOf tree.current path) before = .ok parent) :
    tree.makeDirectory path =
      if !tree.isDirectoryAt parent then .error .notDirectory
      else if last = "." || last = ".." || (tree.node? (last :: parent)).isSome then
        .error .alreadyThere
      else .ok (tree.put (last :: parent) .directory) := by
  rw [makeDirectory, hsplit]
  simp only [h.walk_eq_descend, hparent]
  rfl

theorem Plain.makeDirectory_eq_ok (h : tree.Plain) (hmade : tree.makeDirectory path = .ok after) :
    ∃ name outer, FilePath.IsName name ∧ tree.node? (name :: outer) = none ∧
      after = tree.put (name :: outer) .directory ∧ after.resolve path = .ok (name :: outer) := by
  obtain ⟨before, last, hsplit⟩ : ∃ before last, splitLast path = some (before, last) := by
    rw [makeDirectory] at hmade
    split at hmade
    · cases hmade
    · next before last hsplit => exact ⟨before, last, hsplit⟩
  obtain ⟨parent, hparent⟩ :
      ∃ parent, tree.descend (startOf tree.current path) before = .ok parent := by
    rw [makeDirectory, hsplit] at hmade
    simp only [h.walk_eq_descend] at hmade
    cases hparent : tree.descend (startOf tree.current path) before with
    | ok parent => exact ⟨parent, rfl⟩
    | error e =>
      rw [hparent] at hmade
      cases hmade
  rw [h.makeDirectory_eq hsplit hparent] at hmade
  split at hmade
  · cases hmade
  next hdir =>
  split at hmade
  · cases hmade
  next htaken =>
  obtain rfl := Except.ok.inj hmade
  obtain ⟨⟨hdot, hdots⟩, hnone⟩ :
      (last ≠ "." ∧ last ≠ "..") ∧ tree.node? (last :: parent) = none := by simpa using htaken
  have hcomponents := FilePath.splitLast_eq_some_iff.mp hsplit
  have hlast : last ∈ FilePath.components path := by simp [hcomponents]
  have hname : FilePath.IsName last :=
    ⟨FilePath.ne_empty_of_mem_components hlast, FilePath.slash_not_mem_of_mem_components hlast,
      hdot, hdots⟩
  have hnode :
      (tree.put (last :: parent) .directory).node? (last :: parent) = some .directory := by
    simp [node?_put]
  have hgrowth : Growth (fun _ => True) (fun _ => False) tree
      (tree.put (last :: parent) .directory) := .putDirectory hname hnone trivial
  refine ⟨last, parent, hname, hnone, rfl, ?_⟩
  refine (hgrowth.plain h).resolve_of_components (ne_empty_of_splitLast hsplit) ?_
    fun _ => isDirectoryAt_iff.mpr hnode
  rw [hcomponents]
  refine descend_append_eq_ok.mpr ⟨parent, hgrowth.descend hparent, ?_⟩
  exact descend_singleton_eq_ok.mpr
    ⟨hgrowth.isDirectoryAt (by simpa using hdir), .of_isName hname (by simp [hnode])⟩

/-- A directory that is there is not made again, and nothing on the way to it is missing. -/
theorem Plain.makeDirectory_of_isDirectory (h : tree.Plain) (hdir : tree.isDirectory path = true) :
    ∃ e, tree.makeDirectory path = .error e ∧ e ≠ .notFound := by
  obtain ⟨l, hl, -⟩ := isDirectory_iff.mp hdir
  cases hsplit : splitLast path with
  | none =>
    rw [makeDirectory, hsplit]
    exact ⟨.alreadyThere, by simp [ne_empty_of_resolve hl], by simp⟩
  | some split =>
    obtain ⟨before, last⟩ := split
    have hl := h.descend_components hl
    rw [FilePath.splitLast_eq_some_iff.mp hsplit] at hl
    obtain ⟨parent, hparent, hl⟩ := descend_append_eq_ok.mp hl
    obtain ⟨hparentDir, henters⟩ := descend_singleton_eq_ok.mp hl
    have htaken : (last = "." || last = ".." || (tree.node? (last :: parent)).isSome) = true := by
      cases henters with
      | stay => simp
      | leave => simp
      | enter _ _ hsome => simp [hsome]
    rw [h.makeDirectory_eq hsplit hparent, hparentDir, htaken]
    exact ⟨.alreadyThere, rfl, by simp⟩

/-- A directory is made where it stands, or after those around it; or it is not made, which is no
error if it is there. -/
theorem makeAll_cons_cases {outer : List String} {error : Option FileError}
    (hmade : tree.makeAll (path :: outer) = (after, error)) :
    ∃ below, (below = tree ∨ ∃ error, tree.makeAll outer = (below, error)) ∧
      (below.makeDirectory path = .ok after ∨
        after = below ∧ (error = none → below.isDirectory path = true)) := by
  -- An error that is not told is that of a directory that is there.
  have hthere (below : FileTree) (e : FileError)
      (hnone : (if below.isDirectory path then none else some e) = none) :
      below.isDirectory path = true := by
    by_contra hnot
    simp [hnot] at hnone
  rw [makeAll] at hmade
  split at hmade
  · next made hmake =>
    obtain ⟨rfl, -⟩ := Prod.mk.inj hmade
    exact ⟨tree, .inl rfl, .inl hmake⟩
  · split at hmade
    · next below e hbelow =>
      obtain ⟨rfl, rfl⟩ := Prod.mk.inj hmade
      exact ⟨below, .inr ⟨_, hbelow⟩, .inr ⟨rfl, nofun⟩⟩
    · next below hbelow =>
      refine ⟨below, .inr ⟨_, hbelow⟩, ?_⟩
      split at hmade
      · next made hmake =>
        obtain ⟨rfl, -⟩ := Prod.mk.inj hmade
        exact .inl hmake
      · next e hmake =>
        obtain ⟨rfl, rfl⟩ := Prod.mk.inj hmade
        exact .inr ⟨rfl, hthere below e⟩
  · next e _ hmake =>
    obtain ⟨rfl, rfl⟩ := Prod.mk.inj hmade
    exact ⟨tree, .inl rfl, .inr ⟨rfl, hthere tree e⟩⟩

/-- Making directories makes them where the paths lead. -/
theorem Plain.makeAll_growth (h : tree.Plain) {paths : List String} {error : Option FileError}
    (hmade : tree.makeAll paths = (after, error)) :
    Growth (after.Reaches paths) (fun _ => False) tree after := by
  induction paths generalizing after error with
  | nil =>
    obtain ⟨rfl, rfl⟩ := Prod.mk.inj hmade
    exact .refl _
  | cons path outer ih =>
    obtain ⟨below, hbelow, hlast⟩ := makeAll_cons_cases hmade
    have hgrowth : Growth (below.Reaches (path :: outer)) (fun _ => False) tree below := by
      rcases hbelow with rfl | ⟨_, hbelow⟩
      · exact .refl _
      · exact (ih hbelow).mono (fun l hl => hl.subset (List.subset_cons_self _ _)) fun _ => id
    rcases hlast with hmake | ⟨rfl, -⟩
    · have hbelow := hgrowth.plain h
      obtain ⟨name, around, hname, hnone, rfl, hresolve⟩ := hbelow.makeDirectory_eq_ok hmake
      have hput : Growth ((below.put (name :: around) .directory).Reaches (path :: outer))
          (fun _ => False) below (below.put (name :: around) .directory) :=
        .putDirectory hname hnone ⟨path, List.mem_cons_self, hresolve⟩
      exact .trans (hgrowth.mono (fun l hl => hput.reaches hbelow hl) fun _ => id) hput
    · exact hgrowth

/-- If nothing goes wrong, the directory is there afterwards. -/
theorem Plain.isDirectory_of_makeAll (h : tree.Plain) {outer : List String}
    (hmade : tree.makeAll (path :: outer) = (after, none)) : after.isDirectory path = true := by
  obtain ⟨below, hbelow, hmake | ⟨rfl, hthere⟩⟩ := makeAll_cons_cases hmade
  · have hbelow : below.Plain := by
      rcases hbelow with rfl | ⟨_, hbelow⟩
      · exact h
      · exact (h.makeAll_growth hbelow).plain h
    obtain ⟨name, around, -, -, rfl, hresolve⟩ := hbelow.makeDirectory_eq_ok hmake
    exact isDirectory_iff.mpr ⟨_, hresolve, by simp [isDirectoryAt_iff, node?_put]⟩
  · exact hthere rfl

theorem Plain.makeAll_of_isDirectory (h : tree.Plain) (hdir : tree.isDirectory path = true)
    (outer : List String) : tree.makeAll (path :: outer) = (tree, none) := by
  obtain ⟨e, he, hfound⟩ := h.makeDirectory_of_isDirectory hdir
  rw [makeAll, he]
  split
  · next heq => cases heq
  · next heq => exact absurd (Except.error.inj heq) hfound
  · simp [hdir]

/-- A path that has ancestors is the first of them. -/
theorem ancestors_cases (path : String) :
    FilePath.ancestors path = [] ∨ ∃ outer, FilePath.ancestors path = path :: outer := by
  rw [FilePath.ancestors, FilePath.ancestorsUpTo]
  split
  · exact .inl rfl
  · exact .inr ⟨_, rfl⟩

theorem Plain.makeDirectories_growth (h : tree.Plain) {error : Option FileError}
    (hmade : tree.makeDirectories path = (after, error)) :
    Growth (after.Reaches (FilePath.ancestors path)) (fun _ => False) tree after :=
  h.makeAll_growth hmade

/-- A directory that is there is not made, nor is anything on the way to it. -/
theorem Plain.makeDirectories_of_isDirectory (h : tree.Plain)
    (hdir : tree.isDirectory path = true) : tree.makeDirectories path = (tree, none) := by
  rw [makeDirectories]
  rcases ancestors_cases path with hnil | ⟨outer, hcons⟩
  · rw [hnil]
    rfl
  · rw [hcons]
    exact h.makeAll_of_isDirectory hdir outer

/-- Directories that were made are not made again, whatever has been added since. -/
theorem Plain.makeDirectories_again (h : tree.Plain)
    (hmade : tree.makeDirectories path = (after, none)) {made written : Location → Prop}
    {later : FileTree} (hlater : Growth made written after later) :
    later.makeDirectories path = (later, none) := by
  have hplain := (h.makeDirectories_growth hmade).plain h
  rcases ancestors_cases path with hnil | ⟨outer, hcons⟩
  · rw [makeDirectories, hnil]
    rfl
  · rw [makeDirectories, hcons] at hmade
    exact (hlater.plain hplain).makeDirectories_of_isDirectory
      (hlater.isDirectory hplain (h.isDirectory_of_makeAll hmade))

/-! ## Writing files -/

/-- A file can be written to a path: it is a name in a directory, and no directory is called so. -/
structure IsTarget (tree : FileTree) (path : String) (before : List String) (name : String)
    (outer : Location) : Prop where
  components : FilePath.components path = before ++ [name]
  noSlash : path.endsWith "/" = false
  descend : tree.descend (startOf tree.current path) before = .ok outer
  isDirectoryAt : tree.isDirectoryAt outer = true
  isName : FilePath.IsName name
  noDirectory : tree.node? (name :: outer) ≠ some .directory

theorem Plain.target_eq_ok (h : tree.Plain) {links : Nat} {l : Location} :
    tree.target links tree.current path = .ok l ↔
      ∃ before name outer, tree.IsTarget path before name outer ∧ l = name :: outer := by
  rw [target]
  constructor
  · intro htarget
    split at htarget
    · cases htarget
    next before name hsplit =>
    split at htarget
    · cases htarget
    next outer left hfollow =>
    obtain ⟨houter, -⟩ := h.follow_eq_ok.mp hfollow
    split at htarget
    · cases htarget
    next hdir =>
    split at htarget
    · cases htarget
    next hproper =>
    have hcomponents := FilePath.splitLast_eq_some_iff.mp hsplit
    have hname : name ∈ FilePath.components path := by simp [hcomponents]
    obtain ⟨⟨hslash, hdot⟩, hdots⟩ : (path.endsWith "/" = false ∧ name ≠ ".") ∧ name ≠ ".." := by
      simpa using hproper
    have htarget' : tree.node? (name :: outer) ≠ some .directory ∧ l = name :: outer := by
      split at htarget
      · cases htarget
      · next hlink => cases h.isLink_of_node? hlink
      · next hnode _ => exact ⟨hnode, (Except.ok.inj htarget).symm⟩
    exact ⟨before, name, outer, ⟨hcomponents, hslash, houter, by simpa using hdir,
      ⟨FilePath.ne_empty_of_mem_components hname, FilePath.slash_not_mem_of_mem_components hname,
        hdot, hdots⟩, htarget'.1⟩, htarget'.2⟩
  · rintro ⟨before, name, outer, ht, rfl⟩
    rw [FilePath.splitLast_eq_some_iff.mpr ht.components]
    have hfollow : tree.follow links (startOf tree.current path) before = .ok (outer, links) :=
      h.follow_eq_ok.mpr ⟨ht.descend, rfl⟩
    dsimp only
    split
    · next hfail => cases hfollow.symm.trans hfail
    next hfollow' =>
    obtain ⟨rfl, -⟩ := Prod.mk.inj (Except.ok.inj (hfollow.symm.trans hfollow'))
    simp only [ht.isDirectoryAt, ht.noSlash, ht.isName.2.2.1, ht.isName.2.2.2, Bool.not_true,
      decide_false, Bool.or_false, if_neg Bool.false_ne_true]
    split
    · next hdir => exact absurd hdir ht.noDirectory
    · next hlink => cases h.isLink_of_node? hlink
    · rfl

theorem Plain.write_eq_ok (h : tree.Plain) {text : Option String} :
    tree.write path text = .ok after ↔
      ∃ before name outer, tree.IsTarget path before name outer ∧
        after = tree.put (name :: outer) (.file text) := by
  rw [write]
  constructor
  · intro hwrite
    cases ht : tree.target linkLimit tree.current path with
    | error e =>
      rw [ht] at hwrite
      cases hwrite
    | ok l =>
      rw [ht] at hwrite
      obtain ⟨before, name, outer, htarget, rfl⟩ := h.target_eq_ok.mp ht
      exact ⟨before, name, outer, htarget, (Except.ok.inj hwrite).symm⟩
  · rintro ⟨before, name, outer, ht, rfl⟩
    rw [h.target_eq_ok.mpr ⟨before, name, outer, ht, rfl⟩]
    rfl

namespace IsTarget

variable {before : List String} {name : String} {outer : Location}

/-- A name in the directory that a path leads to. -/
theorem of_join (h : tree.Plain) (hname : FilePath.IsName name)
    (houter : tree.resolve path = .ok outer) (hdir : tree.isDirectoryAt outer = true)
    (hno : tree.node? (name :: outer) ≠ some .directory) :
    tree.IsTarget (FilePath.join path name) (FilePath.components path) name outer where
  components := FilePath.components_join hname.1 hname.2.1 path
  noSlash := FilePath.endsWith_slash_join hname.1 hname.2.1 path
  descend := by rw [startOf_join hname.2.1, h.descend_components houter]
  isDirectoryAt := hdir
  isName := hname
  noDirectory := hno

theorem growth (ht : tree.IsTarget path before name outer) (text : Option String)
    {made written : Location → Prop} (hwritten : written (name :: outer)) :
    Growth made written tree (tree.put (name :: outer) (.file text)) :=
  .putFile text ht.isName ht.noDirectory hwritten

/-- The path leads to what was written. -/
theorem resolve_put (ht : tree.IsTarget path before name outer) (h : tree.Plain)
    (text : Option String) :
    (tree.put (name :: outer) (.file text)).resolve path = .ok (name :: outer) := by
  have hgrowth : Growth (fun _ => True) (fun _ => True) tree
      (tree.put (name :: outer) (.file text)) := ht.growth text trivial
  have hsome : ((tree.put (name :: outer) (.file text)).node? (name :: outer)).isSome := by
    simp [node?_put]
  have hne : path.isEmpty = false :=
    ne_empty_of_splitLast (FilePath.splitLast_eq_some_iff.mpr ht.components)
  refine (hgrowth.plain h).resolve_of_components hne ?_ fun hend => ?_
  · rw [ht.components]
    exact descend_append_eq_ok.mpr ⟨outer, hgrowth.descend ht.descend,
      descend_singleton_eq_ok.mpr
        ⟨hgrowth.isDirectoryAt ht.isDirectoryAt, .of_isName ht.isName hsome⟩⟩
  · rw [ht.noSlash] at hend
    cases hend

/-- A file stays the target of the path. -/
theorem later (ht : tree.IsTarget path before name outer) {text : Option String}
    (hfile : tree.node? (name :: outer) = some (.file text)) {made written : Location → Prop}
    (hgrowth : Growth made written tree after) : after.IsTarget path before name outer where
  components := ht.components
  noSlash := ht.noSlash
  descend := hgrowth.current ▸ hgrowth.descend ht.descend
  isDirectoryAt := hgrowth.isDirectoryAt ht.isDirectoryAt
  isName := ht.isName
  noDirectory := by
    obtain ⟨text, hfile⟩ := hgrowth.file hfile
    simp [hfile]

end IsTarget

/-- Writing changes what the path leads to. -/
theorem Plain.growth_of_write (h : tree.Plain) {text : Option String}
    (hwrite : tree.write path text = .ok after) :
    ∃ l, Growth (fun _ => False) (after.Reaches [path]) tree after ∧ after.resolve path = .ok l ∧
      after.node? l = some (.file text) := by
  obtain ⟨before, name, outer, ht, rfl⟩ := h.write_eq_ok.mp hwrite
  have hresolve := ht.resolve_put h text
  exact ⟨name :: outer, ht.growth text ⟨path, List.mem_singleton_self _, hresolve⟩, hresolve,
    by simp [node?_put]⟩

/-- Where a text was written, and is again, it need not be written. -/
theorem Plain.write_again (h : tree.Plain) {text : Option String}
    (hwrite : tree.write path text = .ok after) {made written : Location → Prop} {later : FileTree}
    (hlater : Growth made written after later)
    (hsame : ∀ l, after.resolve path = .ok l → later.node? l = some (.file text)) :
    later.write path text = .ok later := by
  obtain ⟨before, name, outer, ht, rfl⟩ := h.write_eq_ok.mp hwrite
  have hgrowth : Growth (fun _ => True) (fun _ => True) tree
      (tree.put (name :: outer) (.file text)) := ht.growth text trivial
  have hplain := hgrowth.plain h
  have hfile : (tree.put (name :: outer) (.file text)).node? (name :: outer) =
      some (.file text) := by simp [node?_put]
  have ht' : (tree.put (name :: outer) (.file text)).IsTarget path before name outer :=
    ⟨ht.components, ht.noSlash, hgrowth.descend ht.descend,
      hgrowth.isDirectoryAt ht.isDirectoryAt, ht.isName, by simp [hfile]⟩
  refine (hlater.plain hplain).write_eq_ok.mpr
    ⟨before, name, outer, ht'.later hfile hlater, ?_⟩
  exact ((hlater.plain hplain).put_self (List.cons_ne_nil _ _)
    (hsame _ (ht.resolve_put h text))).symm

end Making

end FileTree

end RequestBinding
