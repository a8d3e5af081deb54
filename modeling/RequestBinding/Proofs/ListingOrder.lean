import RequestBinding.Proofs.ByteOrder
import RequestBinding.Proofs.DirectoryReading

/-!
# The order of a listing

A file system lists a directory in an order of its own. Reading a directory does not depend on it:
the sources are looked up one by one in the order of their names, so two trees that differ in the
order of their entries only give the same (`Reordered`). Links are allowed here, in the directory
and on the way to it.

## Main statements

* `Reordered.node?_eq`, `Reordered.list` — the same is found and listed, in another order.
* `resolve_join_of_listed`, `isFile_join_of_listed` — a listed name that is no link leads to what it
  names.
* `read_result` — what reading gives, source by source.
* `read_reordered` — reading does not depend on the order of the listing.
-/

namespace RequestBinding

namespace FileTree

/-! ## Trees with links -/

/-- The state of a file system: each location is listed once, under the name of a file. -/
structure WellNamed (tree : FileTree) : Prop where
  unique : (tree.entries.map (·.1)).Nodup
  isName : ∀ entry ∈ tree.entries, ∀ name ∈ entry.1.head?, FilePath.IsName name

instance (tree : FileTree) : Decidable tree.WellNamed :=
  decidable_of_iff
    ((tree.entries.map (·.1)).Nodup ∧
      ∀ entry ∈ tree.entries, ∀ name ∈ entry.1.head?, FilePath.IsName name)
    ⟨fun ⟨h₁, h₂⟩ => ⟨h₁, h₂⟩, fun h => ⟨h.unique, h.isName⟩⟩

theorem WellNamed.isName_of_node? {tree : FileTree} (h : tree.WellNamed) {location : Location}
    {name : String} (hsome : (tree.node? (name :: location)).isSome) : FilePath.IsName name := by
  obtain ⟨node, hnode⟩ := Option.isSome_iff_exists.mp hsome
  exact h.isName _ (mem_of_lookup (tree.node?_cons name location ▸ hnode)) name (by simp)

/-- The same files, listed in another order. -/
structure Reordered (tree tree' : FileTree) : Prop where
  current : tree'.current = tree.current
  entries : tree'.entries.Perm tree.entries

theorem lookup_eq_some_iff_mem {entries : List (Location × Node)}
    (hunique : (entries.map (·.1)).Nodup) {location : Location} {node : Node} :
    entries.lookup location = some node ↔ (location, node) ∈ entries := by
  refine ⟨mem_of_lookup, fun hmem => ?_⟩
  have hsome : (entries.lookup location).isSome :=
    List.lookup_isSome_iff.mpr ⟨_, hmem, by simp⟩
  obtain ⟨other, hother⟩ := Option.isSome_iff_exists.mp hsome
  have hpair : (location, other) = (location, node) :=
    List.inj_on_of_nodup_map hunique (mem_of_lookup hother) hmem rfl
  rw [hother, (Prod.mk.inj hpair).2]

/-! ## Walks -/

/-- What is followed depends on nothing but what is at locations. -/
theorem follow_congr {tree tree' : FileTree}
    (hnode : ∀ location, tree'.node? location = tree.node? location) (links : Nat)
    (here : Location) (names : List String) :
    tree'.follow links here names = tree.follow links here names := by
  have hdir (location : Location) : tree'.isDirectoryAt location = tree.isDirectoryAt location := by
    rw [isDirectoryAt, isDirectoryAt, hnode]
  induction links, here, names using follow.induct tree with
  | case1 links here => rw [follow, follow]
  | _ => simp_all [follow]

theorem walk_congr {tree tree' : FileTree}
    (hnode : ∀ location, tree'.node? location = tree.node? location) (links : Nat)
    (here : Location) (names : List String) :
    tree'.walk links here names = tree.walk links here names := by
  rw [walk, walk, follow_congr hnode]

/-- Where the first names lead, the others are followed, with the links that are left. -/
theorem follow_append (tree : FileTree) (links : Nat) (here : Location)
    (names more : List String) :
    tree.follow links here (names ++ more) =
      (tree.follow links here names).bind fun (mid, left) => tree.follow left mid more := by
  induction links, here, names using follow.induct tree with
  | case1 links here =>
    rw [List.nil_append, follow]
    rfl
  | _ => simp_all [follow, Except.bind]

theorem walk_eq_ok {tree : FileTree} {links : Nat} {here location : Location}
    {names : List String} :
    tree.walk links here names = .ok location ↔
      ∃ left, tree.follow links here names = .ok (location, left) := by
  rw [walk]
  cases tree.follow links here names with
  | error e => simp [Except.map]
  | ok reached => simp [Except.map, Prod.ext_iff]

/-- A walk that ends in a directory enters what is there under a name and is no link. -/
theorem walk_append_name {tree : FileTree} {links : Nat} {here location : Location}
    {names : List String} (hwalk : tree.walk links here names = .ok location)
    (hdir : tree.isDirectoryAt location = true) {name : String} (hname : FilePath.IsName name)
    {node : Node} (hnode : tree.node? (name :: location) = some node)
    (hlink : node.isLink = false) :
    tree.walk links here (names ++ [name]) = .ok (name :: location) := by
  obtain ⟨left, hfollow⟩ := walk_eq_ok.mp hwalk
  refine walk_eq_ok.mpr ⟨left, ?_⟩
  have hstop : tree.follow left (name :: location) [] = .ok (name :: location, left) := by
    rw [follow]
  rw [follow_append, hfollow]
  show tree.follow left location [name] = _
  rw [follow, hdir, if_neg (by decide), if_neg hname.2.2.1, if_neg hname.2.2.2, hnode]
  cases node with
  | link target => cases hlink
  | file text => exact hstop
  | directory => exact hstop

/-- A walk that ends with the name `.` ends where it was before. -/
theorem walk_of_append_dot {tree : FileTree} {links : Nat} {here location : Location}
    {names : List String} (hwalk : tree.walk links here (names ++ ["."]) = .ok location) :
    tree.walk links here names = .ok location := by
  obtain ⟨left, hfollow⟩ := walk_eq_ok.mp hwalk
  rw [follow_append] at hfollow
  cases hnames : tree.follow links here names with
  | error e =>
    rw [hnames] at hfollow
    cases hfollow
  | ok reached =>
    obtain ⟨mid, left'⟩ := reached
    rw [hnames] at hfollow
    replace hfollow : tree.follow left' mid ["."] = .ok (location, left) := hfollow
    rw [follow] at hfollow
    split at hfollow
    · cases hfollow
    · rw [if_pos rfl, follow] at hfollow
      exact walk_eq_ok.mpr ⟨left, hnames.trans hfollow⟩

/-- A path leads to a file if it can be followed to the location of one. -/
theorem isFile_iff {tree : FileTree} {path : String} :
    tree.isFile path = true ↔
      ∃ location text, tree.resolve path = .ok location ∧
        tree.node? location = some (.file text) := by
  rw [isFile, nodeOf?]
  cases hl : tree.resolve path with
  | error e => simp [Except.toOption]
  | ok location =>
    simp only [Except.toOption, Option.bind_some]
    split
    · next text hnode => simp [hnode]
    · next hnode => simpa using hnode

section Listed

variable {tree : FileTree} (h : tree.WellNamed) {path : String} {location : Location}
  (hdir : tree.isDirectoryAt location = true) {name : String} {node : Node}
  (hnode : tree.node? (name :: location) = some node) (hlink : node.isLink = false)

include h hdir hnode hlink

theorem resolve_join_of_walk (hwalk : tree.walk linkLimit (startOf tree.current path)
    (FilePath.components path) = .ok location) :
    tree.resolve (FilePath.join path name) = .ok (name :: location) := by
  have hname : FilePath.IsName name := h.isName_of_node? (Option.isSome_of_mem hnode)
  have hcomponents := FilePath.components_join hname.1 hname.2.1 path
  have hne : (FilePath.join path name).isEmpty = false :=
    FilePath.ne_empty_of_components (by simp [hcomponents])
  rw [resolve, hne, if_neg Bool.false_ne_true, startOf_join hname.2.1, FilePath.names_eq,
    FilePath.endsWith_slash_join hname.1 hname.2.1, if_neg Bool.false_ne_true, List.append_nil,
    hcomponents]
  exact walk_append_name hwalk hdir hname hnode hlink

/-- A name in a directory leads to what it names, unless that is a link. -/
theorem resolve_join_of_listed (hl : tree.resolve path = .ok location) :
    tree.resolve (FilePath.join path name) = .ok (name :: location) := by
  refine resolve_join_of_walk h hdir hnode hlink ?_
  rw [resolve, FilePath.names_eq] at hl
  split at hl
  · cases hl
  · split at hl
    · exact walk_of_append_dot hl
    · rwa [List.append_nil] at hl

/-- What is listed and no link is a file if it is one at its location. -/
theorem isFile_join_of_listed (hl : tree.resolve path = .ok location) :
    tree.isFile (FilePath.join path name) = true ↔ ∃ text, node = .file text := by
  have hjoin := resolve_join_of_listed h hdir hnode hlink hl
  rw [isFile_iff]
  constructor
  · rintro ⟨location', text, hl', hfile⟩
    rw [← Except.ok.inj (hjoin.symm.trans hl'), hnode] at hfile
    exact ⟨text, Option.some.inj hfile⟩
  · rintro ⟨text, rfl⟩
    exact ⟨name :: location, text, hjoin, hnode⟩

end Listed

/-! ## The same files in another order -/

/-- What is listed are the names in the directory that the path leads to. -/
theorem exists_of_list {tree : FileTree} {path : String} {names : List String}
    (hlist : tree.list path = .ok names) :
    ∃ location, tree.resolve path = .ok location ∧ tree.isDirectoryAt location = true ∧
      names = tree.namesAt location := by
  rw [FileTree.list] at hlist
  cases hl : tree.resolve path with
  | error e =>
    rw [hl] at hlist
    cases hlist
  | ok location =>
    rw [hl] at hlist
    by_cases hdir : tree.isDirectoryAt location = true
    · exact ⟨location, rfl, hdir, Except.ok.inj (hlist.symm.trans (if_pos hdir))⟩
    · cases hlist.symm.trans (if_neg hdir)

namespace Reordered

variable {tree tree' : FileTree} (h : tree.WellNamed) (hreordered : Reordered tree tree')

include h hreordered

theorem node?_eq (location : Location) : tree'.node? location = tree.node? location := by
  have hunique' : (tree'.entries.map (·.1)).Nodup :=
    (hreordered.entries.map (·.1)).nodup_iff.mpr h.unique
  rw [node?, node?]
  split
  · rfl
  · refine Option.ext fun node => ?_
    rw [lookup_eq_some_iff_mem hunique', lookup_eq_some_iff_mem h.unique,
      hreordered.entries.mem_iff]

theorem resolve_eq (path : String) : tree'.resolve path = tree.resolve path := by
  rw [resolve, resolve, hreordered.current, walk_congr (hreordered.node?_eq h)]

theorem isFile_eq (path : String) : tree'.isFile path = tree.isFile path := by
  have hnode : tree'.node? = tree.node? := funext (hreordered.node?_eq h)
  rw [isFile, isFile, nodeOf?, nodeOf?, hreordered.resolve_eq h, hnode]

theorem read_eq (path : String) : tree'.read path = tree.read path := by
  rw [FileTree.read, FileTree.read, hreordered.resolve_eq h]
  simp only [hreordered.node?_eq h]

/-- What can be listed can be listed in the other order. -/
theorem list {path : String} {names : List String} (hlist : tree.list path = .ok names) :
    ∃ names', tree'.list path = .ok names' ∧ names'.Perm names := by
  obtain ⟨location, hl, hdir, rfl⟩ := exists_of_list hlist
  have hl' : tree'.resolve path = .ok location := (hreordered.resolve_eq h path).trans hl
  have hdir' : tree'.isDirectoryAt location = true := by
    rwa [isDirectoryAt, hreordered.node?_eq h]
  refine ⟨tree'.namesAt location, ?_, hreordered.entries.filterMap _⟩
  rw [FileTree.list, hl']
  exact if_pos hdir'

end Reordered

end FileTree

namespace SourceDirectory

open FileTree

/-! ## The sources among the names listed -/

/-- The names of the sources among the names listed, in order. -/
def listedSources (settings : Settings) (files : FileTree) (directory : String)
    (listed : List String) : List String :=
  ((candidates files directory listed).partition
    (isGenerated settings.generatedEnding)).2.mergeSort (· ≤ ·)

theorem mem_listedSources {settings : Settings} {files : FileTree} {directory name : String}
    {listed : List String} :
    name ∈ listedSources settings files directory listed ↔
      name ∈ listed ∧ files.isFile (FilePath.join directory name) = true ∧
        FilePath.extension? name = some "rs" ∧
        ¬(settings.generatedEnding ≠ "" ∧ name.endsWith settings.generatedEnding = true) := by
  have hending : (!isGenerated settings.generatedEnding name) = true ↔
      ¬(settings.generatedEnding ≠ "" ∧ name.endsWith settings.generatedEnding = true) := by
    by_cases hempty : settings.generatedEnding = "" <;> simp [isGenerated, hempty]
  rw [listedSources, List.mem_mergeSort, List.partition_eq_filter_filter, List.mem_filter,
    candidates, List.mem_filter, Bool.and_eq_true, decide_eq_true_eq, and_assoc, and_assoc]
  exact and_congr_right' (and_congr_right' (and_congr_right' hending))

theorem pairwise_listedSources (settings : Settings) (files : FileTree) (directory : String)
    {listed : List String} (hnodup : listed.Nodup) :
    (listedSources settings files directory listed).Pairwise fun a b =>
      Text.bytes a < Text.bytes b := by
  have hnodup' : (listedSources settings files directory listed).Nodup := by
    rw [listedSources, List.partition_eq_filter_filter]
    exact (List.mergeSort_perm _ _).nodup_iff.mpr ((hnodup.filter _).filter _)
  have hsorted : (listedSources settings files directory listed).Pairwise fun a b =>
      decide (a ≤ b) = true := pairwise_mergeSort _
  refine (hsorted.and hnodup').imp fun {a b} hab => ?_
  exact Text.bytes_lt_bytes_iff.mpr (lt_of_le_of_ne (of_decide_eq_true hab.1) hab.2)

theorem listedSources_reordered (settings : Settings) (directory : String)
    {files files' : FileTree} (h : files.WellNamed) (hreordered : Reordered files files')
    {listed listed' : List String} (hperm : listed'.Perm listed) :
    listedSources settings files' directory listed' =
      listedSources settings files directory listed := by
  have hsame : candidates files' directory = candidates files directory := by
    funext names
    simp only [candidates, hreordered.isFile_eq h]
  rw [listedSources, listedSources, hsame, List.partition_eq_filter_filter,
    List.partition_eq_filter_filter]
  exact mergeSort_eq_of_perm ((hperm.filter _).filter _)

/-! ## Source by source -/

theorem mapM_readSource_on (settings : Settings) (files : FileTree) (paths : List String) :
    ((paths.mapM (readSource settings)).on files).1 = paths.mapM (sourceResult settings files) := by
  induction paths with
  | nil => rfl
  | cons path more ih =>
    have hfirst := readSource_on settings path files
    cases hresult : sourceResult settings files path with
    | error e =>
      rw [hresult] at hfirst
      rw [Run.on_mapM_cons_error hfirst, List.mapM_cons, hresult]
      rfl
    | ok records =>
      rw [hresult] at hfirst
      rw [Run.on_mapM_cons_ok (additive_readSource settings) hfirst, List.mapM_cons, hresult]
      show Except.map (records :: ·) ((more.mapM (readSource settings)).on files).1 = _
      rw [ih]
      cases more.mapM (sourceResult settings files) <;> rfl

theorem readKnown_result (settings : Settings) (directory group : String) (files : FileTree)
    (paths : List String) :
    ((readKnown settings directory group paths).on files).1 =
      (paths.mapM (sourceResult settings files)).map fun records => ⟨group, records.flatten⟩ := by
  rw [readKnown, ← mapM_readSource_on]
  cases hon : (paths.mapM (readSource settings)).on files with
  | mk result state =>
    cases result with
    | error e => rw [Run.on_bind_error hon]; rfl
    | ok records =>
      rw [Run.on_bind_ok (fun _ => (Run.additive_tell _).bind fun _ => Run.additive_pure _) hon]
      rfl

/-- What reading a directory gives: the name of its group, and the records of its sources one after
the other. -/
theorem read_result (settings : Settings) {directory : String} {files : FileTree}
    {listed : List String} (hlist : files.list directory = .ok listed) :
    ((read settings directory).on files).1 =
      (groupNameResult files directory).bind fun group =>
        ((listedSources settings files directory listed).mapM fun name =>
          sourceResult settings files (FilePath.join directory name)).map fun records =>
            ⟨group, records.flatten⟩ := by
  have hgroup := readGroupName_on directory files
  rw [read_eq]
  cases hname : groupNameResult files directory with
  | error e =>
    rw [hname] at hgroup
    rw [Run.on_bind_error hgroup]
    rfl
  | ok group =>
    rw [hname] at hgroup
    obtain ⟨skipped, hsources⟩ := sources_on_ok settings hlist
    have hpaths : sourcePaths settings files directory listed =
        (listedSources settings files directory listed).map (FilePath.join directory) := rfl
    rw [Run.on_bind_of hgroup, Run.on_bind_ok (additive_readKnown _ _ _) hsources,
      readKnown_result, hpaths, List.mapM_map]
    rfl

/-- Results for each element, or the first element that has none. -/
theorem mapM_cases {α β ε : Type} (f : α → Except ε β) (as : List α) :
    (∃ bs, as.mapM f = .ok bs ∧ List.Forall₂ (fun a b => f a = .ok b) as bs) ∨
      ∃ before a after e, as = before ++ a :: after ∧ (∀ b ∈ before, ∃ c, f b = .ok c) ∧
        f a = .error e ∧ as.mapM f = .error e := by
  induction as with
  | nil => exact .inl ⟨[], rfl, .nil⟩
  | cons a as ih =>
    rw [List.mapM_cons]
    cases ha : f a with
    | error e => exact .inr ⟨[], a, as, e, rfl, by simp, ha, rfl⟩
    | ok b =>
      rcases ih with ⟨bs, hbs, hall⟩ | ⟨before, a', after, e, rfl, hbefore, ha', he⟩
      · exact .inl ⟨b :: bs, by rw [hbs]; rfl, .cons ha hall⟩
      · refine .inr ⟨a :: before, a', after, e, rfl, ?_, ha', by rw [he]; rfl⟩
        exact List.forall_mem_cons.mpr ⟨⟨b, ha⟩, hbefore⟩

/-- The records of the file that a path leads to. -/
def Reads (settings : Settings) (files : FileTree) (path : String) (records : List Record) : Prop :=
  ∃ text, files.read path = .ok text ∧
    (Extraction.records settings.tagAttribute text).1 = .ok records

theorem sourceResult_eq_ok_iff {settings : Settings} {files : FileTree} {path : String}
    {records : List Record} :
    sourceResult settings files path = .ok records ↔ Reads settings files path records := by
  rw [sourceResult, Reads]
  cases files.read path with
  | error e => simp
  | ok text =>
    cases hresult : (Extraction.records settings.tagAttribute text).1 <;>
      simp [Except.mapError, hresult]

/-- How reading the sources of a directory ends, if they have these names and are read in this
order. -/
inductive ReadsAs (settings : Settings) (files : FileTree) (directory : String)
    (names : List String) : Except Failure SourceDirectory → Prop
  /-- No module can have the name of the directory: no source is read. -/
  | unnamed {e : Failure} (hgroup : groupNameResult files directory = .error e) :
    ReadsAs settings files directory names (.error e)
  /-- The first source with a failure is no text. -/
  | unreadable {group : String} (hgroup : groupNameResult files directory = .ok group)
    {before after : List String} {name : String} (hnames : names = before ++ name :: after)
    (hbefore : ∀ earlier ∈ before, ∃ records,
      Reads settings files (FilePath.join directory earlier) records)
    (hread : files.read (FilePath.join directory name) = .error .notText) :
    ReadsAs settings files directory names
      (.error (.during .reading (FilePath.join directory name) (.file .notText)))
  /-- The first source with a failure cannot be parsed. -/
  | unparsable {group : String} (hgroup : groupNameResult files directory = .ok group)
    {before after : List String} {name : String} (hnames : names = before ++ name :: after)
    (hbefore : ∀ earlier ∈ before, ∃ records,
      Reads settings files (FilePath.join directory earlier) records)
    {text : String} (hread : files.read (FilePath.join directory name) = .ok text)
    {e : Source.SourceError}
    (hparse : (Extraction.records settings.tagAttribute text).1 = .error e) :
    ReadsAs settings files directory names
      (.error (.during .parsing (FilePath.join directory name) (.source e)))
  /-- All sources have records, which stand one after the other. -/
  | complete {group : String} (hgroup : groupNameResult files directory = .ok group)
    {records : List (List Record)}
    (hall : List.Forall₂ (fun name => Reads settings files (FilePath.join directory name)) names
      records) :
    ReadsAs settings files directory names (.ok ⟨group, records.flatten⟩)

/-- A file that cannot be read is no text. -/
theorem read_error_of_isFile {files : FileTree} {path : String} (h : files.isFile path = true)
    {e : FileError} (he : files.read path = .error e) : e = .notText := by
  obtain ⟨location, text, hl, hfile⟩ := isFile_iff.mp h
  cases text with
  | none => simpa [FileTree.read, hl, hfile, bind, Except.bind, eq_comm] using he
  | some text => simp [FileTree.read, hl, hfile, bind, Except.bind] at he

/-- Sources that are files are read until one of them is no text or cannot be parsed. -/
theorem readsAs_of_isFile (settings : Settings) (files : FileTree) (directory : String)
    {names : List String}
    (hfile : ∀ name ∈ names, files.isFile (FilePath.join directory name) = true) :
    ReadsAs settings files directory names
      ((groupNameResult files directory).bind fun group =>
        (names.mapM fun name => sourceResult settings files (FilePath.join directory name)).map
          fun records => ⟨group, records.flatten⟩) := by
  cases hgroup : groupNameResult files directory with
  | error e => exact .unnamed hgroup
  | ok group =>
    show ReadsAs settings files directory names (Except.map _ _)
    rcases mapM_cases (fun name => sourceResult settings files (FilePath.join directory name)) names
      with ⟨records, hrecords, hall⟩ | ⟨before, name, after, e, hnames, hbefore, he, hfailure⟩
    · rw [hrecords]
      exact .complete hgroup (hall.imp fun _ _ => sourceResult_eq_ok_iff.mp)
    · have hbefore (earlier : String) (hearlier : earlier ∈ before) :
          ∃ records, Reads settings files (FilePath.join directory earlier) records := by
        obtain ⟨records, hrecords⟩ := hbefore earlier hearlier
        exact ⟨records, sourceResult_eq_ok_iff.mp hrecords⟩
      rw [hfailure]
      rw [sourceResult] at he
      split at he
      · next e' hread =>
        obtain rfl := Except.error.inj he
        obtain rfl := read_error_of_isFile (hfile name (by simp [hnames])) hread
        exact .unreadable hgroup hnames hbefore hread
      · next text hread =>
        cases hparse : (Extraction.records settings.tagAttribute text).1 with
        | error e' =>
          rw [hparse] at he
          obtain rfl := Except.error.inj he
          exact .unparsable hgroup hnames hbefore hread hparse
        | ok records =>
          rw [hparse] at he
          cases he

/-- What reading gives, source by source, is the same for the same files in another order. -/
theorem read_eq_of_reordered (settings : Settings) {directory : String} {files files' : FileTree}
    (h : files.WellNamed) (hreordered : Reordered files files') {listed : List String}
    (hlist : files.list directory = .ok listed) :
    ((read settings directory).on files').1 = ((read settings directory).on files).1 := by
  obtain ⟨listed', hlist', hperm⟩ := hreordered.list h hlist
  have hgroup : groupNameResult files' directory = groupNameResult files directory := by
    rw [groupNameResult, groupNameResult, hreordered.resolve_eq h]
  have hsource : sourceResult settings files' = sourceResult settings files := by
    funext path
    rw [sourceResult, sourceResult, hreordered.read_eq h]
  rw [read_result settings hlist', read_result settings hlist, hgroup, hsource,
    listedSources_reordered settings directory h hreordered hperm]

/-- **Reading a directory does not depend on the order of the listing.** The sources are the files
with the extension `rs`, unless they were generated, and are read in the order of the bytes of their
names; the first that cannot be read or parsed gives the failure. -/
theorem read_reordered (settings : Settings) (directory : String) {files files' : FileTree}
    (h : files.WellNamed) (hreordered : Reordered files files') {listed : List String}
    (hlist : files.list directory = .ok listed) :
    ((read settings directory).on files').1 = ((read settings directory).on files).1 ∧
      ∃ names : List String,
        names.Pairwise (fun a b => Text.bytes a < Text.bytes b) ∧
        (∀ name, name ∈ names ↔
          name ∈ listed ∧ files.isFile (FilePath.join directory name) = true ∧
            FilePath.extension? name = some "rs" ∧
            ¬(settings.generatedEnding ≠ "" ∧
              name.endsWith settings.generatedEnding = true)) ∧
        ReadsAs settings files directory names ((read settings directory).on files).1 := by
  refine ⟨read_eq_of_reordered settings h hreordered hlist,
    listedSources settings files directory listed, ?_, fun name => mem_listedSources, ?_⟩
  · obtain ⟨location, -, -, rfl⟩ := exists_of_list hlist
    exact pairwise_listedSources settings files directory
      (nodup_namesAt_of_unique h.unique location)
  · rw [read_result settings hlist]
    exact readsAs_of_isFile settings files directory fun name hname =>
      (mem_listedSources.mp hname).2.1

namespace Example

/-- A directory with a source that is no text, one that is, and a link to it. -/
def files : FileTree :=
  ⟨[(["m"], .directory), (["b.rs", "m"], .file none), (["a.rs", "m"], .file (some "struct User;")),
    (["c.rs", "m"], .link "a.rs")], []⟩

/-- The same the other way round. -/
def reversed : FileTree := ⟨files.entries.reverse, []⟩

theorem reordered : Reordered files reversed := ⟨rfl, List.reverse_perm _⟩

theorem list_files : files.list "m" = .ok ["b.rs", "a.rs", "c.rs"] := by
  have hcomponents : FilePath.components "" = [] := by simp [FilePath.components, Text.pieces]
  have hcurrent : files.walk linkLimit (startOf files.current "") (FilePath.components "") =
      .ok [] := by
    rw [hcomponents]
    exact walk_eq_ok.mpr ⟨linkLimit, follow.eq_1 ..⟩
  have hnode : files.node? ["m"] = some .directory := rfl
  have hresolve : files.resolve (FilePath.join "" "m") = .ok ["m"] :=
    resolve_join_of_walk (by decide) (by decide) hnode rfl hcurrent
  have hjoin : FilePath.join "" "m" = "m" := by simp [FilePath.join]
  rw [hjoin] at hresolve
  exact list_of_resolve hresolve (by decide)

end Example

/-- The same for a directory that is listed the other way round. -/
theorem read_reordered_reversed :
    ((read .default "m").on Example.reversed).1 = ((read .default "m").on Example.files).1 ∧
      ∃ names : List String,
        names.Pairwise (fun a b => Text.bytes a < Text.bytes b) ∧
        (∀ name, name ∈ names ↔ name ∈ ["b.rs", "a.rs", "c.rs"] ∧
          Example.files.isFile (FilePath.join "m" name) = true ∧
          FilePath.extension? name = some "rs" ∧
          ¬(Settings.default.generatedEnding ≠ "" ∧
            name.endsWith Settings.default.generatedEnding = true)) ∧
        ReadsAs .default Example.files "m" names ((read .default "m").on Example.files).1 :=
  read_reordered .default "m" (by decide) Example.reordered Example.list_files

end SourceDirectory

end RequestBinding
