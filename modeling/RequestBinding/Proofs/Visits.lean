import RequestBinding.Proofs.GenerationFrame

/-!
# Directories one after another

If each directory has a module of its own, then the directories are visited in order, and each is
read from the tree that the modules before it left. A run stops at the first visit that fails; what
was written by then stays (`Course`). Of several modules written to one file the last one is held.

## Main statements

* `Visits` — visits that went well, and the tree that they lead to.
* `Course` — a run is a list of visits, and one more that failed if the run did; `each_on`.
* `Visits.run` — the other way round: visits make up a run.
* `Visits.holds` — what each file holds that was written.
* `Course.file_cases` — each file is as it was, or holds a module.
* `generate_course` — what a generation does, whatever the plan is.
-/

namespace RequestBinding.Generation

open FileTree SourceDirectory

/-- A directory that was dealt with, and what was read of it. -/
structure Visit where
  job : Job
  read : SourceDirectory

namespace Visit

/-- A module was written, since there are records. -/
def wrote (visit : Visit) : Bool := !visit.read.records.isEmpty

/-- The path of the module. -/
def path (visit : Visit) : String := (visit.job.place visit.read).1

/-- The text of the module. -/
def text (visit : Visit) : String :=
  BindingsModule.text (visit.job.place visit.read).2 visit.read.records

/-- The path of the module if one was written. -/
def path? (visit : Visit) : Option String := if visit.wrote then some visit.path else none

theorem wrote_iff {visit : Visit} : visit.wrote = true ↔ visit.read.records ≠ [] := by
  simp [wrote]

/-- The directory gave these records when it was read. -/
def ReadFrom (settings : Settings) (visit : Visit) (files : FileTree) : Prop :=
  ((SourceDirectory.read settings visit.job.directory).on files).1 = .ok visit.read

/-- Writes the module. -/
def write (visit : Visit) : Run Unit :=
  writeModule visit.path visit.read.records (visit.job.place visit.read).2

end Visit

/-- The paths that visits wrote to, in order. -/
def writtenPaths (visits : List Visit) : List String := visits.filterMap (·.path?)

theorem mem_writtenPaths {visits : List Visit} {path : String} :
    path ∈ writtenPaths visits ↔ ∃ visit ∈ visits, visit.wrote = true ∧ visit.path = path := by
  simp [writtenPaths, Visit.path?, List.mem_filterMap]

theorem writtenPaths_cons (visit : Visit) (visits : List Visit) :
    writtenPaths (visit :: visits) = visit.path?.toList ++ writtenPaths visits := by
  rw [writtenPaths, List.filterMap_cons]
  cases visit.path? <;> rfl

theorem writtenPaths_append (visits more : List Visit) :
    writtenPaths (visits ++ more) = writtenPaths visits ++ writtenPaths more :=
  List.filterMap_append

/-- A visit that goes well, and the tree that it leaves. -/
inductive Visit.Leads (settings : Settings) (visit : Visit) (files : FileTree) : FileTree → Prop
  | nothing : visit.ReadFrom settings files → visit.read.records = [] →
    Leads settings visit files files
  | written {s : RunState} : visit.ReadFrom settings files → visit.read.records ≠ [] →
    visit.write.on files = (.ok (), s) → Leads settings visit files s.files

/-- A visit that fails, the tree that it leaves, and the paths that it wrote to. -/
inductive Fails (settings : Settings) (job : Job) (files : FileTree) :
    Failure → FileTree → List String → Prop
  | unread {e : Failure} :
    ((SourceDirectory.read settings job.directory).on files).1 = .error e →
    Fails settings job files e files []
  | unwritten {read : SourceDirectory} {e : Failure} {s : RunState} :
    Visit.ReadFrom settings ⟨job, read⟩ files → read.records ≠ [] →
    (Visit.write ⟨job, read⟩).on files = (.error e, s) →
    Fails settings job files e s.files [Visit.path ⟨job, read⟩]

/-- Visits that lead from one tree to another, each reading what the ones before it left. -/
inductive Visits (settings : Settings) : FileTree → List Visit → FileTree → Prop
  | nil {files : FileTree} : Visits settings files [] files
  | cons {files mid after : FileTree} {visit : Visit} {more : List Visit} :
    visit.Leads settings files mid → Visits settings mid more after →
    Visits settings files (visit :: more) after

/-! ## Runs as visits -/

section

variable {settings : Settings} {files mid after : FileTree} {visit : Visit}

namespace Visit

theorem path?_of_nothing (h : visit.read.records = []) : visit.path? = none := by
  simp [path?, wrote, h]

theorem path?_of_wrote (h : visit.read.records ≠ []) : visit.path? = some visit.path :=
  if_pos (wrote_iff.mpr h)

theorem Leads.readFrom (hleads : visit.Leads settings files mid) :
    visit.ReadFrom settings files := by
  cases hleads <;> assumption

theorem eq_of_readFrom {visit' : Visit} (hjob : visit.job = visit'.job)
    (h : visit.ReadFrom settings files) (h' : visit'.ReadFrom settings files) : visit = visit' := by
  cases visit
  cases visit'
  obtain rfl := hjob
  obtain rfl := Except.ok.inj (h.symm.trans h')
  rfl

/-- A visit that goes well is run without failure. -/
theorem Leads.run (h : files.Plain) (hleads : visit.Leads settings files mid) :
    ∃ s, (visit.job.run settings false).on files = (.ok visit.path?, s) ∧ s.files = mid ∧
      s.emitted = visit.path?.toList := by
  cases hleads with
  | nothing hread hempty =>
    rw [path?_of_nothing hempty]
    exact Job.run_on_nothing h hread false hempty
  | written hread hne hwrite =>
    rw [path?_of_wrote hne]
    exact Job.run_on_written h hread hne hwrite

/-- What a visit does to the tree. -/
theorem Leads.growth (h : files.Plain) (hleads : visit.Leads settings files mid) :
    Growth (mid.Reaches (parents visit.path?.toList)) (mid.Reaches visit.path?.toList)
      files mid := by
  cases hleads with
  | nothing => exact .refl files
  | written hread hne hwrite =>
    rw [path?_of_wrote hne]
    exact (written_of_on h hwrite).2.growth

/-- After a visit that wrote a module, its path leads to the text. -/
theorem Leads.holds (h : files.Plain) (hleads : visit.Leads settings files mid)
    (hwrote : visit.wrote = true) :
    ∃ location, mid.resolve visit.path = .ok location ∧
      mid.node? location = some (.file (some visit.text)) := by
  cases hleads with
  | nothing hread hempty => exact absurd hempty (wrote_iff.mp hwrote)
  | written hread hne hwrite => exact (written_of_on h hwrite).2.holds rfl

/-- A visit whose module can be written. -/
theorem Leads.of_join (h : files.Plain) (hread : visit.ReadFrom settings files)
    (hne : visit.read.records ≠ []) {directory name : String}
    (hpath : visit.path = FilePath.join directory name) (hdirectory : FilePath.IsName directory)
    (hname : FilePath.IsName name) {outer : Location}
    (houter : files.resolve directory = .ok outer) (hdir : files.isDirectoryAt outer = true)
    (hno : files.node? (name :: outer) ≠ some .directory) :
    visit.Leads settings files (files.put (name :: outer) (.file (some visit.text))) := by
  obtain ⟨printed, hwrite⟩ := writeModule_join h hdirectory hname houter hdir hno
    visit.read.records (visit.job.place visit.read).2
  rw [← hpath] at hwrite
  exact .written hread hne hwrite

end Visit

theorem Visits.leads_of_cons {more : List Visit}
    (hvisits : Visits settings files (visit :: more) after) :
    ∃ mid, visit.Leads settings files mid ∧ Visits settings mid more after := by
  cases hvisits with
  | cons hleads hmore => exact ⟨_, hleads, hmore⟩

/-- What visits do to the tree. -/
theorem Visits.growth (h : files.Plain) {visits : List Visit}
    (hvisits : Visits settings files visits after) :
    Growth (after.Reaches (parents (writtenPaths visits)))
      (after.Reaches (writtenPaths visits)) files after := by
  induction hvisits with
  | nil => exact .refl _
  | @cons files mid after visit more hleads hmore ih =>
    rw [writtenPaths_cons]
    exact growth_append h (hleads.growth h) (ih ((hleads.growth h).plain h))

theorem Fails.growth (h : files.Plain) {job : Job} {e : Failure} {paths : List String}
    (hfails : Fails settings job files e after paths) :
    Growth (fun _ => True) (fun _ => True) files after := by
  cases hfails with
  | unread => exact .refl files
  | unwritten _ _ hwrite =>
    exact (written_of_on h hwrite).2.growth.mono (fun _ _ => trivial) fun _ _ => trivial

/-- A visit that fails leaves each file as it was. -/
theorem Fails.file (h : files.Plain) {job : Job} {e : Failure} {paths : List String}
    (hfails : Fails settings job files e after paths) {location : Location} {text : Option String}
    (hfile : after.node? location = some (.file text)) :
    files.node? location = after.node? location := by
  cases hfails with
  | unread => rfl
  | unwritten _ _ hwrite =>
    rw [hfile]
    exact ((written_of_on h hwrite).2.unwritten e rfl).file_of_not_written hfile id

/-- Each directory was read from the tree that the visits before it left. -/
theorem Visits.split {visits : List Visit} (hvisits : Visits settings files visits after)
    {visit : Visit} (hmem : visit ∈ visits) :
    ∃ before more tree, visits = before ++ visit :: more ∧
      Visits settings files before tree ∧ visit.ReadFrom settings tree := by
  induction hvisits with
  | nil => cases hmem
  | @cons files mid after first rest hleads hrest ih =>
    rcases List.mem_cons.mp hmem with rfl | hmem
    · exact ⟨[], rest, files, rfl, .nil, hleads.readFrom⟩
    · obtain ⟨before, more, tree, rfl, hbefore, hread⟩ := ih hmem
      exact ⟨first :: before, more, tree, rfl, .cons hleads hbefore, hread⟩

theorem Visits.origin (h : files.Plain) {visits : List Visit}
    (hvisits : Visits settings files visits after) {visit : Visit} (hmem : visit ∈ visits) :
    ∃ tree : FileTree, tree.Plain ∧ visit.ReadFrom settings tree := by
  obtain ⟨before, more, tree, -, hbefore, hread⟩ := hvisits.split hmem
  exact ⟨tree, (hbefore.growth h).plain h, hread⟩

/-- A job is run as a visit or fails. -/
theorem Job.run_cases (settings : Settings) (h : files.Plain) (job : Job) :
    (∃ visit mid, visit.job = job ∧ Visit.Leads settings visit files mid) ∨
      ∃ e s paths, (job.run settings false).on files = (.error e, s) ∧
        Fails settings job files e s.files paths ∧ s.emitted = paths := by
  obtain ⟨result, told, hon, -⟩ := read_on settings job.directory h
  have hread : ((SourceDirectory.read settings job.directory).on files).1 = result := by rw [hon]
  cases result with
  | error e =>
    obtain ⟨s, hrun, rfl, hemitted⟩ := Job.run_on_unread h false hread
    exact .inr ⟨e, s, [], hrun, .unread hread, hemitted⟩
  | ok read =>
    by_cases hempty : read.records = []
    · exact .inl ⟨⟨job, read⟩, files, rfl, .nothing hread hempty⟩
    · obtain ⟨result, t, hwrite, -⟩ :=
        writeModule_on h (job.place read).1 read.records (job.place read).2
      cases result with
      | error e =>
        obtain ⟨s, hrun, hfiles, hemitted⟩ := Job.run_on_written h hread hempty hwrite
        exact .inr ⟨e, s, _, hrun, hfiles ▸ .unwritten hread hempty hwrite, hemitted⟩
      | ok _ => exact .inl ⟨⟨job, read⟩, t.files, rfl, .written hread hempty hwrite⟩

/-- How a run for each of some directories goes: it is made up of visits, and stops at the first one
that fails. -/
inductive Course (settings : Settings) (files : FileTree) (visits : List Visit) :
    List Job → Except Failure (List (Option String)) → FileTree → List String → Prop
  | finished {after : FileTree} : Visits settings files visits after →
    Course settings files visits (visits.map (·.job)) (.ok (visits.map (·.path?))) after
      (writtenPaths visits)
  | stopped {mid after : FileTree} {job : Job} {rest : List Job} {e : Failure}
      {paths : List String} :
    Visits settings files visits mid → Fails settings job mid e after paths →
    Course settings files visits (visits.map (·.job) ++ job :: rest) (.error e) after
      (writtenPaths visits ++ paths)

/-- A visit before others. -/
theorem Course.cons {visits : List Visit} {all : List Job}
    {result : Except Failure (List (Option String))} {paths : List String}
    (hleads : visit.Leads settings files mid)
    (h : Course settings mid visits all result after paths) :
    Course settings files (visit :: visits) (visit.job :: all) (result.map (visit.path? :: ·))
      after (visit.path?.toList ++ paths) := by
  cases h with
  | finished hvisits => exact writtenPaths_cons visit visits ▸ .finished (.cons hleads hvisits)
  | stopped hvisits hfails =>
    rw [← List.append_assoc, ← writtenPaths_cons]
    exact .stopped (.cons hleads hvisits) hfails

/-- Each path that is written to is that of a module, for a directory that was read. -/
theorem Course.origin (h : files.Plain) {visits : List Visit} {all : List Job}
    {result : Except Failure (List (Option String))} {paths : List String}
    (hcourse : Course settings files visits all result after paths) {path : String}
    (hpath : path ∈ paths) :
    ∃ (tree : FileTree) (visit : Visit), tree.Plain ∧ visit.ReadFrom settings tree ∧
      visit.job ∈ all ∧ path = visit.path := by
  have hwritten {mid : FileTree} (hvisits : Visits settings files visits mid)
      (hpath : path ∈ writtenPaths visits) :
      ∃ (tree : FileTree) (visit : Visit), tree.Plain ∧ visit.ReadFrom settings tree ∧
        visit.job ∈ visits.map (·.job) ∧ path = visit.path := by
    obtain ⟨visit, hmem, -, rfl⟩ := mem_writtenPaths.mp hpath
    obtain ⟨tree, htree, hread⟩ := hvisits.origin h hmem
    exact ⟨tree, visit, htree, hread, List.mem_map_of_mem hmem, rfl⟩
  cases hcourse with
  | finished hvisits => exact hwritten hvisits hpath
  | @stopped mid after job rest e paths hvisits hfails =>
    rcases List.mem_append.mp hpath with hpath | hpath
    · obtain ⟨tree, visit, htree, hread, hjob, rfl⟩ := hwritten hvisits hpath
      exact ⟨tree, visit, htree, hread, List.mem_append_left _ hjob, rfl⟩
    · cases hfails with
      | unread => cases hpath
      | @unwritten read _ s hread =>
        obtain rfl := List.mem_singleton.mp hpath
        exact ⟨mid, ⟨job, read⟩, (hvisits.growth h).plain h, hread, by simp, rfl⟩

theorem each_on (settings : Settings) (h : files.Plain) (all : List Job) :
    ∃ visits result s, (all.mapM (Job.run settings false)).on files = (result, s) ∧
      Course settings files visits all result s.files s.emitted := by
  induction all generalizing files with
  | nil => exact ⟨[], _, _, Run.on_mapM_nil, .finished .nil⟩
  | cons job all ih =>
    rcases Job.run_cases settings h job with
      ⟨visit, mid, rfl, hleads⟩ | ⟨e, s, paths, hrun, hfails, rfl⟩
    · obtain ⟨s, hrun, rfl, hemitted⟩ := hleads.run h
      obtain ⟨visits, result, t, hmore, hcourse⟩ := ih ((hleads.growth h).plain h)
      rw [Run.on_mapM_cons_ok (Job.additive_run settings false) hrun, hmore]
      refine ⟨visit :: visits, _, _, rfl, ?_⟩
      rw [RunState.emitted_append, hemitted]
      exact hcourse.cons hleads
    · exact ⟨[], _, s, Run.on_mapM_cons_error hrun, .stopped .nil hfails⟩

end

/-- The last of the visits that wrote to a location. -/
def lastTo? (after : FileTree) (location : Location) (visits : List Visit) : Option Visit :=
  (visits.filter fun visit =>
    visit.wrote && (after.resolve visit.path).toOption = some location).getLast?

theorem toOption_eq_some {result : Except FileError Location} {location : Location} :
    result.toOption = some location ↔ result = .ok location := by
  cases result <;> simp [Except.toOption]

theorem mem_of_lastTo? {after : FileTree} {location : Location} {visits : List Visit} {last : Visit}
    (h : lastTo? after location visits = some last) :
    last ∈ visits ∧ last.wrote = true ∧ after.resolve last.path = .ok location := by
  obtain ⟨hmem, hlast⟩ := List.mem_filter.mp (List.mem_of_getLast? h)
  exact ⟨hmem, by simpa [toOption_eq_some] using hlast⟩

theorem lastTo?_eq_none {after : FileTree} {location : Location} {visits : List Visit} :
    lastTo? after location visits = none ↔ ¬after.Reaches (writtenPaths visits) location := by
  rw [lastTo?, List.getLast?_eq_none_iff, List.filter_eq_nil_iff]
  simp only [Bool.and_eq_true, decide_eq_true_eq, toOption_eq_some, Reaches, mem_writtenPaths,
    not_exists, not_and]
  constructor
  · rintro h _ ⟨visit, hvisit, hwrote, rfl⟩ hresolve
    exact h visit hvisit hwrote hresolve
  · exact fun h visit hvisit hwrote => h visit.path ⟨visit, hvisit, hwrote, rfl⟩

namespace Visits

section

variable {settings : Settings} {files after : FileTree} {visits : List Visit}

/-- Visits make up a run that succeeds. -/
theorem run (h : files.Plain) (hvisits : Visits settings files visits after) :
    ∃ s, ((visits.map (·.job)).mapM (Job.run settings false)).on files =
        (.ok (visits.map (·.path?)), s) ∧
      s.files = after ∧ s.emitted = writtenPaths visits := by
  induction hvisits with
  | nil => exact ⟨_, Run.on_mapM_nil, rfl, rfl⟩
  | @cons files mid after visit more hleads hmore ih =>
    obtain ⟨s, hrun, rfl, hemitted⟩ := hleads.run h
    obtain ⟨t, hrest, hfiles, hpaths⟩ := ih ((hleads.growth h).plain h)
    rw [List.map_cons, Run.on_mapM_cons_ok (Job.additive_run settings false) hrun, hrest]
    refine ⟨_, rfl, hfiles, ?_⟩
    rw [RunState.emitted_append, hemitted, hpaths, writtenPaths_cons]

theorem resolve_of_mem (h : files.Plain) (hvisits : Visits settings files visits after)
    {visit : Visit} (hmem : visit ∈ visits) (hwrote : visit.wrote = true) :
    ∃ location, after.resolve visit.path = .ok location := by
  induction hvisits with
  | nil => cases hmem
  | @cons files mid after first more hleads hmore ih =>
    have hplain := (hleads.growth h).plain h
    rcases List.mem_cons.mp hmem with rfl | hmem
    · obtain ⟨l, hl, -⟩ := hleads.holds h hwrote
      exact ⟨l, (hmore.growth hplain).resolve hplain hl⟩
    · exact ih hplain hmem

/-- Each module was written to a plain tree that has only grown since. -/
theorem write_of_mem (h : files.Plain) (hvisits : Visits settings files visits after)
    {visit : Visit} (hmem : visit ∈ visits) (hwrote : visit.wrote = true) :
    ∃ (tree : FileTree) (s : RunState), tree.Plain ∧ visit.write.on tree = (.ok (), s) ∧
      Growth (fun _ => True) (fun _ => True) s.files after := by
  induction hvisits with
  | nil => cases hmem
  | @cons files mid after first more hleads hmore ih =>
    have hplain := (hleads.growth h).plain h
    rcases List.mem_cons.mp hmem with rfl | hmem
    · cases hleads with
      | nothing hread hempty => exact absurd hempty (Visit.wrote_iff.mp hwrote)
      | written hread hne hwrite =>
        exact ⟨files, _, h, hwrite, (hmore.growth hplain).mono (fun _ _ => trivial)
          fun _ _ => trivial⟩
    · exact ih hplain hmem

/-- A file that was written to holds the text of the last module written to it. -/
theorem holds (h : files.Plain) (hvisits : Visits settings files visits after)
    {location : Location} {last : Visit} (hlast : lastTo? after location visits = some last) :
    after.node? location = some (.file (some last.text)) := by
  induction hvisits with
  | nil => cases hlast
  | @cons files mid after visit more hleads hmore ih =>
    have hplain := (hleads.growth h).plain h
    have hsplit : lastTo? after location (visit :: more) =
        (lastTo? after location more).or (lastTo? after location [visit]) := by
      rw [lastTo?, lastTo?, lastTo?, ← List.getLast?_append, ← List.filter_append]
      rfl
    cases hrest : lastTo? after location more with
    | some last' =>
      obtain rfl : last' = last := by simpa [hsplit, hrest] using hlast
      exact ih hplain hrest
    | none =>
      -- No later module is written to the location, so that of this visit stays.
      have hkept := lastTo?_eq_none.mp hrest
      obtain ⟨rfl, hwrote, hresolve⟩ : last = visit ∧ visit.wrote = true ∧
          after.resolve visit.path = .ok location := by
        rw [hsplit, hrest, Option.none_or] at hlast
        obtain ⟨hmem, hfound⟩ := mem_of_lastTo? hlast
        obtain rfl := List.mem_singleton.mp hmem
        exact ⟨rfl, hfound⟩
      obtain ⟨l, hl, hnode⟩ := hleads.holds h hwrote
      have hgrowth := hmore.growth hplain
      obtain rfl : l = location :=
        Except.ok.inj ((hgrowth.resolve hplain hl).symm.trans hresolve)
      exact hgrowth.node?_of_not_written hnode hkept

/-- The path of a module that was written leads to the file that holds it, unless that was written
to again. -/
theorem holds_of_mem (h : files.Plain) (hvisits : Visits settings files visits after)
    {visit : Visit} (hmem : visit ∈ visits) (hwrote : visit.wrote = true) :
    ∃ location last, after.resolve visit.path = .ok location ∧
      lastTo? after location visits = some last ∧
      after.node? location = some (.file (some last.text)) := by
  obtain ⟨location, hresolve⟩ := hvisits.resolve_of_mem h hmem hwrote
  have hreaches : after.Reaches (writtenPaths visits) location :=
    ⟨visit.path, mem_writtenPaths.mpr ⟨visit, hmem, hwrote, rfl⟩, hresolve⟩
  cases hlast : lastTo? after location visits with
  | none => exact absurd hreaches (lastTo?_eq_none.mp hlast)
  | some last => exact ⟨location, last, hresolve, hlast, hvisits.holds h hlast⟩

end

end Visits

section

variable {settings : Settings} {files after : FileTree} {visits : List Visit} {location : Location}
  {text : Option String}

/-- A file that is there after visits is as it was before, or it holds the module of one of them. -/
theorem Visits.file_cases (h : files.Plain) (hvisits : Visits settings files visits after)
    (hfile : after.node? location = some (.file text)) :
    (files.node? location = after.node? location ∧ ¬after.Reaches (writtenPaths visits) location) ∨
      ∃ (before : List Visit) (visit : Visit) (more : List Visit) (tree : FileTree),
        visits = before ++ visit :: more ∧ Visits settings files before tree ∧
          visit.ReadFrom settings tree ∧ visit.wrote = true ∧
          after.resolve visit.path = .ok location ∧
          after.node? location = some (.file (some visit.text)) := by
  cases hlast : lastTo? after location visits with
  | none =>
    have hnot := lastTo?_eq_none.mp hlast
    rw [hfile]
    exact .inl ⟨(hvisits.growth h).file_of_not_written hfile hnot, hnot⟩
  | some last =>
    obtain ⟨hmem, hwrote, hresolve⟩ := mem_of_lastTo? hlast
    obtain ⟨before, more, tree, hsplit, hbefore, hread⟩ := hvisits.split hmem
    exact .inr ⟨before, last, more, tree, hsplit, hbefore, hread, hwrote, hresolve,
      hvisits.holds h hlast⟩

/-- A file that is there after a run is as it was before, or it holds the module of a visit. After a
run that succeeded it holds one if it was written to. -/
theorem Course.file_cases (h : files.Plain) {all : List Job}
    {result : Except Failure (List (Option String))} {paths : List String}
    (hcourse : Course settings files visits all result after paths)
    (hfile : after.node? location = some (.file text)) :
    (files.node? location = after.node? location ∧
        (after.Reaches paths location → ∃ e, result = .error e)) ∨
      ∃ (before : List Visit) (visit : Visit) (rest : List Job) (tree : FileTree),
        all = before.map (·.job) ++ visit.job :: rest ∧ Visits settings files before tree ∧
          visit.ReadFrom settings tree ∧ visit.wrote = true ∧ visit.path ∈ paths ∧
          after.resolve visit.path = .ok location ∧
          after.node? location = some (.file (some visit.text)) := by
  cases hcourse with
  | finished hvisits =>
    rcases hvisits.file_cases h hfile with
      ⟨hsame, hnot⟩ | ⟨before, visit, more, tree, rfl, hbefore, hread, hwrote, hresolve, hholds⟩
    · exact .inl ⟨hsame, fun hreaches => absurd hreaches hnot⟩
    · exact .inr ⟨before, visit, more.map (·.job), tree, by simp, hbefore, hread, hwrote,
        mem_writtenPaths.mpr ⟨visit, by simp, hwrote, rfl⟩, hresolve, hholds⟩
  | @stopped mid after job rest e paths hvisits hfails =>
    have hplain := (hvisits.growth h).plain h
    have hkept := hfails.file hplain hfile
    rcases hvisits.file_cases h (hkept.trans hfile) with
      ⟨hsame, -⟩ | ⟨before, visit, more, tree, rfl, hbefore, hread, hwrote, hresolve, hholds⟩
    · exact .inl ⟨hsame.trans hkept, fun _ => ⟨e, rfl⟩⟩
    · have hmem : visit.path ∈ writtenPaths (before ++ visit :: more) :=
        mem_writtenPaths.mpr ⟨visit, by simp, hwrote, rfl⟩
      exact .inr ⟨before, visit, more.map (·.job) ++ job :: rest, tree, by simp, hbefore, hread,
        hwrote, List.mem_append_left _ hmem, (hfails.growth hplain).resolve hplain hresolve,
        hkept ▸ hholds⟩

end

/-! ## Generations -/

section

variable {settings : Settings} {plan : OutputPlan} {directories : List String} {files : FileTree}

theorem generateEach_on (settings : Settings) (h : files.Plain) (all : List Job) :
    ∃ visits result s, (generateEach settings false all).on files =
        (result.map (·.filterMap id), s) ∧
      Course settings files visits all result s.files s.emitted := by
  obtain ⟨visits, result, s, hon, hcourse⟩ := each_on settings h all
  refine ⟨visits, result, s, ?_, hcourse⟩
  rw [generateEach]
  cases result with
  | error e => exact Run.on_bind_error hon
  | ok paths =>
    rw [Run.on_bind_ok (fun _ => Run.additive_pure _) hon, Run.on_pure, RunState.append_of]
    rfl

/-- A plan with a module for each directory is carried out by visits. -/
theorem generate_on (settings : Settings) (h : files.Plain)
    (hplan : plan.error? directories.length = none)
    (hsingle : ∀ target module, plan ≠ .singleGroup target module) :
    ∃ visits result s, (generate settings false plan directories).on files =
        (result.map (·.filterMap id), s) ∧
      Course settings files visits (jobs settings plan directories) result s.files s.emitted := by
  rw [generate_eq_generateEach settings false hplan hsingle]
  exact generateEach_on settings h _

/-- What a generation can do: nothing to the files, visits of the directories, or one module. -/
theorem generate_course (h : files.Plain) {dryRun : Bool} {result : Except Failure (List String)}
    {s : RunState} (hon : (generate settings dryRun plan directories).on files = (result, s)) :
    s.files = files ∧ s.emitted = [] ∨
      (∃ visits each, result = each.map (·.filterMap id) ∧
        Course settings files visits (jobs settings plan directories) each s.files s.emitted) ∨
      ∃ target module found, plan = .singleGroup target module ∧
        WroteAll settings directories target module files found result s := by
  by_cases hquiet : (plan.error? directories.length).isSome = true ∨ dryRun = true
  · have hquiet := generate_quiet settings hquiet files h
    rw [hon] at hquiet
    exact .inl hquiet
  obtain ⟨hplan, rfl⟩ : plan.error? directories.length = none ∧ dryRun = false := by
    simpa using hquiet
  by_cases hsingle : ∀ target module, plan ≠ .singleGroup target module
  · obtain ⟨visits, each, s', hon', hcourse⟩ := generate_on settings h hplan hsingle
    obtain ⟨rfl, rfl⟩ := Prod.mk.inj (hon'.symm.trans hon)
    exact .inr (.inl ⟨visits, each, rfl, hcourse⟩)
  · obtain ⟨target, module, rfl⟩ : ∃ target module, plan = .singleGroup target module := by
      simpa using hsingle
    rcases generate_single_once h hon with hnothing | ⟨found, hwrote⟩
    · exact .inl hnothing
    · exact .inr (.inr ⟨target, module, found, rfl, hwrote⟩)

theorem error?_of_generate {dryRun : Bool} {paths : List String} {s : RunState}
    (hon : (generate settings dryRun plan directories).on files = (.ok paths, s)) :
    plan.error? directories.length = none := by
  rcases generate_cases settings dryRun plan directories with ⟨e, -, hgenerate⟩ | ⟨hplan, -⟩
  · rw [hgenerate] at hon
    cases hon
  · exact hplan

/-- If it succeeds, all directories were visited. -/
theorem visits_of_generate (h : files.Plain)
    (hsingle : ∀ target module, plan ≠ .singleGroup target module) {paths : List String}
    {s : RunState} (hon : (generate settings false plan directories).on files = (.ok paths, s)) :
    ∃ visits, jobs settings plan directories = visits.map (·.job) ∧
      Visits settings files visits s.files ∧ paths = writtenPaths visits ∧
      s.emitted = writtenPaths visits := by
  obtain ⟨visits, result, s', hon', hcourse⟩ :=
    generate_on settings h (error?_of_generate hon) hsingle
  obtain ⟨hresult, rfl⟩ := Prod.mk.inj (hon'.symm.trans hon)
  generalize hjobs : jobs settings plan directories = all at hcourse
  generalize hemitted : s'.emitted = emitted at hcourse
  generalize hfiles : s'.files = after at hcourse
  cases hcourse with
  | stopped => cases hresult
  | finished hvisits =>
    refine ⟨visits, rfl, hvisits, ?_, rfl⟩
    rw [← Except.ok.inj hresult]
    exact List.filterMap_map

/-- Visits of all directories make up a generation that succeeds. -/
theorem generate_of_visits (h : files.Plain) (hplan : plan.error? directories.length = none)
    (hsingle : ∀ target module, plan ≠ .singleGroup target module) {visits : List Visit}
    {after : FileTree} (hjobs : jobs settings plan directories = visits.map (·.job))
    (hvisits : Visits settings files visits after) :
    ∃ s, (generate settings false plan directories).on files = (.ok (writtenPaths visits), s) ∧
      s.files = after ∧ s.emitted = writtenPaths visits := by
  obtain ⟨s, hon, hfiles, hemitted⟩ := hvisits.run h
  rw [generate_eq_generateEach settings false hplan hsingle, hjobs, generateEach,
    Run.on_bind_ok (fun _ => Run.additive_pure _) hon, Run.on_pure, RunState.append_of,
    List.filterMap_map]
  exact ⟨s, rfl, hfiles, hemitted⟩

end

/-! ## An example

Two directories with a source in each, and a directory for modules.
-/

namespace Example

def files : FileTree where
  entries := [
    (["m"], .directory),
    (["user.rs", "m"],
      .file (some "struct User \x7b #[tag = \"bind:\\\"path\\\"\"] id: u8 \x7d")),
    (["k"], .directory),
    (["key.rs", "k"],
      .file (some "struct Key \x7b #[tag = \"bind:\\\"query\\\"\"] id: u8 \x7d")),
    (["out"], .directory)]
  current := []

theorem plain : files.Plain := by decide

/-- The records in the directory `m`. -/
def users : List Record := (recordsAt? .default files ["user.rs", "m"]).getD []

/-- The records in the directory `k`. -/
def keys : List Record := (recordsAt? .default files ["key.rs", "k"]).getD []

theorem eq_some_of_getD_ne {records : Option (List Record)} (h : records.getD [] ≠ []) :
    records = some (records.getD []) := by
  cases records with
  | none => exact absurd rfl h
  | some _ => rfl

theorem isModuleName_of_subset {modules : List String} (h : modules ⊆ ["x", "y", "user"]) :
    ∀ module ∈ modules, isModuleName module = true := by
  have hall : ∀ module ∈ ["x", "y", "user"], isModuleName module = true := by decide +kernel
  exact fun module hmem => hall module (h hmem)

theorem users_ne_nil : users ≠ [] := by decide +kernel

theorem keys_ne_nil : keys ≠ [] := by decide +kernel

theorem held_users : HeldAt .default files ["m"] ⟨"m", users⟩ :=
  heldAt_of_one_source "m" "user.rs" (by decide) (by decide) (eq_some_of_getD_ne users_ne_nil)

theorem held_keys : HeldAt .default files ["k"] ⟨"k", keys⟩ :=
  heldAt_of_one_source "k" "key.rs" (by decide) (by decide) (eq_some_of_getD_ne keys_ne_nil)

theorem isDirectoryAt_of_mem {directory : String} (hmem : directory ∈ ["m", "k", "out"]) :
    FilePath.IsName directory ∧ files.isDirectoryAt [directory] = true := by
  have hall : ∀ directory ∈ ["m", "k", "out"],
      FilePath.IsName directory ∧ files.isDirectoryAt [directory] = true := by decide
  exact hall directory hmem

theorem resolve_directory {directory : String} (hmem : directory ∈ ["m", "k", "out"]) :
    files.resolve directory = .ok [directory] := by
  obtain ⟨hname, hdir⟩ := isDirectoryAt_of_mem hmem
  have hsome : (files.node? [directory]).isSome := by simp [isDirectoryAt_iff.mp hdir]
  exact (plain.resolve_name hname).mpr ⟨rfl, hsome, rfl⟩

theorem join_of_mem {directory name : String} (hmem : directory ∈ ["m", "k", "out"])
    (hslash : '/' ∉ name.toList) : FilePath.join directory name = directory ++ "/" ++ name :=
  FilePath.join_of_isName (isDirectoryAt_of_mem hmem).1 hslash

section

variable {made written : Location → Prop} {later : FileTree} (h : Growth made written files later)
  {directory : String} (hmem : directory ∈ ["m", "k", "out"])

include h hmem

/-- The records of a directory are read as long as no source is written there. -/
theorem read_later {found : SourceDirectory} (hheld : HeldAt .default files [directory] found)
    (hwritten : ∀ name, written [name, directory] →
      isGenerated Settings.default.generatedEnding name = true) :
    ((SourceDirectory.read .default directory).on later).1 = .ok found := by
  exact read_of_heldAt (h.plain plain) (h.resolve plain (resolve_directory hmem))
    (h.isDirectoryAt (isDirectoryAt_of_mem hmem).2) (hheld.growth plain h hwritten)

/-- A module can be written in a directory if nothing is called like it. -/
theorem leads_later {visit : Visit} (hread : visit.ReadFrom .default later)
    (hne : visit.read.records ≠ []) {name : String} (hname : FilePath.IsName name)
    (hpath : visit.path = FilePath.join directory name)
    (hno : later.node? [name, directory] ≠ some .directory) :
    visit.Leads .default later (later.put [name, directory] (.file (some visit.text))) := by
  obtain ⟨hdirectory, hdir⟩ := isDirectoryAt_of_mem hmem
  exact .of_join (h.plain plain) hread hne hpath hdirectory hname
    (h.resolve plain (resolve_directory hmem)) (h.isDirectoryAt hdir) hno

end

theorem read_m : ((SourceDirectory.read .default "m").on files).1 = .ok ⟨"m", users⟩ := by
  have hnothing : Growth (fun _ => False) (fun _ => False) files files := .refl files
  exact read_later hnothing (by decide) held_users (by simp)

theorem readFrom_m {visit : Visit} (hdirectory : visit.job.directory = "m")
    (hread : visit.read = ⟨"m", users⟩) : visit.ReadFrom .default files := by
  rw [Visit.ReadFrom, hdirectory, hread]
  exact read_m

/-- The module of `m` beside its source. -/
def besideUsers : Visit := ⟨⟨"m", placeBeside .default "m"⟩, ⟨"m", users⟩⟩

theorem besideUsers_leads : besideUsers.Leads .default files
    (files.put ["m_bindings.rs", "m"] (.file (some besideUsers.text))) := by
  have hnothing : Growth (fun _ => False) (fun _ => False) files files := .refl files
  exact leads_later hnothing (by decide) (readFrom_m rfl rfl) users_ne_nil (by decide) rfl
    (by decide)

end Example

end RequestBinding.Generation
