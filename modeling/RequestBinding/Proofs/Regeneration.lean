import RequestBinding.Proofs.ModulePaths

/-!
# Generating beside the sources again

A module beside the sources has a name with the ending of generated files, so it is no source. While
the modules of some directories are written, what the other ones hold does not change, and two names
for one directory give one module with one text. So once all modules are written, writing them again
changes nothing, in whatever order and however often the directories are given.

## Main statements

* `generate_beside_again` — generating once more changes nothing and no module is ever read.
-/

namespace RequestBinding.Generation

open FileTree SourceDirectory

/-! ## What the directories hold -/

/-- The module of a directory beside its sources. -/
def beside (settings : Settings) (directory : String) : Job :=
  ⟨directory, placeBeside settings directory⟩

/-- The visits write modules beside sources. -/
def AllBeside (settings : Settings) (visits : List Visit) : Prop :=
  ∀ visit ∈ visits, ∃ directory, visit.job = beside settings directory

theorem text_of_beside {settings : Settings} {visits : List Visit}
    (hbeside : AllBeside settings visits) {visit : Visit} (hmem : visit ∈ visits) :
    visit.text = BindingsModule.text visit.read.groupName visit.read.records := by
  obtain ⟨directory, hjob⟩ := hbeside visit hmem
  rw [Visit.text, hjob]
  rfl

section

variable {settings : Settings} (hending : IsEnding settings.generatedEnding)
  {files after : FileTree} (h : files.Plain) {visits : List Visit}
  (hvisits : Visits settings files visits after) (hbeside : AllBeside settings visits)

include hending h hvisits hbeside

/-- Nothing but generated files is written. -/
theorem isGenerated_of_reaches {name : String} {outer : Location}
    (hl : after.Reaches (writtenPaths visits) (name :: outer)) :
    isGenerated settings.generatedEnding name = true := by
  obtain ⟨path, hpath, hl⟩ := hl
  obtain ⟨visit, hmem, -, rfl⟩ := mem_writtenPaths.mp hpath
  obtain ⟨directory, hjob⟩ := hbeside visit hmem
  obtain ⟨tree, htree, hread⟩ := hvisits.origin h hmem
  rw [Visit.path, hjob] at hl
  obtain ⟨_, -, hlocation⟩ :=
    resolve_beside hending ((hvisits.growth h).plain h) (.of_read htree hread) hl
  rw [(List.cons.inj hlocation).1]
  exact isGenerated_append hending

/-- What was read of a directory is still there at the end. -/
theorem held_of_mem {visit : Visit} (hmem : visit ∈ visits) :
    ∃ location, after.resolve visit.job.directory = .ok location ∧
      after.isDirectoryAt location = true ∧ HeldAt settings after location visit.read := by
  induction hvisits with
  | nil => cases hmem
  | @cons files mid after first more hleads hmore ih =>
    have hplain := (hleads.growth h).plain h
    rcases List.mem_cons.mp hmem with rfl | hmem
    · have hall : Visits settings files (visit :: more) after := .cons hleads hmore
      have hgrowth := hall.growth h
      obtain ⟨location, hl, hdir, hheld⟩ := heldAt_of_read h hleads.readFrom
      exact ⟨location, hgrowth.resolve h hl, hgrowth.isDirectoryAt hdir,
        hheld.growth h hgrowth fun name hl => isGenerated_of_reaches hending h hall hbeside hl⟩
    · exact ih hplain (fun visit hmem => hbeside visit (.tail _ hmem)) hmem

/-- Visits of one directory read the same, also if it is called differently. -/
theorem read_eq_of_resolve {visit visit' : Visit} (hmem : visit ∈ visits) (hmem' : visit' ∈ visits)
    (hsame : after.resolve visit.job.directory = after.resolve visit'.job.directory) :
    visit.read = visit'.read := by
  obtain ⟨location, hl, -, hheld⟩ := held_of_mem hending h hvisits hbeside hmem
  obtain ⟨location', hl', -, hheld'⟩ := held_of_mem hending h hvisits hbeside hmem'
  obtain rfl : location = location' := Except.ok.inj ((hl.symm.trans hsame).trans hl')
  exact hheld.unique hheld'

theorem eq_of_job {visit visit' : Visit} (hmem : visit ∈ visits) (hmem' : visit' ∈ visits)
    (hjob : visit.job = visit'.job) : visit = visit' := by
  have hread := read_eq_of_resolve hending h hvisits hbeside hmem hmem' (by rw [hjob])
  cases visit
  cases visit'
  exact congr (congrArg Visit.mk hjob) hread

/-- The path of a module leads into the directory that was read. -/
theorem resolve_directory_of_path {visit : Visit} (hmem : visit ∈ visits) {location : Location}
    (hl : after.resolve visit.path = .ok location) :
    ∃ outer, location = (visit.read.groupName ++ settings.generatedEnding) :: outer ∧
      after.resolve visit.job.directory = .ok outer := by
  have hplain := (hvisits.growth h).plain h
  obtain ⟨directory, hjob⟩ := hbeside visit hmem
  obtain ⟨tree, htree, hread⟩ := hvisits.origin h hmem
  obtain ⟨held, hheld, -⟩ := held_of_mem hending h hvisits hbeside hmem
  rw [Visit.path, hjob] at hl
  obtain ⟨outer, houter, rfl⟩ := resolve_beside hending hplain (.of_read htree hread) hl
  rw [hjob] at hheld ⊢
  obtain rfl : held = outer :=
    Except.ok.inj ((hplain.descend_components hheld).symm.trans houter)
  exact ⟨held, rfl, hheld⟩

/-- Each module is held as it was written, since no other one is written to its file. -/
theorem node?_of_mem {visit : Visit} (hmem : visit ∈ visits) {location : Location}
    (hl : after.resolve visit.path = .ok location) (hwrote : visit.wrote = true) :
    after.node? location = some (.file (some visit.text)) := by
  obtain ⟨location', last, hl', hlast, hnode⟩ := hvisits.holds_of_mem h hmem hwrote
  obtain rfl : location = location' := Except.ok.inj (hl.symm.trans hl')
  obtain ⟨hlastMem, -, hlastPath⟩ := mem_of_lastTo? hlast
  obtain ⟨outer, rfl, hdirectory⟩ :=
    resolve_directory_of_path hending h hvisits hbeside hmem hl
  obtain ⟨outer', hsame, hdirectory'⟩ :=
    resolve_directory_of_path hending h hvisits hbeside hlastMem hlastPath
  obtain rfl : outer = outer' := (List.cons.inj hsame).2
  have hread := read_eq_of_resolve hending h hvisits hbeside hmem hlastMem
    (hdirectory.trans hdirectory'.symm)
  rw [hnode, text_of_beside hbeside hmem, text_of_beside hbeside hlastMem, hread]

/-- Each visit could be made once more and would change nothing. -/
theorem leads_again {visit : Visit} (hmem : visit ∈ visits) : visit.Leads settings after after := by
  have hplain := (hvisits.growth h).plain h
  obtain ⟨location, hl, hdir, hheld⟩ := held_of_mem hending h hvisits hbeside hmem
  have hread : visit.ReadFrom settings after := read_of_heldAt hplain hl hdir hheld
  by_cases hempty : visit.read.records = []
  · exact .nothing hread hempty
  · have hwrote := Visit.wrote_iff.mpr hempty
    -- The module goes to the file that holds it already, as all that was written since was apart.
    obtain ⟨tree, s, htree, hwrite, hlater⟩ := hvisits.write_of_mem h hmem hwrote
    obtain ⟨printed, hagain⟩ := writeModule_again htree hwrite hlater
      fun l hl => node?_of_mem hending h hvisits hbeside hmem hl hwrote
    exact .written (s := ⟨after, printed, []⟩) hread hempty hagain

end

/-! ## Once more -/

/-- Visits that change nothing can be made in any order and any number of times. -/
theorem visits_again {settings : Settings} {after : FileTree} {visits : List Visit}
    (hleads : ∀ visit ∈ visits, visit.Leads settings after after) {all : List Job}
    (hall : ∀ job ∈ all, ∃ visit ∈ visits, visit.job = job) :
    ∃ again, again.map (·.job) = all ∧ Visits settings after again after ∧ again ⊆ visits := by
  -- No visit changes the tree, so each of them begins where the first one did.
  induction all with
  | nil => exact ⟨[], rfl, .nil, List.nil_subset _⟩
  | cons job all ih =>
    obtain ⟨again, rfl, hagain, hsub⟩ := ih fun job hjob => hall job (.tail _ hjob)
    obtain ⟨visit, hmem, rfl⟩ := hall job List.mem_cons_self
    exact ⟨visit :: again, rfl, .cons (hleads visit hmem) hagain,
      List.cons_subset.mpr ⟨hmem, hsub⟩⟩

theorem error?_sameLocation (directories : List String) :
    OutputPlan.sameLocation.error? directories.length = none ↔ directories ≠ [] := by
  cases directories with
  | nil => simp [OutputPlan.error?]
  | cons directory more => simp [OutputPlan.error?, OutputPlan.directoryCount?, OutputPlan.modules]

section

variable {settings : Settings} {directories : List String} {visits : List Visit}
  (hjobs : jobs settings .sameLocation directories = visits.map (·.job))

include hjobs

/-- The directories are those that are visited. -/
theorem visited_iff {directory : String} :
    directory ∈ directories ↔ ∃ visit ∈ visits, visit.job = beside settings directory := by
  rw [← List.mem_map (f := fun visit : Visit => visit.job), ← hjobs]
  constructor
  · exact fun hmem => List.mem_map_of_mem hmem
  · intro hmem
    obtain ⟨directory', hmem', hsame⟩ := List.mem_map.mp hmem
    obtain rfl : directory' = directory := congrArg Job.directory hsame
    exact hmem'

theorem allBeside_of_jobs : AllBeside settings visits := by
  intro visit hmem
  have hjob : visit.job ∈ jobs settings .sameLocation directories :=
    hjobs ▸ List.mem_map_of_mem hmem
  obtain ⟨directory, -, hjob⟩ := List.mem_map.mp hjob
  exact ⟨directory, hjob.symm⟩

end

theorem generate_again {settings : Settings} (hending : IsEnding settings.generatedEnding)
    {files : FileTree} (h : files.Plain) {directories paths : List String} {s : RunState}
    (hon : (generate settings false .sameLocation directories).on files = (.ok paths, s))
    {again : List String} (hsame : ∀ directory, directory ∈ again ↔ directory ∈ directories) :
    ∃ paths' s', (generate settings false .sameLocation again).on s.files = (.ok paths', s') ∧
      (∀ path, path ∈ paths' ↔ path ∈ paths) ∧ s'.files = s.files := by
  have hplan := error?_of_generate hon
  obtain ⟨visits, hjobs, hvisits, rfl, -⟩ := visits_of_generate h (by simp) hon
  have hplain := (hvisits.growth h).plain h
  have hbeside := allBeside_of_jobs hjobs
  have hall : ∀ job ∈ jobs settings .sameLocation again, ∃ visit ∈ visits, visit.job = job := by
    intro job hmem
    obtain ⟨directory, hdirectory, rfl⟩ := List.mem_map.mp hmem
    exact (visited_iff hjobs).mp ((hsame directory).mp hdirectory)
  obtain ⟨visits', hjobs', hvisits', hsub⟩ := visits_again
    (fun visit hmem => leads_again hending h hvisits hbeside hmem) hall
  -- The visits of both runs are the same ones, since a directory is visited in one way only.
  have hsub' : visits ⊆ visits' := by
    intro visit hmem
    obtain ⟨directory, hjob⟩ := hbeside visit hmem
    obtain ⟨visit', hmem', hjob'⟩ := (visited_iff hjobs'.symm).mp
      ((hsame directory).mpr ((visited_iff hjobs).mpr ⟨visit, hmem, hjob⟩))
    obtain rfl : visit = visit' :=
      eq_of_job hending h hvisits hbeside hmem (hsub hmem') (hjob.trans hjob'.symm)
    exact hmem'
  have hplan' : OutputPlan.sameLocation.error? again.length = none := by
    obtain ⟨directory, hmem⟩ := List.exists_mem_of_ne_nil _ ((error?_sameLocation _).mp hplan)
    exact (error?_sameLocation _).mpr (List.ne_nil_of_mem ((hsame directory).mpr hmem))
  obtain ⟨s', hon', hfiles, -⟩ := generate_of_visits hplain hplan' (by simp) hjobs'.symm hvisits'
  exact ⟨_, s', hon', fun path => ⟨fun hpath => List.filterMap_subset _ hsub hpath,
    fun hpath => List.filterMap_subset _ hsub' hpath⟩, hfiles⟩

/-- What is written beside sources is never read. -/
theorem not_read_of_beside {settings : Settings} (hending : IsEnding settings.generatedEnding)
    {files files' : FileTree} (h : files.Plain) (h' : files'.Plain) {dryRun dryRun' : Bool}
    {plan : OutputPlan} {directories directories' : List String}
    {result result' : Except Failure (List String)} {s s' : RunState}
    (hon : (generate settings dryRun .sameLocation directories).on files = (result, s))
    (hon' : (generate settings dryRun' plan directories').on files' = (result', s'))
    {location : Location} (hwritten : s.files.Reaches s.emitted location) :
    ¬s'.files.Reaches (Run.readPaths result' s'.events) location := by
  rintro ⟨source, hsource, hl⟩
  obtain ⟨path, hpath, hlocation⟩ := hwritten
  have hframed := generate_framed settings dryRun .sameLocation directories files h
  have hframed' := generate_framed settings dryRun' plan directories' files' h'
  rw [hon] at hframed
  rw [hon'] at hframed'
  rcases emitted_cases h hon hpath with ⟨-, directory, found, hgroup, rfl⟩ | ⟨_, _, hmem, -⟩
  · obtain ⟨outer, -, rfl⟩ :=
      resolve_beside hending (hframed.growth.plain h) hgroup hlocation
    obtain ⟨_, -, name, outer', -, hl', hsourceAt⟩ := hframed'.isSource source hsource
    obtain ⟨rfl, rfl⟩ := List.cons.inj (Except.ok.inj (hl'.symm.trans hl))
    have hgenerated := (isSourceAt_iff.mp hsourceAt).2.2
    simp [isGenerated_append hending] at hgenerated
  · cases hmem

/-- **Generating beside the sources is stable.** Once it succeeded, generating again for the same
directories, in any order and with any repetitions, gives the same paths and changes nothing. Nor is
a file that was written so ever read, by whatever plan. -/
theorem generate_beside_again {settings : Settings} (hending : IsEnding settings.generatedEnding) :
    (∀ {files : FileTree} {directories paths : List String} {s : RunState}, files.Plain →
      (generate settings false .sameLocation directories).on files = (.ok paths, s) →
      ∀ again : List String, (∀ directory, directory ∈ again ↔ directory ∈ directories) →
        ∃ paths' s', (generate settings false .sameLocation again).on s.files = (.ok paths', s') ∧
          (∀ path, path ∈ paths' ↔ path ∈ paths) ∧ s'.files = s.files) ∧
    (∀ {files files' : FileTree} {dryRun dryRun' : Bool} {plan : OutputPlan}
      {directories directories' : List String} {result result' : Except Failure (List String)}
      {s s' : RunState}, files.Plain → files'.Plain →
      (generate settings dryRun .sameLocation directories).on files = (result, s) →
      (generate settings dryRun' plan directories').on files' = (result', s') →
      ∀ location, s.files.Reaches s.emitted location →
        ¬s'.files.Reaches (Run.readPaths result' s'.events) location) :=
  ⟨fun h hon _ hsame => generate_again hending h hon hsame,
    fun h h' hon hon' _ hwritten => not_read_of_beside hending h h' hon hon' hwritten⟩

/-- Generating for a directory, and then twice for it in one run. -/
theorem generate_beside_again_twice : ∃ s paths' s',
    (generate .default false .sameLocation ["m"]).on Example.files =
        (.ok ["m/m_bindings.rs"], s) ∧
      (generate .default false .sameLocation ["m", "m"]).on s.files = (.ok paths', s') ∧
      (∀ path, path ∈ paths' ↔ path ∈ ["m/m_bindings.rs"]) ∧ s'.files = s.files ∧
      ∀ location, s.files.Reaches s.emitted location →
        ¬s'.files.Reaches (Run.readPaths (.ok paths' : Except Failure (List String)) s'.events)
          location := by
  have hending : IsEnding Settings.default.generatedEnding := ⟨by decide, by decide⟩
  have hvisits : Visits .default Example.files [Example.besideUsers] _ :=
    .cons Example.besideUsers_leads .nil
  have hplan : OutputPlan.sameLocation.error? ["m"].length = none := rfl
  obtain ⟨s, hon, hfiles, -⟩ := generate_of_visits Example.plain hplan (by simp) rfl hvisits
  have hpath : Example.besideUsers.path = "m/m_bindings.rs" :=
    (Example.join_of_mem (by decide) (by decide)).trans rfl
  have hpaths : writtenPaths [Example.besideUsers] = ["m/m_bindings.rs"] := by
    rw [writtenPaths_cons, Visit.path?_of_wrote Example.users_ne_nil, hpath]
    rfl
  rw [hpaths] at hon
  obtain ⟨paths', s', hon', hsame, hfiles'⟩ :=
    (generate_beside_again hending).1 Example.plain hon ["m", "m"] (by simp)
  have hplain : s.files.Plain := hfiles ▸ (hvisits.growth Example.plain).plain Example.plain
  exact ⟨s, paths', s', hon, hon', hsame, hfiles',
    (generate_beside_again hending).2 Example.plain hplain hon hon'⟩

end RequestBinding.Generation
