import RequestBinding.Proofs.ModulePaths

/-!
# One module for each directory

The directories and the names of the modules are paired in order; a directory without records leaves
out its module and nothing else. The modules are written one after another, so of several modules
that go to one file the last one stays. With different names, none with a slash in it, each module
has a file of its own. Names are not checked for that: two directories with one name lose a module.

## Main statements

* `generate_perGroup_holds` — what each module's file holds in the end.
* `generate_perGroup_loses` — a module that is lost.
-/

namespace RequestBinding.Generation

open FileTree SourceDirectory

/-- Modules of one directory with one file have one name. -/
theorem module_eq_of_resolve {files : FileTree} (h : files.Plain) {target module module' : String}
    (hmodule : '/' ∉ module.toList) (hmodule' : '/' ∉ module'.toList) {location : Location}
    (hl : files.resolve (modulePath target module) = .ok location)
    (hl' : files.resolve (modulePath target module') = .ok location) : module = module' := by
  obtain ⟨outer, -, -, -, rfl⟩ := (h.resolve_join (isName_module hmodule) target).mp hl
  obtain ⟨outer', -, -, -, hsame⟩ := (h.resolve_join (isName_module hmodule') target).mp hl'
  exact (String.append_left_inj ".rs").mp (List.cons.inj hsame).1

section

variable {settings : Settings} {target : String} {modules directories : List String}

/-- The module at a place in the list of visits. -/
theorem job_of_getElem? {visits : List Visit}
    (hjobs : jobs settings (.perGroup target modules) directories = visits.map (·.job))
    {i : Nat} {visit : Visit} (hvisit : visits[i]? = some visit) :
    ∃ directory module, directories[i]? = some directory ∧ modules[i]? = some module ∧
      visit.job = ⟨directory, fun _ => (modulePath target module, module)⟩ := by
  have hjob : (jobs settings (.perGroup target modules) directories)[i]? = some visit.job := by
    simp [hjobs, hvisit]
  rw [jobs, List.getElem?_map, Option.map_eq_some_iff] at hjob
  obtain ⟨⟨directory, module⟩, hpair, hjob⟩ := hjob
  obtain ⟨hdirectory, hmodule⟩ := List.getElem?_zip_eq_some.mp hpair
  exact ⟨directory, module, hdirectory, hmodule, hjob.symm⟩

/-- With different names, none with a slash in it, no two modules go to one file. -/
theorem last_eq_of_nodup {after : FileTree} (h : after.Plain) {visits : List Visit}
    (hjobs : jobs settings (.perGroup target modules) directories = visits.map (·.job))
    (hnodup : modules.Nodup) (hslash : ∀ module ∈ modules, '/' ∉ module.toList)
    {location : Location} {visit last : Visit} (hvisit : visit ∈ visits) (hlast : last ∈ visits)
    (hl : after.resolve visit.path = .ok location) (hl' : after.resolve last.path = .ok location) :
    last = visit := by
  obtain ⟨i, hi⟩ := List.getElem?_of_mem hvisit
  obtain ⟨j, hj⟩ := List.getElem?_of_mem hlast
  obtain ⟨_, module, -, hmodule, hjob⟩ := job_of_getElem? hjobs hi
  obtain ⟨_, module', -, hmodule', hjob'⟩ := job_of_getElem? hjobs hj
  rw [Visit.path, hjob] at hl
  rw [Visit.path, hjob'] at hl'
  obtain rfl : module = module' :=
    module_eq_of_resolve h (hslash _ (List.mem_of_getElem? hmodule))
      (hslash _ (List.mem_of_getElem? hmodule')) hl hl'
  obtain rfl : i = j := (List.getElem?_inj (List.getElem?_eq_some_iff.mp hmodule).1 hnodup).mp
    (hmodule.trans hmodule'.symm)
  exact Option.some.inj (hj.symm.trans hi)

end

/-- **What the files of the modules hold.** The directories are paired with the names in order, also
if some have no records. Each module's file holds the module that was written to it last, and that
is its own if the names are different and have no slashes. -/
theorem generate_perGroup_holds {settings : Settings} {target : String}
    {modules directories paths : List String} {files : FileTree} (h : files.Plain) {s : RunState}
    (hon : (generate settings false (.perGroup target modules) directories).on files =
      (.ok paths, s)) :
    ∃ visits, Visits settings files visits s.files ∧ visits.length = directories.length ∧
      paths = writtenPaths visits ∧
      ∀ (i : Nat) (directory module : String) (visit : Visit),
        directories[i]? = some directory → modules[i]? = some module → visits[i]? = some visit →
          visit.job.directory = directory ∧
          (visit.wrote = true → visit.path = modulePath target module ∧
            visit.text = BindingsModule.text module visit.read.records ∧
            ∃ location last, s.files.resolve (modulePath target module) = .ok location ∧
              lastTo? s.files location visits = some last ∧
              s.files.node? location = some (.file (some last.text)) ∧
              (modules.Nodup → (∀ module ∈ modules, '/' ∉ module.toList) → last = visit)) := by
  obtain ⟨visits, hjobs, hvisits, hpaths, -⟩ := visits_of_generate h (by simp) hon
  obtain ⟨-, hlength, -⟩ := error?_perGroup.mp (error?_of_generate hon)
  have hcount : visits.length = directories.length := by
    have := congrArg List.length hjobs
    simpa [jobs, hlength] using this.symm
  refine ⟨visits, hvisits, hcount, hpaths, ?_⟩
  intro i directory module visit hdirectory hmodule hvisit
  obtain ⟨directory', module', hdirectory', hmodule', hjob⟩ := job_of_getElem? hjobs hvisit
  obtain rfl : directory = directory' := Option.some.inj (hdirectory.symm.trans hdirectory')
  obtain rfl : module = module' := Option.some.inj (hmodule.symm.trans hmodule')
  have hmem := List.mem_of_getElem? hvisit
  refine ⟨by rw [hjob], fun hwrote => ?_⟩
  have hpath : visit.path = modulePath target module := by rw [Visit.path, hjob]
  obtain ⟨location, last, hl, hlast, hnode⟩ := hvisits.holds_of_mem h hmem hwrote
  obtain ⟨hlastMem, -, hl'⟩ := mem_of_lastTo? hlast
  exact ⟨hpath, by rw [Visit.text, hjob], location, last, hpath ▸ hl, hlast, hnode,
    fun hnodup hslash => last_eq_of_nodup ((hvisits.growth h).plain h) hjobs
      hnodup hslash hmem hlastMem hl hl'⟩

/-! ## A lost module -/

namespace Example

/-- The module of the records in `m` in a target directory. -/
def usersIn (module : String) : Visit :=
  ⟨⟨"m", fun _ => (modulePath "out" module, module)⟩, ⟨"m", users⟩⟩

/-- The module of the records in `k` in a target directory. -/
def keysIn (module : String) : Visit :=
  ⟨⟨"k", fun _ => (modulePath "out" module, module)⟩, ⟨"k", keys⟩⟩

/-- The tree with the module of `m`. -/
def withX : FileTree := files.put ["x.rs", "out"] (.file (some (usersIn "x").text))

theorem withX_growth : Growth (fun _ => False) (· = ["x.rs", "out"]) files withX :=
  .putFile _ (by decide) (by decide) rfl

theorem usersInX_leads : (usersIn "x").Leads .default files withX := by
  have hnothing : Growth (fun _ => False) (fun _ => False) files files := .refl files
  exact leads_later hnothing (by decide) (readFrom_m rfl rfl) users_ne_nil (by decide) rfl
    (by decide)

/-- After the module of `m` that of `k` can be written, also over it. -/
theorem keysIn_leads {module name : String} (hname : FilePath.IsName name)
    (hpath : (keysIn module).path = FilePath.join "out" name)
    (hno : withX.node? [name, "out"] ≠ some .directory) :
    (keysIn module).Leads .default withX
      (withX.put [name, "out"] (.file (some (keysIn module).text))) := by
  have hread : (keysIn module).ReadFrom .default withX :=
    read_later withX_growth (by simp [keysIn]) held_keys (by simp [keysIn])
  exact leads_later withX_growth (by decide) hread keys_ne_nil hname hpath hno

/-- The functions of the two directories differ, compared as characters line by line. -/
theorem text_ne : BindingsModule.text "x" keys ≠ BindingsModule.text "x" users := by
  refine text_inj.not.mpr fun h => ?_
  have hchars := congrArg String.toList h
  simp only [Function.toList_endLines, List.flatMap_assoc, BindingsModule.recordLines, Text.trimmed,
    Function.bindText, Function.validateText, Function.bindHead, Function.validateHead,
    Function.functionEnd, Function.bodyText, List.flatMap_cons, String.toList_append,
    String.toList_ofList] at hchars
  revert hchars
  decide +kernel

end Example

/-- Two directories with two names: the module of the first one is in its file. -/
theorem generate_perGroup_holds_first : ∃ paths s location,
    (generate .default false (.perGroup "out" ["x", "y"]) ["m", "k"]).on Example.files =
        (.ok paths, s) ∧
      s.files.resolve (modulePath "out" "x") = .ok location ∧
      s.files.node? location =
        some (.file (some (BindingsModule.text "x" Example.users))) := by
  have hvisits : Visits .default Example.files [Example.usersIn "x", Example.keysIn "y"]
      (Example.withX.put ["y.rs", "out"] (.file (some (Example.keysIn "y").text))) :=
    .cons Example.usersInX_leads (.cons (Example.keysIn_leads (by decide) rfl (by decide)) .nil)
  have hplan : (OutputPlan.perGroup "out" ["x", "y"]).error? ["m", "k"].length = none :=
    error?_perGroup.mpr ⟨by decide, rfl, Example.isModuleName_of_subset (by decide)⟩
  obtain ⟨s, hon, -⟩ := generate_of_visits Example.plain hplan (by simp) rfl hvisits
  obtain ⟨visits, hvisits', hlength, -, hall⟩ := generate_perGroup_holds Example.plain hon
  obtain ⟨visit, more, rfl⟩ := List.exists_cons_of_length_eq_add_one hlength
  obtain ⟨mid, hleads, -⟩ := hvisits'.leads_of_cons
  obtain ⟨hdirectory, hholds⟩ := hall 0 "m" "x" visit rfl rfl rfl
  have hread := hleads.readFrom
  rw [Visit.ReadFrom, hdirectory, Example.read_m] at hread
  have hrecords : visit.read = ⟨"m", Example.users⟩ := (Except.ok.inj hread).symm
  obtain ⟨-, htext, location, last, hl, -, hnode, hlast⟩ :=
    hholds (Visit.wrote_iff.mpr (hrecords ▸ Example.users_ne_nil))
  rw [hlast (by decide) (by decide), htext, hrecords] at hnode
  exact ⟨_, s, location, hon, hl, hnode⟩

/-- Two directories with one name: the plan is accepted, and the module of the first one is lost. -/
theorem generate_perGroup_loses :
    (OutputPlan.perGroup "out" ["x", "x"]).error? ["m", "k"].length = none ∧
    ((SourceDirectory.read .default "m").on Example.files).1 = .ok ⟨"m", Example.users⟩ ∧
    Example.users ≠ [] ∧
    ∃ paths s, (generate .default false (.perGroup "out" ["x", "x"]) ["m", "k"]).on Example.files =
        (.ok paths, s) ∧
      s.files.resolve (modulePath "out" "x") = .ok ["x.rs", "out"] ∧
      s.files.node? ["x.rs", "out"] ≠
        some (.file (some (BindingsModule.text "x" Example.users))) := by
  have hvisits : Visits .default Example.files [Example.usersIn "x", Example.keysIn "x"]
      (Example.withX.put ["x.rs", "out"] (.file (some (Example.keysIn "x").text))) :=
    .cons Example.usersInX_leads (.cons (Example.keysIn_leads (by decide) rfl (by decide)) .nil)
  have hplan : (OutputPlan.perGroup "out" ["x", "x"]).error? ["m", "k"].length = none :=
    error?_perGroup.mpr ⟨by decide, rfl, Example.isModuleName_of_subset (by decide)⟩
  obtain ⟨s, hon, hfiles, -⟩ := generate_of_visits Example.plain hplan (by simp) rfl hvisits
  have hplain := (hvisits.growth Example.plain).plain Example.plain
  refine ⟨hplan, Example.read_m, Example.users_ne_nil, _, s, hon, ?_, ?_⟩
  · rw [hfiles]
    have hgrowth := hvisits.growth Example.plain
    exact hplain.resolve_join_of_resolve (isName_module (by decide))
      (hgrowth.resolve Example.plain (Example.resolve_directory (by decide)))
      (hgrowth.isDirectoryAt (Example.isDirectoryAt_of_mem (by decide)).2) (by decide)
  · rw [hfiles, node?_put _ (by simp), if_pos rfl]
    exact fun hsame =>
      Example.text_ne (Option.some.inj (Node.file.inj (Option.some.inj hsame)))

end RequestBinding.Generation
