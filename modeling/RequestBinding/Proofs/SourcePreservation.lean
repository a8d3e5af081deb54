import RequestBinding.Proofs.ModulePaths

/-!
# What becomes of the sources

A generation writes only to the paths that it tells of, so a source that none of them leads to stays
as it is. Beside the sources modules have names that no source has. In a target directory they have
the names that were asked for: if the target is a directory of sources and one of them has that
name, the module is written over it.

## Main statements

* `generate_file_cases` — a file is as it was, or holds the module that the plan asks for.
* `generate_keeps_sources` — which sources stay as they are.
* `generate_perGroup_overwrites` — a source that is lost.
-/

namespace RequestBinding.Generation

open FileTree SourceDirectory

/-- A module in a target directory, with no slash in its name, is written over a file of that name
there. -/
theorem outer_of_modulePath {files : FileTree} (h : files.Plain) {target module name : String}
    {outer : Location} (hslash : '/' ∉ module.toList)
    (hl : files.resolve (modulePath target module) = .ok (name :: outer)) :
    name = module ++ ".rs" ∧ (target ≠ "" → files.resolve target = .ok outer) := by
  obtain ⟨hname, htarget⟩ := targetAt_of_modulePath h hslash hl
  refine ⟨hname, fun hne => ?_⟩
  rw [targetAt, if_neg (by simpa using hne)] at htarget
  exact htarget

/-! ## What files hold -/

/-- A module that a plan asks for: its path and its text. -/
inductive ModuleFor (settings : Settings) (files : FileTree) (directories : List String) :
    OutputPlan → String → String → Prop
  /-- The module of one directory has the records that are there when the modules before it are. -/
  | each {plan : OutputPlan} {before : List Visit} {visit : Visit} {rest : List Job}
      {tree : FileTree} :
    jobs settings plan directories = before.map (·.job) ++ visit.job :: rest →
    Visits settings files before tree → visit.ReadFrom settings tree → visit.wrote = true →
    ModuleFor settings files directories plan visit.path visit.text
  /-- One module of all directories has the records of all of them. -/
  | all {target module : String} {found : List SourceDirectory} :
    ((directories.mapM (readReporting settings)).on files).1 = .ok found →
    found.flatMap (·.records) ≠ [] →
    ModuleFor settings files directories (.singleGroup target module) (modulePath target module)
      (BindingsModule.text module (found.flatMap (·.records)))

section

variable {settings : Settings} {dryRun : Bool} {plan : OutputPlan} {directories : List String}
  {files : FileTree} {result : Except Failure (List String)} {s : RunState} {location : Location}
  {text : Option String}

/-- After one module was to be written, a file is as it was or holds the module. -/
theorem WroteAll.file_cases {target module : String} {found : List SourceDirectory}
    (h : files.Plain) (hwrote : WroteAll settings directories target module files found result s)
    (hfile : s.files.node? location = some (.file text)) :
    (files.node? location = s.files.node? location ∧
        (s.files.Reaches s.emitted location → ∃ e, result = .error e)) ∨
      s.files.resolve (modulePath target module) = .ok location ∧
        s.files.node? location =
          some (.file (some (BindingsModule.text module (found.flatMap (·.records))))) := by
  obtain ⟨written, t, hwrite, hfiles, rfl⟩ := hwrote.write
  obtain ⟨-, hdone⟩ := written_of_on h hwrite
  rw [← hfiles] at hdone
  rw [hwrote.emitted]
  cases written with
  | error e =>
    refine .inl ⟨?_, fun _ => ⟨e, rfl⟩⟩
    rw [hfile]
    exact (hdone.unwritten e rfl).file_of_not_written hfile id
  | ok _ =>
    by_cases hreaches : s.files.Reaches [modulePath target module] location
    · obtain ⟨_, hpath, hresolve⟩ := hreaches
      obtain rfl := List.mem_singleton.mp hpath
      obtain ⟨location', hresolve', hnode⟩ := hdone.holds rfl
      obtain rfl : location' = location := Except.ok.inj (hresolve'.symm.trans hresolve)
      exact .inr ⟨hresolve, hnode⟩
    · refine .inl ⟨?_, fun hr => absurd hr hreaches⟩
      rw [hfile]
      exact hdone.growth.file_of_not_written hfile hreaches

/-- A file that is there after a generation is as it was before, or it holds a module that the plan
asks for. After a generation that succeeded it holds one if it was written to. -/
theorem generate_file_cases (h : files.Plain)
    (hon : (generate settings dryRun plan directories).on files = (result, s))
    (hfile : s.files.node? location = some (.file text)) :
    (files.node? location = s.files.node? location ∧
        (s.files.Reaches s.emitted location → ∃ e, result = .error e)) ∨
      ∃ path ∈ s.emitted, ∃ written, ModuleFor settings files directories plan path written ∧
        s.files.resolve path = .ok location ∧
        s.files.node? location = some (.file (some written)) := by
  rcases generate_course h hon with
    ⟨hfiles, hnone⟩ | ⟨visits, each, rfl, hcourse⟩ | ⟨target, module, found, rfl, hwrote⟩
  · refine .inl ⟨by rw [hfiles], ?_⟩
    rintro ⟨path, hpath, -⟩
    simp [hnone] at hpath
  · rcases hcourse.file_cases h hfile with
      ⟨hsame, hfail⟩ | ⟨before, visit, rest, tree, hjobs, hbefore, hread, hwrote, hmem, hholds⟩
    · refine .inl ⟨hsame, fun hreaches => ?_⟩
      obtain ⟨e, rfl⟩ := hfail hreaches
      exact ⟨e, rfl⟩
    · exact .inr ⟨visit.path, hmem, visit.text, .each hjobs hbefore hread hwrote, hholds⟩
  · rcases hwrote.file_cases h hfile with hsame | hholds
    · exact .inl hsame
    · exact .inr ⟨modulePath target module, by simp [hwrote.emitted], _,
        .all hwrote.read hwrote.ne_nil, hholds⟩

end

/-! ## Sources -/

/-- **What becomes of the sources.** A source that is found before a generation, or is read by it,
stays as it is if no path leads to it that is written to. If one does, it holds a module that the
plan asks for, unless the generation fails before. No module beside sources is written to such a
path; a module in a target directory is, if the target is the directory of the source and the module
has its name. -/
theorem generate_keeps_sources {settings : Settings} (hending : IsEnding settings.generatedEnding)
    {dryRun : Bool} {plan : OutputPlan} {directories : List String} {files : FileTree}
    (h : files.Plain) {result : Except Failure (List String)} {s : RunState}
    (hon : (generate settings dryRun plan directories).on files = (result, s)) {path : String}
    (hpath : (∃ directory ∈ directories, IsSource settings files directory path) ∨
      path ∈ Run.readPaths result s.events) :
    ∃ name outer, s.files.resolve path = .ok (name :: outer) ∧
      (∃ directory ∈ directories, s.files.resolve directory = .ok outer) ∧
      (∃ text, s.files.node? (name :: outer) = some (.file text)) ∧
      (¬s.files.Reaches s.emitted (name :: outer) →
        files.node? (name :: outer) = s.files.node? (name :: outer)) ∧
      (s.files.Reaches s.emitted (name :: outer) →
        (∃ e, result = .error e) ∧ files.node? (name :: outer) = s.files.node? (name :: outer) ∨
        ∃ written ∈ s.emitted, ∃ text, ModuleFor settings files directories plan written text ∧
          s.files.resolve written = .ok (name :: outer) ∧
          s.files.node? (name :: outer) = some (.file (some text))) ∧
      ∀ written ∈ s.emitted, s.files.resolve written = .ok (name :: outer) →
        ∃ target, ∃ module ∈ plan.modules,
          (plan = .singleGroup target module ∨ plan = .perGroup target plan.modules) ∧
          written = modulePath target module ∧
          ('/' ∉ module.toList →
            name = module ++ ".rs" ∧ (target ≠ "" → s.files.resolve target = .ok outer)) := by
  have hframed := generate_framed settings dryRun plan directories files h
  rw [hon] at hframed
  have hgrowth := hframed.growth
  have hplain := hgrowth.plain h
  obtain ⟨directory, hmem, name, outer, hdirectory, hl, hsource⟩ :
      ∃ directory ∈ directories, IsSource settings s.files directory path := by
    rcases hpath with ⟨directory, hmem, hsource⟩ | hread
    · exact ⟨directory, hmem, hsource.growth h hgrowth⟩
    · exact hframed.isSource path hread
  obtain ⟨⟨text, htext⟩, -, hname⟩ := isSourceAt_iff.mp hsource
  refine ⟨name, outer, hl, ⟨directory, hmem, hdirectory⟩, ⟨text, htext⟩, fun hnot => ?_,
    fun hreaches => ?_, fun written hwritten hsame => ?_⟩
  · rw [htext]
    exact hgrowth.file_of_not_written htext hnot
  · rcases generate_file_cases h hon htext with ⟨hsame, hfail⟩ | hholds
    · exact .inl ⟨hfail hreaches, hsame⟩
    · exact .inr hholds
  · rcases emitted_cases h hon hwritten with
      ⟨rfl, _, found, hgroup, rfl⟩ | ⟨target, module, hmodule, hplan, rfl⟩
    · obtain ⟨_, -, hlocation⟩ := resolve_beside hending hplain hgroup hsame
      rw [(List.cons.inj hlocation).1, isGenerated_append hending] at hname
      cases hname
    · exact ⟨target, module, hmodule, hplan, rfl,
        fun hslash => outer_of_modulePath hplain hslash hsame⟩

/-! ## A lost source -/

/-- Every module starts with a comment. -/
theorem head?_text (target : String) (records : List Record) :
    (BindingsModule.text target records).toList.head? = some '/' := by
  rw [BindingsModule.text, Function.toList_endLines]
  rfl

namespace Example

/-- The module of `m` over its source. -/
def overUsers : Visit := ⟨⟨"m", fun _ => (modulePath "m" "user", "user")⟩, ⟨"m", users⟩⟩

theorem overUsers_leads : overUsers.Leads .default files
    (files.put ["user.rs", "m"] (.file (some overUsers.text))) := by
  have hnothing : Growth (fun _ => False) (fun _ => False) files files := .refl files
  exact leads_later hnothing (by decide) (readFrom_m rfl rfl) users_ne_nil (by decide) rfl
    (by decide)

theorem user_isSource : IsSource .default files "m" "m/user.rs" :=
  have hpath : FilePath.join "m" "user.rs" = "m/user.rs" :=
    (join_of_mem (by decide) (by decide)).trans rfl
  have hdirectory : files.resolve "m" = .ok ["m"] := resolve_directory (by decide)
  ⟨"user.rs", ["m"], hdirectory,
    hpath ▸ plain.resolve_join_of_resolve (by decide) hdirectory (by decide) (by decide),
    by decide⟩

end Example

/-- Beside the sources: the source of `m` is still there. -/
theorem generate_keeps_sources_beside : ∃ result s name outer,
    (generate .default false .sameLocation ["m"]).on Example.files = (result, s) ∧
      s.files.resolve "m/user.rs" = .ok (name :: outer) ∧
      Example.files.node? (name :: outer) = s.files.node? (name :: outer) := by
  have hending : IsEnding Settings.default.generatedEnding := ⟨by decide, by decide⟩
  obtain ⟨name, outer, hl, -, -, hsame, -, hwritten⟩ := generate_keeps_sources hending Example.plain
    (Prod.eta ((generate .default false .sameLocation ["m"]).on Example.files)).symm
    (.inl ⟨"m", by decide, Example.user_isSource⟩)
  refine ⟨_, _, name, outer, (Prod.eta _).symm, hl, hsame ?_⟩
  rintro ⟨written, hmem, hreaches⟩
  obtain ⟨_, _, hmodule, -⟩ := hwritten written hmem hreaches
  cases hmodule

/-- A target in the directory of a source, with its name: the plan is accepted, and the source is
lost. -/
theorem generate_perGroup_overwrites :
    (OutputPlan.perGroup "m" ["user"]).error? ["m"].length = none ∧
    IsEnding Settings.default.generatedEnding ∧
    IsSource .default Example.files "m" "m/user.rs" ∧
    ∃ paths s, (generate .default false (.perGroup "m" ["user"]) ["m"]).on Example.files =
        (.ok paths, s) ∧
      paths = ["m/user.rs"] ∧
      s.files.node? ["user.rs", "m"] ≠ Example.files.node? ["user.rs", "m"] := by
  have hvisits : Visits .default Example.files [Example.overUsers] _ :=
    .cons Example.overUsers_leads .nil
  have hplan : (OutputPlan.perGroup "m" ["user"]).error? ["m"].length = none :=
    error?_perGroup.mpr ⟨by decide, rfl, Example.isModuleName_of_subset (by decide)⟩
  have hpath : Example.overUsers.path = "m/user.rs" :=
    (Example.join_of_mem (by decide) (by decide)).trans rfl
  have hpaths : writtenPaths [Example.overUsers] = ["m/user.rs"] := by
    rw [writtenPaths_cons, Visit.path?_of_wrote Example.users_ne_nil, hpath]
    rfl
  obtain ⟨s, hon, hfiles, -⟩ := generate_of_visits Example.plain hplan (by simp) rfl hvisits
  refine ⟨hplan, ⟨by decide, by decide⟩, Example.user_isSource, _, s, hon, hpaths, ?_⟩
  rw [hfiles, node?_put _ (by simp), if_pos rfl]
  obtain ⟨text, htext, hfirst⟩ : ∃ text,
      Example.files.node? ["user.rs", "m"] = some (.file (some text)) ∧
        text.toList.head? = some 's' := ⟨_, rfl, by decide⟩
  rw [htext]
  rintro ⟨⟩
  have hboth : some 's' = some '/' := hfirst.symm.trans (head?_text "user" Example.users)
  revert hboth
  decide

end RequestBinding.Generation
