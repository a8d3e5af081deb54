import RequestBinding.Proofs.GenerationSteps

/-!
# What a generation touches

Whatever the plan is, and whether it succeeds or not: a generation makes missing directories on the
way to the paths it writes to, writes files there, and reads sources of its directories, and nothing
else (`Framed`). Reading alone, and a dry run, do not change the tree at all (`Quiet`).

## Main statements

* `generate_framed` — every generation is framed by what it tells.
* `generate_quiet` — a dry run changes nothing.
-/

namespace RequestBinding.Generation

open FileTree SourceDirectory

/-! ## Runs that change nothing -/

/-- The run leaves every plain tree as it is and writes to no path. -/
def Quiet (run : Run α) : Prop :=
  ∀ files : FileTree, files.Plain → (run.on files).2.files = files ∧ (run.on files).2.emitted = []

theorem Quiet.pure (a : α) : Quiet (pure a : Run α) := fun _ _ => ⟨rfl, rfl⟩

theorem Quiet.print (line : String) : Quiet (Run.print line) := fun _ _ => ⟨rfl, rfl⟩

theorem Quiet.bind {run : Run α} {next : α → Run β} (h : Quiet run)
    (hadditive : ∀ a, (next a).Additive) (hnext : ∀ a, Quiet (next a)) : Quiet (run >>= next) := by
  intro files hplain
  obtain ⟨hfiles, hemitted⟩ := h files hplain
  generalize hon : run.on files = outcome at hfiles hemitted
  obtain ⟨result, s⟩ := outcome
  cases result with
  | error e =>
    rw [Run.on_bind_error hon]
    exact ⟨hfiles, hemitted⟩
  | ok a =>
    rw [Run.on_bind_ok hadditive hon]
    obtain rfl : s.files = files := hfiles
    obtain ⟨hfiles, hemitted'⟩ := hnext a s.files hplain
    refine ⟨hfiles, ?_⟩
    rw [RunState.emitted_append, hemitted, hemitted']
    rfl

theorem Quiet.mapM {step : α → Run β} (hadditive : ∀ a, (step a).Additive)
    (h : ∀ a, Quiet (step a)) (as : List α) : Quiet (as.mapM step) := by
  induction as with
  | nil => exact Quiet.pure []
  | cons a as ih =>
    rw [List.mapM_cons]
    have hmore (b : β) : (as.mapM step >>= fun bs => Pure.pure (b :: bs)).Additive :=
      (Run.additive_mapM hadditive as).bind fun _ => Run.additive_pure _
    exact (h a).bind hmore fun b => ih.bind (fun _ => Run.additive_pure _) fun _ => Quiet.pure _

/-- If all went well, each of the runs does on the tree. -/
theorem Quiet.of_mapM_ok {step : α → Run β} (hadditive : ∀ a, (step a).Additive)
    (h : ∀ a, Quiet (step a)) {files : FileTree} (hplain : files.Plain) {as : List α} {bs : List β}
    (hok : ((as.mapM step).on files).1 = .ok bs) :
    ∀ a ∈ as, ∃ b, ((step a).on files).1 = .ok b := by
  induction as generalizing bs with
  | nil => simp
  | cons a as ih =>
    have hfiles := (h a files hplain).1
    generalize hon : (step a).on files = outcome at hfiles
    obtain ⟨result, s⟩ := outcome
    obtain rfl : s.files = files := hfiles
    cases result with
    | error e =>
      rw [Run.on_mapM_cons_error hon] at hok
      cases hok
    | ok b =>
      rw [Run.on_mapM_cons_ok hadditive hon] at hok
      cases hrest : ((as.mapM step).on s.files).1 with
      | error e =>
        rw [hrest] at hok
        cases hok
      | ok rest =>
        intro a' ha'
        rcases List.mem_cons.mp ha' with rfl | ha'
        · exact ⟨b, by rw [hon]⟩
        · exact ih hrest a' ha'

theorem readReporting_quiet (settings : Settings) (directory : String) :
    Quiet (readReporting settings directory) := by
  intro files h
  obtain ⟨result, printed, told, hon, -, houtcome⟩ := readReporting_on settings directory h
  rw [hon]
  exact ⟨rfl, houtcome.noneWritten⟩

theorem produceAt_quiet (place : SourceDirectory → String × String) (read : SourceDirectory) :
    Quiet (produceAt true place read) := by
  rw [produceAt]
  split
  · exact Quiet.pure none
  · exact (Quiet.print _).bind (fun _ => Run.additive_pure _) fun _ => Quiet.pure _

theorem Job.run_quiet (settings : Settings) (job : Job) : Quiet (job.run settings true) := by
  rw [Job.run_eq]
  exact (readReporting_quiet settings job.directory).bind (additive_produceAt _ _)
    (produceAt_quiet _)

/-! ## Runs framed by what they tell -/

/-- What a run did to a tree, by the paths it tells of. -/
structure Framed (settings : Settings) (directories : List String) (files : FileTree)
    (result : Except Failure α) (s : RunState) : Prop where
  /-- Directories are made on the way to the paths written to, and files are written there. -/
  growth : Growth (s.files.Reaches (parents s.emitted)) (s.files.Reaches s.emitted) files s.files
  /-- What is read is a source of one of the directories. -/
  isSource : ∀ path ∈ Run.readPaths result s.events,
    ∃ directory ∈ directories, IsSource settings s.files directory path

section

variable {settings : Settings} {directories : List String} {files : FileTree}

/-- What a second run does is added to what a first one did. -/
theorem Framed.append {a : α} {s : RunState} {result : Except Failure β} {t : RunState}
    (h : Framed settings directories files (.ok a : Except Failure α) s) (hplain : files.Plain)
    (h' : Framed settings directories s.files result t) :
    Framed settings directories files result (s ++ t) where
  growth := by
    rw [RunState.emitted_append]
    exact growth_append hplain h.growth h'.growth
  isSource := by
    intro path hpath
    rw [RunState.events_append, Run.readPaths_append, ← Run.readPaths_ok a] at hpath
    rcases List.mem_append.mp hpath with hpath | hpath
    · obtain ⟨directory, hdirectory, hsource⟩ := h.isSource path hpath
      exact ⟨directory, hdirectory, hsource.growth (h.growth.plain hplain) h'.growth⟩
    · exact h'.isSource path hpath

theorem Framed.map {result : Except Failure α} {s : RunState}
    (h : Framed settings directories files result s) (f : α → β) :
    Framed settings directories files (result.map f) s :=
  ⟨h.growth, Run.readPaths_map f result s.events ▸ h.isSource⟩

/-- A run that tells of no file and leaves the tree as it is. -/
theorem Framed.of_silent {result : Except Failure α} (printed : List String) {told : List Event}
    (hresult : ∀ e, result = .error e → e.sourcePath? = none) (htold : Silent told) :
    Framed settings directories files result ⟨files, printed, told⟩ where
  growth := .refl files
  isSource := by
    cases result with
    | ok a => simp [Run.readPaths_ok, htold.1]
    | error e => simp [Run.readPaths_error, htold.1, hresult e rfl]

/-- From each plain tree the run is framed by what it tells. -/
def IsFramed (settings : Settings) (directories : List String) (run : Run α) : Prop :=
  ∀ files : FileTree, files.Plain →
    Framed settings directories files (run.on files).1 (run.on files).2

theorem IsFramed.pure (a : α) : IsFramed settings directories (pure a : Run α) :=
  fun _ _ => .of_silent [] (by rintro _ ⟨⟩) ⟨rfl, rfl⟩

theorem IsFramed.print (line : String) : IsFramed settings directories (Run.print line) :=
  fun _ _ => .of_silent [line] (by rintro _ ⟨⟩) ⟨rfl, rfl⟩

theorem IsFramed.bind {run : Run α} {next : α → Run β} (h : IsFramed settings directories run)
    (hadditive : ∀ a, (next a).Additive) (hnext : ∀ a, IsFramed settings directories (next a)) :
    IsFramed settings directories (run >>= next) := by
  intro files hplain
  have hrun := h files hplain
  generalize hon : run.on files = outcome at hrun
  obtain ⟨result, s⟩ := outcome
  cases result with
  | error e =>
    rw [Run.on_bind_error hon]
    exact ⟨hrun.growth, hrun.isSource⟩
  | ok a =>
    rw [Run.on_bind_ok hadditive hon]
    exact hrun.append hplain (hnext a s.files (hrun.growth.plain hplain))

theorem IsFramed.mapM {step : α → Run β} {as : List α} (hadditive : ∀ a, (step a).Additive)
    (h : ∀ a ∈ as, IsFramed settings directories (step a)) :
    IsFramed settings directories (as.mapM step) := by
  induction as with
  | nil => exact IsFramed.pure []
  | cons a as ih =>
    rw [List.mapM_cons]
    have hmore (b : β) : (as.mapM step >>= fun bs => Pure.pure (b :: bs)).Additive :=
      (Run.additive_mapM hadditive as).bind fun _ => Run.additive_pure _
    exact (h a List.mem_cons_self).bind hmore fun b =>
      (ih fun a' ha' => h a' (.tail _ ha')).bind (fun _ => Run.additive_pure _) fun _ => .pure _

theorem readReporting_framed {directory : String} (hdirectory : directory ∈ directories) :
    IsFramed settings directories (readReporting settings directory) := by
  intro files h
  obtain ⟨result, printed, told, hon, -, houtcome⟩ := readReporting_on settings directory h
  rw [hon]
  exact ⟨.refl files, fun path hpath => ⟨directory, hdirectory, houtcome.readPaths path hpath⟩⟩

theorem produce_framed (dryRun : Bool) (path : String) (records : List Record) (target : String) :
    IsFramed settings directories (produce dryRun path records target) := by
  intro files h
  cases dryRun with
  | true => exact IsFramed.print _ files h
  | false =>
    obtain ⟨result, s, hwrite, hevents, hwritten⟩ := writeModule_on h path records target
    rw [produce_on hwrite, hevents]
    refine ⟨hwritten.growth, ?_⟩
    cases result with
    | ok _ => simp [Run.readPaths_ok, Event.parsedPath?]
    | error e =>
      have hpath := Failure.sourcePath?_of_not_isOfReading (hwritten.isOfReading e rfl)
      simp [Run.readPaths_error, Event.parsedPath?, hpath]

theorem produceAt_framed (dryRun : Bool) (place : SourceDirectory → String × String)
    (read : SourceDirectory) : IsFramed settings directories (produceAt dryRun place read) := by
  rw [produceAt]
  split
  · exact .pure none
  · exact (produce_framed dryRun _ _ _).bind (fun _ => Run.additive_pure _) fun _ => .pure _

theorem Job.run_framed (dryRun : Bool) {job : Job} (hdirectory : job.directory ∈ directories) :
    IsFramed settings directories (job.run settings dryRun) := by
  rw [Job.run_eq]
  exact (readReporting_framed hdirectory).bind (additive_produceAt _ _) (produceAt_framed dryRun _)

end

/-! ## Plans -/

/-- The directories that have modules of their own by a plan, with the places of these. -/
def jobs (settings : Settings) : OutputPlan → List String → List Job
  | .sameLocation, directories =>
    directories.map fun directory => ⟨directory, placeBeside settings directory⟩
  | .perGroup target modules, directories =>
    (directories.zip modules).map fun (directory, module) =>
      ⟨directory, fun _ => (modulePath target module, module)⟩
  | .singleGroup _ _, _ => []

theorem directory_mem_of_mem_jobs {settings : Settings} {plan : OutputPlan}
    {directories : List String} {job : Job} (h : job ∈ jobs settings plan directories) :
    job.directory ∈ directories := by
  cases plan with
  | sameLocation =>
    obtain ⟨directory, hdirectory, rfl⟩ := List.mem_map.mp h
    exact hdirectory
  | perGroup target modules =>
    obtain ⟨⟨directory, module⟩, hpair, rfl⟩ := List.mem_map.mp h
    exact (List.of_mem_zip hpair).1
  | singleGroup target module => cases h

/-- The modules of the directories, one after another. -/
def generateEach (settings : Settings) (dryRun : Bool) (all : List Job) : Run (List String) := do
  let paths ← all.mapM (Job.run settings dryRun)
  return paths.filterMap id

/-- One module of all that was read. -/
def produceAll (dryRun : Bool) (target module : String) (read : List SourceDirectory) :
    Run (List String) :=
  let records := read.flatMap (·.records)
  if records.isEmpty then do
    Run.print nothingFound
    return []
  else do
    produce dryRun (modulePath target module) records module
    return [modulePath target module]

theorem generateSingle_eq (settings : Settings) (dryRun : Bool) (directories : List String)
    (target module : String) :
    generateSingle settings dryRun directories target module =
      directories.mapM (readReporting settings) >>= produceAll dryRun target module := rfl

theorem generate_cases (settings : Settings) (dryRun : Bool) (plan : OutputPlan)
    (directories : List String) :
    (∃ e, plan.error? directories.length = some e ∧
      generate settings dryRun plan directories = throw (.plan e)) ∨
    plan.error? directories.length = none ∧
      ((∃ target module, plan = .singleGroup target module ∧
          generate settings dryRun plan directories =
            generateSingle settings dryRun directories target module) ∨
        (∀ target module, plan ≠ .singleGroup target module) ∧
          generate settings dryRun plan directories =
            generateEach settings dryRun (jobs settings plan directories)) := by
  unfold generate
  cases herror : plan.error? directories.length with
  | some e => exact .inl ⟨e, rfl, rfl⟩
  | none =>
    refine .inr ⟨rfl, ?_⟩
    cases plan with
    | sameLocation =>
      refine .inr ⟨by simp, ?_⟩
      rw [generateEach, jobs, List.mapM_map]
      rfl
    | perGroup target modules =>
      refine .inr ⟨by simp, ?_⟩
      rw [generateEach, jobs, List.mapM_map]
      rfl
    | singleGroup target module => exact .inl ⟨target, module, rfl, rfl⟩

/-- A plan that fits, with a module for each directory, is carried out one after another. -/
theorem generate_eq_generateEach (settings : Settings) (dryRun : Bool) {plan : OutputPlan}
    {directories : List String} (hplan : plan.error? directories.length = none)
    (hsingle : ∀ target module, plan ≠ .singleGroup target module) :
    generate settings dryRun plan directories =
      generateEach settings dryRun (jobs settings plan directories) := by
  rcases generate_cases settings dryRun plan directories with
    ⟨e, herror, -⟩ | ⟨-, ⟨target, module, hsame, -⟩ | ⟨-, hgenerate⟩⟩
  · simp [hplan] at herror
  · exact absurd hsame (hsingle target module)
  · exact hgenerate

theorem additive_produceAll (dryRun : Bool) (target module : String) (read : List SourceDirectory) :
    (produceAll dryRun target module read).Additive := by
  rw [produceAll]
  split
  · exact (Run.additive_print _).bind fun _ => Run.additive_pure _
  · exact (additive_produce dryRun _ _ _).bind fun _ => Run.additive_pure _

/-- Every generation is framed by what it tells, also if it fails. -/
theorem generate_framed (settings : Settings) (dryRun : Bool) (plan : OutputPlan)
    (directories : List String) :
    IsFramed settings directories (generate settings dryRun plan directories) := by
  rcases generate_cases settings dryRun plan directories with
    ⟨e, -, hgenerate⟩ | ⟨-, ⟨target, module, -, hgenerate⟩ | ⟨-, hgenerate⟩⟩
  · rw [hgenerate]
    refine fun files _ => .of_silent [] ?_ ⟨rfl, rfl⟩
    rintro _ ⟨⟩
    rfl
  · rw [hgenerate, generateSingle_eq]
    refine (IsFramed.mapM (additive_readReporting settings)
      fun _ => readReporting_framed).bind (additive_produceAll _ _ _) fun read => ?_
    rw [produceAll]
    split
    · exact (IsFramed.print _).bind (fun _ => Run.additive_pure _) fun _ => .pure _
    · exact (produce_framed dryRun _ _ _).bind (fun _ => Run.additive_pure _) fun _ => .pure _
  · rw [hgenerate, generateEach]
    exact (IsFramed.mapM (Job.additive_run settings dryRun) fun job hjob =>
      Job.run_framed dryRun (directory_mem_of_mem_jobs hjob)).bind
        (fun _ => Run.additive_pure _) fun _ => .pure _

/-- A generation that is not to be done, or only to be announced, changes nothing. -/
theorem generate_quiet (settings : Settings) {dryRun : Bool} {plan : OutputPlan}
    {directories : List String}
    (h : (plan.error? directories.length).isSome = true ∨ dryRun = true) :
    Quiet (generate settings dryRun plan directories) := by
  rcases generate_cases settings dryRun plan directories with
    ⟨e, -, hgenerate⟩ | ⟨hnone, hplans⟩
  · rw [hgenerate]
    exact fun _ _ => ⟨rfl, rfl⟩
  obtain rfl : dryRun = true := by simpa [hnone] using h
  rcases hplans with ⟨target, module, -, hgenerate⟩ | ⟨-, hgenerate⟩
  · rw [hgenerate, generateSingle_eq]
    refine (Quiet.mapM (additive_readReporting settings) (readReporting_quiet settings) _).bind
      (additive_produceAll _ _ _) fun read => ?_
    rw [produceAll]
    split
    · exact (Quiet.print _).bind (fun _ => Run.additive_pure _) fun _ => .pure _
    · exact (Quiet.print _).bind (fun _ => Run.additive_pure _) fun _ => .pure _
  · rw [hgenerate, generateEach]
    exact (Quiet.mapM (Job.additive_run settings true) (Job.run_quiet settings) _).bind
      (fun _ => Run.additive_pure _) fun _ => .pure _

/-! ## One module of all directories -/

section

variable {settings : Settings} {directories : List String} {target module : String}
  {files : FileTree}

theorem produceAll_on_nothing (dryRun : Bool) {found : List SourceDirectory}
    (hempty : found.flatMap (·.records) = []) :
    (produceAll dryRun target module found).on files = (.ok [], ⟨files, [nothingFound], []⟩) := by
  rw [produceAll, if_pos (by simpa using hempty),
    Run.on_bind_ok (fun _ => Run.additive_pure _) (Run.on_print _ _), Run.on_pure]
  rfl

/-- If there are records, their module is written. -/
theorem produceAll_on (h : files.Plain) (target module : String) {found : List SourceDirectory}
    (hne : found.flatMap (·.records) ≠ []) :
    ∃ written t s,
      (writeModule (modulePath target module) (found.flatMap (·.records)) module).on files =
        (written, t) ∧
      (produceAll false target module found).on files =
        (written.map (fun _ => [modulePath target module]), s) ∧
      s.files = t.files ∧ s.emitted = [modulePath target module] := by
  obtain ⟨written, t, hwrite, hevents, -⟩ :=
    writeModule_on h (modulePath target module) (found.flatMap (·.records)) module
  have hproduce := produce_on hwrite
  rw [hevents] at hproduce
  rw [produceAll, if_neg (by simpa using hne)]
  cases written with
  | error e =>
    rw [Run.on_bind_error hproduce]
    exact ⟨_, t, _, hwrite, rfl, rfl, rfl⟩
  | ok _ =>
    rw [Run.on_bind_ok (fun _ => Run.additive_pure _) hproduce]
    exact ⟨_, t, _, hwrite, rfl, rfl, rfl⟩

/-- Nothing is written if one of the directories cannot be read. -/
theorem generateSingle_unread (h : files.Plain) (dryRun : Bool) (target module : String)
    {directory : String} (hdirectory : directory ∈ directories) {e : Failure}
    (he : ((SourceDirectory.read settings directory).on files).1 = .error e) :
    ∃ e s, (generateSingle settings dryRun directories target module).on files = (.error e, s) ∧
      s.files = files ∧ s.emitted = [] := by
  have hquiet := Quiet.mapM (additive_readReporting settings) (readReporting_quiet settings)
    directories files h
  rw [generateSingle_eq]
  cases hon : (directories.mapM (readReporting settings)).on files with
  | mk result s =>
    rw [hon] at hquiet
    cases result with
    | error e => exact ⟨e, s, Run.on_bind_error hon, hquiet⟩
    | ok all =>
      obtain ⟨read, hread⟩ := Quiet.of_mapM_ok (additive_readReporting settings)
        (readReporting_quiet settings) h (by rw [hon]) directory hdirectory
      obtain ⟨result, printed, told, hon, hresult, -⟩ := readReporting_on settings directory h
      rw [hon] at hread
      cases (hread.symm.trans hresult.symm).trans he

/-- One module of what all directories hold was to be written, and was written or failed. -/
structure WroteAll (settings : Settings) (directories : List String) (target module : String)
    (files : FileTree) (found : List SourceDirectory) (result : Except Failure (List String))
    (s : RunState) : Prop where
  read : ((directories.mapM (readReporting settings)).on files).1 = .ok found
  ne_nil : found.flatMap (·.records) ≠ []
  emitted : s.emitted = [modulePath target module]
  write : ∃ written t,
    (writeModule (modulePath target module) (found.flatMap (·.records)) module).on files =
      (written, t) ∧
    s.files = t.files ∧ result = written.map fun _ => [modulePath target module]

/-- Nothing is written, or one module is written once. -/
theorem generateSingle_once (h : files.Plain) (settings : Settings) (directories : List String)
    (target module : String) :
    ∃ result s, (generateSingle settings false directories target module).on files = (result, s) ∧
      (s.files = files ∧ s.emitted = [] ∨
        ∃ found, WroteAll settings directories target module files found result s) := by
  have hquiet := Quiet.mapM (additive_readReporting settings) (readReporting_quiet settings)
    directories files h
  rw [generateSingle_eq]
  cases hon : (directories.mapM (readReporting settings)).on files with
  | mk result s =>
    rw [hon] at hquiet
    cases result with
    | error e => exact ⟨_, _, Run.on_bind_error hon, .inl hquiet⟩
    | ok all =>
      obtain ⟨rfl, hnone⟩ : s.files = files ∧ s.emitted = [] := hquiet
      rw [Run.on_bind_ok (additive_produceAll _ _ _) hon]
      by_cases hempty : all.flatMap (·.records) = []
      · rw [produceAll_on_nothing false hempty]
        refine ⟨_, _, rfl, .inl ⟨rfl, ?_⟩⟩
        rw [RunState.emitted_append, hnone]
        rfl
      · obtain ⟨written, t, s', hwrite, hproduce, hfiles, hemitted⟩ :=
          produceAll_on h target module hempty
        rw [hproduce]
        refine ⟨_, _, rfl, .inr ⟨all, by rw [hon], hempty, ?_, written, t, hwrite, hfiles, rfl⟩⟩
        rw [RunState.emitted_append, hnone, hemitted]
        rfl

variable {dryRun : Bool} {result : Except Failure (List String)} {s : RunState} (h : files.Plain)
  (hon : (generate settings dryRun (.singleGroup target module) directories).on files = (result, s))

include h hon

/-- A directory that cannot be read makes one module for all fail before anything is written. -/
theorem generate_single_unread {directory : String} (hdirectory : directory ∈ directories)
    {e : Failure} (he : ((SourceDirectory.read settings directory).on files).1 = .error e) :
    (∃ e, result = .error e) ∧ s.files = files ∧ s.emitted = [] := by
  rcases generate_cases settings dryRun (.singleGroup target module) directories with
    ⟨e, -, hgenerate⟩ | ⟨-, ⟨_, _, ⟨⟩, hgenerate⟩ | ⟨hsingle, -⟩⟩
  · rw [hgenerate, Run.on_throw] at hon
    obtain ⟨rfl, rfl⟩ := Prod.mk.inj hon
    exact ⟨⟨_, rfl⟩, rfl, rfl⟩
  · rw [hgenerate] at hon
    obtain ⟨e, s', hon', hfiles, hemitted⟩ :=
      generateSingle_unread h dryRun target module hdirectory he
    obtain ⟨rfl, rfl⟩ := Prod.mk.inj (hon'.symm.trans hon)
    exact ⟨⟨e, rfl⟩, hfiles, hemitted⟩
  · exact absurd rfl (hsingle target module)

theorem generate_single_once :
    s.files = files ∧ s.emitted = [] ∨
      ∃ found, WroteAll settings directories target module files found result s := by
  by_cases hquiet :
      ((OutputPlan.singleGroup target module).error? directories.length).isSome = true ∨
        dryRun = true
  · have hquiet := generate_quiet settings hquiet files h
    rw [hon] at hquiet
    exact .inl hquiet
  · obtain ⟨hplan, rfl⟩ :
        (OutputPlan.singleGroup target module).error? directories.length = none ∧
          dryRun = false := by simpa using hquiet
    rcases generate_cases settings false (.singleGroup target module) directories with
      ⟨e, herror, -⟩ | ⟨-, ⟨_, _, ⟨⟩, hgenerate⟩ | ⟨hsingle, -⟩⟩
    · simp [hplan] at herror
    · rw [hgenerate] at hon
      obtain ⟨_, _, hon', honce⟩ := generateSingle_once h settings directories target module
      obtain ⟨rfl, rfl⟩ := Prod.mk.inj (hon'.symm.trans hon)
      exact honce
    · exact absurd rfl (hsingle target module)

end

end RequestBinding.Generation
