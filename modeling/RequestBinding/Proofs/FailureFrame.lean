import RequestBinding.Proofs.Visits

/-!
# What a generation leaves behind

A generation can fail at any point: because of its plan, because a directory cannot be read, or
because a module cannot be written. What it has done by then stays done. With one module for all
directories nothing is written before all of them were read; with a module for each directory, those
of the directories before the one that could not be read are there.

## Main statements

* `generate_leaves` — the tree after a generation, whether it succeeded or not.
-/

namespace RequestBinding.Generation

open FileTree SourceDirectory

section

variable {settings : Settings} {plan : OutputPlan} {directories : List String} {files : FileTree}

/-- If a directory cannot be read, exactly the modules before it are there. -/
theorem generate_unread (h : files.Plain)
    (hsingle : ∀ target module, plan ≠ .singleGroup target module) {e : Failure} {s : RunState}
    (hon : (generate settings false plan directories).on files = (.error e, s))
    (hreading : e.isOfReading = true) :
    ∃ visits job rest, jobs settings plan directories = visits.map (·.job) ++ job :: rest ∧
      Visits settings files visits s.files ∧
      ((SourceDirectory.read settings job.directory).on s.files).1 = .error e ∧
      s.emitted = writtenPaths visits := by
  have hplan : plan.error? directories.length = none := by
    rcases generate_cases settings false plan directories with ⟨e', -, hgenerate⟩ | ⟨hplan, -⟩
    · rw [hgenerate] at hon
      obtain rfl := Except.error.inj (Prod.mk.inj hon).1
      cases hreading
    · exact hplan
  obtain ⟨visits, result, s', hon', hcourse⟩ := generate_on settings h hplan hsingle
  obtain ⟨hresult, rfl⟩ := Prod.mk.inj (hon'.symm.trans hon)
  generalize hjobs : jobs settings plan directories = all at hcourse
  generalize hemitted : s'.emitted = emitted at hcourse
  generalize hfiles : s'.files = after at hcourse
  cases hcourse with
  | finished => cases hresult
  | @stopped mid after job rest e' paths hvisits hfails =>
    obtain rfl : e' = e := Except.error.inj hresult
    cases hfails with
    | unread he => exact ⟨visits, job, rest, rfl, hvisits, he, List.append_nil _⟩
    | unwritten _ _ hwrite =>
      -- A module that cannot be written is no failure of reading.
      obtain ⟨-, hwritten⟩ := written_of_on ((hvisits.growth h).plain h) hwrite
      simp [hwritten.isOfReading e' rfl] at hreading

end

/-- **What a generation leaves behind.** It may succeed or fail, at any point. -/
theorem generate_leaves {settings : Settings} {dryRun : Bool} {plan : OutputPlan}
    {directories : List String} {files : FileTree} (h : files.Plain)
    {result : Except Failure (List String)} {s : RunState}
    (hon : (generate settings dryRun plan directories).on files = (result, s)) :
    -- A plan that does not fit and a dry run change nothing.
    ((plan.error? directories.length).isSome = true ∨ dryRun = true → s.files = files) ∧
    -- One module for all directories is written once, and not if one of them cannot be read.
    (∀ target module, plan = .singleGroup target module →
      ((∃ directory ∈ directories,
          ∃ e, ((SourceDirectory.read settings directory).on files).1 = .error e) →
        (∃ e, result = .error e) ∧ s.files = files ∧ s.emitted = []) ∧
      (s.files = files ∧ s.emitted = [] ∨
        ∃ records, s.emitted = [modulePath target module] ∧ s.files =
          ((writeModule (modulePath target module) records module).on files).2.files)) ∧
    -- With a module for each directory, those before one that cannot be read are written.
    ((∀ target module, plan ≠ .singleGroup target module) → dryRun = false →
      ∀ e, result = .error e → e.isOfReading = true →
        ∃ visits job rest, jobs settings plan directories = visits.map (·.job) ++ job :: rest ∧
          Visits settings files visits s.files ∧
          ((SourceDirectory.read settings job.directory).on s.files).1 = .error e ∧
          s.emitted = writtenPaths visits ∧
          ∀ visit ∈ visits, visit.wrote = true → ∃ location last,
            s.files.resolve visit.path = .ok location ∧
            lastTo? s.files location visits = some last ∧
            s.files.node? location = some (.file (some last.text))) ∧
    -- Nothing is touched but the paths written to and missing directories on the way to them.
    s.files.current = files.current ∧
    ∀ location, s.files.node? location = files.node? location ∨
      (files.node? location = none ∧ s.files.node? location = some .directory ∧
        s.files.Reaches (parents s.emitted) location) ∨
      (files.node? location ≠ some .directory ∧
        (∃ text, s.files.node? location = some (.file text)) ∧
        s.files.Reaches s.emitted location) := by
  have hframed := generate_framed settings dryRun plan directories files h
  rw [hon] at hframed
  refine ⟨fun hquiet => ?_, fun target module hplan => ⟨?_, ?_⟩, ?_, hframed.growth.current, ?_⟩
  · have hquiet := generate_quiet settings hquiet files h
    rw [hon] at hquiet
    exact hquiet.1
  · rintro ⟨directory, hdirectory, e, he⟩
    subst hplan
    exact generate_single_unread h hon hdirectory he
  · subst hplan
    rcases generate_single_once h hon with hnothing | ⟨found, hwrote⟩
    · exact .inl hnothing
    · obtain ⟨written, t, hwrite, hfiles, -⟩ := hwrote.write
      exact .inr ⟨_, hwrote.emitted, by rw [hwrite]; exact hfiles⟩
  · rintro hsingle rfl e rfl hreading
    obtain ⟨visits, job, rest, hjobs, hvisits, he, hemitted⟩ :=
      generate_unread h hsingle hon hreading
    exact ⟨visits, job, rest, hjobs, hvisits, he, hemitted,
      fun visit hmem hwrote => hvisits.holds_of_mem h hmem hwrote⟩
  · intro location
    rcases hframed.growth.node? location with hsame | ⟨hmade, hnone, hdir⟩ | ⟨hwritten, hnot, hfile⟩
    · exact .inl hsame
    · exact .inr (.inl ⟨hnone, hdir, hmade⟩)
    · exact .inr (.inr ⟨hnot, hfile, hwritten⟩)

/-- The second directory is missing: the module of the first one is there. -/
theorem generate_leaves_before_missing : ∃ e s,
    (generate .default false .sameLocation ["m", "gone"]).on Example.files = (.error e, s) ∧
      e.isOfReading = true ∧
      ∃ visits job rest, jobs .default .sameLocation ["m", "gone"] =
          visits.map (·.job) ++ job :: rest ∧
        Visits .default Example.files visits s.files ∧
        ((SourceDirectory.read .default job.directory).on s.files).1 = .error e ∧
        s.emitted = writtenPaths visits ∧
        ∀ visit ∈ visits, visit.wrote = true → ∃ location last,
          s.files.resolve visit.path = .ok location ∧
          lastTo? s.files location visits = some last ∧
          s.files.node? location = some (.file (some last.text)) := by
  have hleads := Example.besideUsers_leads
  have hplain := (hleads.growth Example.plain).plain Example.plain
  obtain ⟨s, hfirst, hfiles, -⟩ := hleads.run Example.plain
  obtain ⟨e, hmissing⟩ : ∃ e, s.files.resolve "gone" = .error e := by
    rw [hfiles]
    cases hl : FileTree.resolve _ "gone" with
    | error e => exact ⟨e, rfl⟩
    | ok l => exact absurd ((hplain.resolve_name (by decide)).mp hl).2.1 (by decide)
  have hunread : ((SourceDirectory.read .default
      (Job.directory ⟨"gone", placeBeside .default "gone"⟩)).on s.files).1 = _ :=
    read_of_resolve_error .default hmissing
  obtain ⟨t, hsecond, -⟩ := Job.run_on_unread (hfiles ▸ hplain) false hunread
  have hon : (generate .default false .sameLocation ["m", "gone"]).on Example.files =
      (.error (.during .resolving "gone" (.file e)), s ++ t) := by
    show (generateEach .default false
      [Example.besideUsers.job, ⟨"gone", placeBeside .default "gone"⟩]).on _ = _
    refine Run.on_bind_error ?_
    rw [Run.on_mapM_cons_ok (Job.additive_run .default false) hfirst,
      Run.on_mapM_cons_error hsecond]
    rfl
  exact ⟨_, _, hon, rfl, (generate_leaves Example.plain hon).2.2.1 (by simp) rfl _ rfl rfl⟩

end RequestBinding.Generation
