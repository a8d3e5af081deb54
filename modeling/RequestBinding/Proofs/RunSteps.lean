import RequestBinding.Run

/-!
# Runs step by step

A run is decided by the file tree it begins with: the lines and events of before are kept and its
own are added after them (`Run.Additive`). So it is enough to look at runs that begin with nothing
but a tree (`Run.on`), and a run put together of two is described by the two.

## Main statements

* `Run.on_bind_ok`, `Run.on_bind_error` — a run goes on after a success and stops at a failure.
* `Run.on_mapM_cons_ok`, `Run.on_mapM_cons_error` — the same for a run for each element of a list.
* `Run.readPaths`, `RunState.emitted` — the paths that a run read and wrote, from what it tells.
-/

namespace RequestBinding

/-! ## States one after another -/

/-- The second state with the lines and events of the first before its own. -/
instance : Append RunState where
  append s t := ⟨t.files, s.printed ++ t.printed, s.events ++ t.events⟩

namespace RunState

@[simp] theorem files_append (s t : RunState) : (s ++ t).files = t.files := rfl

@[simp] theorem printed_append (s t : RunState) : (s ++ t).printed = s.printed ++ t.printed := rfl

@[simp] theorem events_append (s t : RunState) : (s ++ t).events = s.events ++ t.events := rfl

@[simp] theorem files_of (files : FileTree) : (RunState.of files).files = files := rfl

@[simp] theorem printed_of (files : FileTree) : (RunState.of files).printed = [] := rfl

@[simp] theorem events_of (files : FileTree) : (RunState.of files).events = [] := rfl

theorem append_assoc (s t u : RunState) : s ++ t ++ u = s ++ (t ++ u) := by
  show RunState.mk _ _ _ = RunState.mk _ _ _
  simp

@[simp] theorem append_of (s : RunState) : s ++ RunState.of s.files = s := by
  show RunState.mk _ _ _ = s
  simp

end RunState

namespace Run

/-! ## Runs from a tree -/

/-- How a run ends that begins with a file tree and nothing put out. -/
def on (run : Run α) (files : FileTree) : Except Failure α × RunState :=
  ExceptT.run run |>.run (RunState.of files)

/-- A run is decided by the tree it begins with and only adds lines and events. -/
def Additive (run : Run α) : Prop :=
  ∀ s : RunState, (ExceptT.run run).run s = ((run.on s.files).1, s ++ (run.on s.files).2)

@[simp] theorem on_pure (a : α) (files : FileTree) :
    (pure a : Run α).on files = (.ok a, .of files) := rfl

@[simp] theorem on_throw (e : Failure) (files : FileTree) :
    (throw e : Run α).on files = (.error e, .of files) := rfl

@[simp] theorem on_files (files : FileTree) : Run.files.on files = (.ok files, .of files) := rfl

@[simp] theorem on_setFiles (made files : FileTree) :
    (setFiles made).on files = (.ok (), .of made) := rfl

@[simp] theorem on_print (line : String) (files : FileTree) :
    (print line).on files = (.ok (), ⟨files, [line], []⟩) := rfl

@[simp] theorem on_tellAll (events : List Event) (files : FileTree) :
    (tellAll events).on files = (.ok (), ⟨files, [], events⟩) := rfl

@[simp] theorem on_tell (event : Event) (files : FileTree) :
    (tell event).on files = (.ok (), ⟨files, [], [event]⟩) := rfl

@[simp] theorem on_require_ok (step : Step) (path : String) (a : α) (files : FileTree) :
    (require step path (.ok a)).on files = (.ok a, .of files) := rfl

@[simp] theorem on_require_error (step : Step) (path : String) (e : FileError)
    (files : FileTree) :
    (require step path (.error e : Except FileError α)).on files =
      (.error (.during step path (.file e)), .of files) := rfl

/-! ## Additive runs -/

theorem additive_pure (a : α) : Additive (pure a : Run α) := fun s => by simp [on_pure]; rfl

theorem additive_throw (e : Failure) : Additive (throw e : Run α) := fun s => by
  simp [on_throw]; rfl

theorem additive_files : Additive Run.files := fun s => by simp [on_files]; rfl

theorem additive_setFiles (made : FileTree) : Additive (setFiles made) := fun s => by
  rw [on_setFiles]
  show (Except.ok (), _) = (Except.ok (), RunState.mk _ _ _)
  simp

theorem additive_print (line : String) : Additive (print line) := fun s => by
  rw [on_print]
  show (Except.ok (), _) = (Except.ok (), RunState.mk _ _ _)
  simp

theorem additive_tellAll (events : List Event) : Additive (tellAll events) := fun s => by
  rw [on_tellAll]
  show (Except.ok (), _) = (Except.ok (), RunState.mk _ _ _)
  simp

theorem additive_tell (event : Event) : Additive (tell event) := additive_tellAll [event]

theorem additive_require (step : Step) (path : String) (result : Except FileError α) :
    Additive (require step path result) := by
  cases result with
  | ok a => exact additive_pure a
  | error e => exact additive_throw _

section Bind

variable {run : Run α} {next : α → Run β} {files : FileTree}

theorem run_bind (run : Run α) (next : α → Run β) (s : RunState) :
    (ExceptT.run (run >>= next)).run s =
      match (ExceptT.run run).run s with
      | (.ok a, t) => (ExceptT.run (next a)).run t
      | (.error e, t) => (.error e, t) := by
  show (match (ExceptT.run run).run s with
    | (r, t) => (ExceptT.bindCont next r).run t) = _
  obtain ⟨r, t⟩ := (ExceptT.run run).run s
  cases r <;> rfl

/-- After a success the run goes on with the tree it left. -/
theorem on_bind_ok (hnext : ∀ a, (next a).Additive) {a : α} {s : RunState}
    (h : run.on files = (.ok a, s)) :
    (run >>= next).on files = (((next a).on s.files).1, s ++ ((next a).on s.files).2) := by
  rw [on, run_bind]
  rw [on] at h
  rw [h]
  exact hnext a s

/-- A failure ends the run. -/
theorem on_bind_error {e : Failure} {s : RunState} (h : run.on files = (.error e, s)) :
    (run >>= next).on files = (.error e, s) := by
  rw [on, run_bind]
  rw [on] at h
  rw [h]

/-- What changed nothing so far does not matter. -/
theorem on_bind_of {a : α} (h : run.on files = (.ok a, .of files)) :
    (run >>= next).on files = (next a).on files := by
  rw [on, run_bind]
  rw [on] at h
  rw [h]
  rfl

theorem Additive.bind (hrun : run.Additive) (hnext : ∀ a, (next a).Additive) :
    (run >>= next).Additive := by
  intro s
  rw [run_bind, hrun s]
  cases h : run.on s.files with
  | mk r t =>
    cases r with
    | ok a =>
      rw [on_bind_ok hnext h]
      show (ExceptT.run (next a)).run (s ++ t) = _
      rw [hnext a (s ++ t), RunState.append_assoc, RunState.files_append]
    | error e =>
      rw [on_bind_error h]

end Bind

/-! ## A run for each element -/

section Each

variable {step : α → Run β}

theorem additive_mapM (hstep : ∀ a, (step a).Additive) (as : List α) :
    (as.mapM step).Additive := by
  induction as with
  | nil => exact additive_pure []
  | cons a as ih =>
    rw [List.mapM_cons]
    exact (hstep a).bind fun b => ih.bind fun bs => additive_pure (b :: bs)

theorem additive_forM {step : α → Run PUnit} (hstep : ∀ a, (step a).Additive) (as : List α) :
    (as.forM step).Additive := by
  induction as with
  | nil => exact additive_pure PUnit.unit
  | cons a as ih => exact (hstep a).bind fun _ => ih

variable {a : α} {as : List α} {files : FileTree}

theorem on_mapM_nil : (([] : List α).mapM step).on files = (.ok [], .of files) := rfl

/-- The elements after a success are run from the tree that it left. -/
theorem on_mapM_cons_ok (hstep : ∀ a, (step a).Additive) {b : β} {s : RunState}
    (h : (step a).on files = (.ok b, s)) :
    ((a :: as).mapM step).on files =
      (((as.mapM step).on s.files).1.map (b :: ·), s ++ ((as.mapM step).on s.files).2) := by
  have hrest : ∀ b, (as.mapM step >>= fun bs => pure (b :: bs)).Additive := fun b =>
    (additive_mapM hstep as).bind fun bs => additive_pure (b :: bs)
  rw [List.mapM_cons, on_bind_ok hrest h]
  cases hmore : (as.mapM step).on s.files with
  | mk r t =>
    cases r with
    | ok bs =>
      rw [on_bind_ok (fun bs => additive_pure _) hmore, on_pure, RunState.append_of]
      rfl
    | error e =>
      rw [on_bind_error hmore]
      rfl

/-- The elements after a failure are not run. -/
theorem on_mapM_cons_error {e : Failure} {s : RunState} (h : (step a).on files = (.error e, s)) :
    ((a :: as).mapM step).on files = (.error e, s) := by
  rw [List.mapM_cons, on_bind_error h]

end Each

end Run

/-! ## What a run read and wrote -/

/-- The path of the source that an event says was read. -/
def Event.parsedPath? : Event → Option String
  | .parsedFile path _ => some path
  | _ => none

/-- The path that an event says a module is written to. -/
def Event.writtenPath? : Event → Option String
  | .writing path _ _ => some path
  | _ => none

/-- The path of the source that could not be read or parsed. -/
def Failure.sourcePath? : Failure → Option String
  | .during .reading path _ => some path
  | .during .parsing path _ => some path
  | _ => none

/-- A directory could not be read: it has no name for a module, or could not be listed, or one of
its sources could not be read or parsed. -/
def Failure.isOfReading : Failure → Bool
  | .noGroupName _ => true
  | .badGroupName _ => true
  | .during .resolving _ _ => true
  | .during .listing _ _ => true
  | .during .reading _ _ => true
  | .during .parsing _ _ => true
  | _ => false

theorem Failure.sourcePath?_of_not_isOfReading {e : Failure} (h : e.isOfReading = false) :
    e.sourcePath? = none := by
  cases e with
  | during step path cause => cases step <;> first | rfl | cases h
  | _ => rfl

/-- The paths of the sources that a run read: those it tells of, and one that made it fail. -/
def Run.readPaths (result : Except Failure α) (events : List Event) : List String :=
  events.filterMap (·.parsedPath?) ++
    match result with
    | .error e => e.sourcePath?.toList
    | .ok _ => []

/-- The paths that modules were written to, or begun to be, in order. -/
def RunState.emitted (state : RunState) : List String := state.events.filterMap (·.writtenPath?)

namespace Run

theorem readPaths_ok (a : α) (events : List Event) :
    readPaths (.ok a) events = events.filterMap (·.parsedPath?) := by simp [readPaths]

theorem readPaths_error (e : Failure) (events : List Event) :
    readPaths (.error e : Except Failure α) events =
      events.filterMap (·.parsedPath?) ++ e.sourcePath?.toList := rfl

theorem readPaths_append (result : Except Failure α) (events more : List Event) :
    readPaths result (events ++ more) =
      events.filterMap (·.parsedPath?) ++ readPaths result more := by
  simp [readPaths]

theorem readPaths_map (f : α → β) (result : Except Failure α) (events : List Event) :
    readPaths (result.map f) events = readPaths result events := by
  cases result <;> rfl

end Run

@[simp] theorem RunState.emitted_append (s t : RunState) :
    (s ++ t).emitted = s.emitted ++ t.emitted := by simp [emitted]

end RequestBinding
