import RequestBinding.Proofs.DirectoryReading
import RequestBinding.Proofs.ModuleWriting

/-!
# Generation step by step

A directory is read, and what it holds is reported; then its module is produced. So either it cannot
be read, or it has no records and nothing happens, or its module is written, which may fail.

## Main statements

* `readReporting_on` — reading and reporting change nothing.
* `Job.run_on_unread`, `Job.run_on_nothing`, `Job.run_on_written` — how a directory is dealt with.
-/

namespace RequestBinding.Generation

open FileTree SourceDirectory

/-! ## Additive steps -/

theorem additive_report (directory : String) (records : List Record) :
    (report directory records).Additive := by
  cases records with
  | nil => exact (Run.additive_print _).bind fun _ => Run.additive_tell _
  | cons record more => exact Run.additive_forM (fun _ => Run.additive_print _) _

theorem additive_readReporting (settings : Settings) (directory : String) :
    (readReporting settings directory).Additive :=
  (additive_read settings directory).bind fun _ => (additive_report directory _).bind
    fun _ => Run.additive_pure _

theorem additive_produce (dryRun : Bool) (path : String) (records : List Record) (target : String) :
    (produce dryRun path records target).Additive := by
  cases dryRun
  · exact (Run.additive_tell _).bind fun _ => additive_writeModule path records target
  · exact Run.additive_print _

theorem additive_generateOne (settings : Settings) (dryRun : Bool) (directory : String)
    (place : SourceDirectory → String × String) :
    (generateOne settings dryRun directory place).Additive := by
  refine (additive_readReporting settings directory).bind fun read => ?_
  split
  · exact Run.additive_pure _
  · exact (additive_produce dryRun _ _ _).bind fun _ => Run.additive_pure _

/-! ## Reading and reporting -/

/-- The events say nothing of files that were read or written. -/
def Silent (events : List Event) : Prop :=
  events.filterMap (·.parsedPath?) = [] ∧ events.filterMap (·.writtenPath?) = []

theorem forM_print_on (line : α → String) (all : List α) (files : FileTree) :
    (all.forM fun a => Run.print (line a)).on files = (.ok (), ⟨files, all.map line, []⟩) := by
  induction all with
  | nil => rfl
  | cons a more ih =>
    show (Run.print (line a) >>= fun _ => more.forM fun a => Run.print (line a)).on files = _
    rw [Run.on_bind_ok (fun _ => Run.additive_forM (fun _ => Run.additive_print _) _)
      (Run.on_print _ _), ih]
    rfl

theorem report_on (directory : String) (records : List Record) (files : FileTree) :
    ∃ printed told, (report directory records).on files = (.ok (), ⟨files, printed, told⟩) ∧
      Silent told := by
  cases records with
  | nil =>
    exact ⟨_, _, Run.on_bind_ok (fun _ => Run.additive_tell _) (Run.on_print _ _), rfl, rfl⟩
  | cons record more => exact ⟨_, _, forM_print_on _ (record :: more) files, rfl, rfl⟩

/-- Reporting what was read adds nothing of importance. -/
theorem readReporting_on (settings : Settings) (directory : String) {files : FileTree}
    (h : files.Plain) :
    ∃ result printed told,
      (readReporting settings directory).on files = (result, ⟨files, printed, told⟩) ∧
      ((SourceDirectory.read settings directory).on files).1 = result ∧
      ReadOutcome settings files directory result told := by
  obtain ⟨result, told, hread, houtcome⟩ := read_on settings directory h
  rw [readReporting]
  cases result with
  | error e => exact ⟨_, _, _, Run.on_bind_error hread, by rw [hread], houtcome⟩
  | ok read =>
    obtain ⟨printed, more, hreport, hparsed, hwritten⟩ := report_on directory read.records files
    refine ⟨.ok read, printed, told ++ more, ?_, by rw [hread],
      houtcome.eq_ok, houtcome.isOfReading, ?_, ?_⟩
    · rw [Run.on_bind_ok (fun _ => (additive_report directory _).bind fun _ => Run.additive_pure _)
        hread, Run.on_bind_ok (fun _ => Run.additive_pure _) hreport, Run.on_pure]
      show (Except.ok read, RunState.mk _ _ _) = (Except.ok read, RunState.mk _ _ _)
      simp
    · simpa [Run.readPaths_ok, hparsed] using houtcome.readPaths
    · rw [List.filterMap_append, houtcome.noneWritten, hwritten]
      rfl

/-! ## One directory -/

/-- A directory to be read, and where its module goes: a path and the name of the target. -/
structure Job where
  directory : String
  place : SourceDirectory → String × String

/-- Reads the directory and writes its module. -/
def Job.run (settings : Settings) (dryRun : Bool) (job : Job) : Run (Option String) :=
  generateOne settings dryRun job.directory job.place

theorem Job.additive_run (settings : Settings) (dryRun : Bool) (job : Job) :
    (job.run settings dryRun).Additive := additive_generateOne settings dryRun _ _

/-- What is done after a directory was read. -/
def produceAt (dryRun : Bool) (place : SourceDirectory → String × String)
    (read : SourceDirectory) : Run (Option String) :=
  if read.records.isEmpty then pure none
  else do
    produce dryRun (place read).1 read.records (place read).2
    return some (place read).1

theorem additive_produceAt (dryRun : Bool) (place : SourceDirectory → String × String)
    (read : SourceDirectory) : (produceAt dryRun place read).Additive := by
  rw [produceAt]
  split
  · exact Run.additive_pure _
  · exact (additive_produce dryRun _ _ _).bind fun _ => Run.additive_pure _

theorem Job.run_eq (settings : Settings) (dryRun : Bool) (job : Job) :
    job.run settings dryRun =
      readReporting settings job.directory >>= produceAt dryRun job.place := rfl

theorem produceAt_on_nothing (dryRun : Bool) (place : SourceDirectory → String × String)
    {read : SourceDirectory} (hempty : read.records = []) (files : FileTree) :
    (produceAt dryRun place read).on files = (.ok none, .of files) := by
  rw [produceAt, if_pos (by simp [hempty])]
  rfl

/-- A module is produced by writing it, which is told before. -/
theorem produce_on {path target : String} {records : List Record} {files : FileTree}
    {result : Except Failure Unit} {s : RunState}
    (h : (writeModule path records target).on files = (result, s)) :
    (produce false path records target).on files =
      (result, ⟨s.files, s.printed, .writing path records.length target :: s.events⟩) := by
  show (Run.tell _ >>= fun _ => writeModule _ _ _).on files = _
  rw [Run.on_bind_ok (fun _ => additive_writeModule _ _ _) (Run.on_tell _ _), h]
  rfl

theorem produceAt_on_written {place : SourceDirectory → String × String} {read : SourceDirectory}
    (hne : read.records ≠ []) {files : FileTree} {result : Except Failure Unit} {s : RunState}
    (h : (writeModule (place read).1 read.records (place read).2).on files = (result, s)) :
    (produceAt false place read).on files = (result.map fun _ => some (place read).1,
      ⟨s.files, s.printed,
        .writing (place read).1 read.records.length (place read).2 :: s.events⟩) := by
  rw [produceAt, if_neg (by simpa using hne)]
  cases result with
  | error e => exact Run.on_bind_error (produce_on h)
  | ok _ =>
    rw [Run.on_bind_ok (fun _ => Run.additive_pure _) (produce_on h), Run.on_pure]
    show (_, RunState.mk _ _ _) = _
    simp [Except.map]

namespace Job

variable {settings : Settings} {job : Job} {files : FileTree} (h : files.Plain)

include h

theorem run_on_unread (dryRun : Bool) {e : Failure}
    (he : ((SourceDirectory.read settings job.directory).on files).1 = .error e) :
    ∃ s, (job.run settings dryRun).on files = (.error e, s) ∧ s.files = files ∧ s.emitted = [] := by
  obtain ⟨result, printed, told, hon, hread, houtcome⟩ := readReporting_on settings job.directory h
  obtain rfl : result = .error e := hread.symm.trans he
  rw [run_eq]
  exact ⟨_, Run.on_bind_error hon, rfl, houtcome.noneWritten⟩

section

variable {read : SourceDirectory}
  (hread : ((SourceDirectory.read settings job.directory).on files).1 = .ok read)

include hread

theorem run_on_read (dryRun : Bool) {result : Except Failure (Option String)} {t : RunState}
    (hproduce : (produceAt dryRun job.place read).on files = (result, t)) :
    ∃ s, (job.run settings dryRun).on files = (result, s) ∧ s.files = t.files ∧
      s.emitted = t.emitted := by
  obtain ⟨result, printed, told, hon, hresult, houtcome⟩ :=
    readReporting_on settings job.directory h
  obtain rfl : result = .ok read := hresult.symm.trans hread
  have hnone : (⟨files, printed, told⟩ : RunState).emitted = [] := houtcome.noneWritten
  rw [run_eq, Run.on_bind_ok (additive_produceAt _ _) hon, hproduce]
  exact ⟨_, rfl, rfl, by rw [RunState.emitted_append, hnone, List.nil_append]⟩

/-- A directory without records gives no module. -/
theorem run_on_nothing (dryRun : Bool) (hempty : read.records = []) :
    ∃ s, (job.run settings dryRun).on files = (.ok none, s) ∧ s.files = files ∧ s.emitted = [] :=
  run_on_read h hread dryRun (produceAt_on_nothing dryRun job.place hempty files)

/-- A directory with records gives a module, if it can be written. -/
theorem run_on_written (hne : read.records ≠ []) {result : Except Failure Unit} {t : RunState}
    (hwrite : (writeModule (job.place read).1 read.records (job.place read).2).on files =
      (result, t)) :
    ∃ s, (job.run settings false).on files = (result.map fun _ => some (job.place read).1, s) ∧
      s.files = t.files ∧ s.emitted = [(job.place read).1] := by
  obtain ⟨s, hon, hfiles, hemitted⟩ := run_on_read h hread false (produceAt_on_written hne hwrite)
  rw [(written_of_on h hwrite).1] at hemitted
  exact ⟨s, hon, hfiles, hemitted⟩

end

end Job

end RequestBinding.Generation
