import RequestBinding.Proofs.ModuleTargets

/-!
# What a dry run announces

A dry run reads every directory from one tree, since it writes nothing. The real run reads the
second directory from a tree in which the first module is already. It still reads the same, unless a
module is written among the sources of a directory: beside its sources a module has the ending that
is not read, and in a target directory it is not among them if that is none of the directories.

## Steps

* **Announcing.** A dry run that succeeds has read every directory from the tree, and announces the
  modules with path and size (`exists_visits_of_dry`, `dry_on`).
* **Reading again.** What was read stays readable under the writes of the visits, so the real run
  makes the visits of the dry run (`Between.readFrom`, `Visits.between`).
* **Writing.** Then it writes the modules that were announced, up to one that cannot be written
  (`Course.planned`).

## Main statements

* `dryRun_predicts` — what a dry run says of the real run.
-/

namespace RequestBinding

/-- A directory could not be created, or a file not written. -/
def Failure.isOfWriting : Failure → Bool
  | .during .creating _ _ => true
  | .during .writing _ _ => true
  | _ => false

namespace Generation

open FileTree SourceDirectory

/-! ## Modules to be written -/

/-- A module that goes to a path. -/
structure Output where
  path : String
  text : String

namespace Output

/-- The line that announces the module: its path, and the length of its text in UTF-8. -/
def announcement (output : Output) : String :=
  s!"🔍 Dry run: would write {output.path} ({output.text.utf8ByteSize} bytes)"

/-- Writes the text to the path. -/
def write (output : Output) : Run Unit :=
  makeParent output.path >>= fun _ => writeFile output.path output.text

theorem additive_write (output : Output) : output.write.Additive :=
  (additive_makeParent _).bind fun _ => additive_writeFile _ _

end Output

/-- Writes modules one after another. -/
def writeAll (outputs : List Output) : Run Unit := outputs.forM Output.write

/-- How writing modules to a tree ends, and the tree that it leaves. -/
def afterWriting (outputs : List Output) (files : FileTree) : Except Failure Unit × FileTree :=
  (((writeAll outputs).on files).1, ((writeAll outputs).on files).2.files)

section

variable {files : FileTree} {e : Failure} {s : RunState}

theorem Output.isOfWriting {output : Output} (h : output.write.on files = (.error e, s)) :
    e.isOfWriting = true := by
  obtain ⟨result, mid, hparent⟩ := makeParent_on files output.path
  rw [Output.write] at h
  cases result with
  | error e' =>
    obtain ⟨rfl, -⟩ : e' = e ∧ _ := by
      simpa using Prod.mk.inj ((Run.on_bind_error hparent).symm.trans h)
    rcases makeParent_cases output.path with hnothing | ⟨parent, -, hmake⟩
    · cases (hnothing files).symm.trans hparent
    · obtain ⟨he, -⟩ := Prod.mk.inj ((hmake files).symm.trans hparent)
      split at he
      · cases he
      · obtain rfl := Except.error.inj he
        rfl
  | ok _ =>
    rw [Run.on_bind_ok (fun _ => additive_writeFile _ _) hparent] at h
    cases hwrite : mid.write output.path (some output.text) with
    | error cause =>
      rw [show (RunState.of mid).files = mid from rfl, writeFile_on_error hwrite] at h
      obtain rfl := Except.error.inj (Prod.mk.inj h).1
      rfl
    | ok written =>
      rw [show (RunState.of mid).files = mid from rfl, writeFile_on_ok hwrite] at h
      cases (Prod.mk.inj h).1

/-- A module that is written is followed by the others. -/
theorem afterWriting_cons_ok {output : Output} (h : output.write.on files = (.ok (), s))
    (more : List Output) :
    afterWriting (output :: more) files = afterWriting more s.files := by
  have hall : (writeAll (output :: more)).on files =
      (((writeAll more).on s.files).1, s ++ ((writeAll more).on s.files).2) :=
    Run.on_bind_ok (fun _ => Run.additive_forM Output.additive_write more) h
  rw [afterWriting, hall]
  rfl

/-- A module that cannot be written is the last one that is tried. -/
theorem afterWriting_cons_error {output : Output} (h : output.write.on files = (.error e, s))
    (more : List Output) : afterWriting (output :: more) files = (.error e, s.files) := by
  have hall : (writeAll (output :: more)).on files = (.error e, s) := Run.on_bind_error h
  rw [afterWriting, hall]

/-- Writing modules only fails in writing one of them. -/
theorem isOfWriting_of_afterWriting {outputs : List Output}
    (h : (afterWriting outputs files).1 = .error e) : e.isOfWriting = true := by
  induction outputs generalizing files with
  | nil => cases h
  | cons output more ih =>
    cases hon : output.write.on files with
    | mk result t =>
      cases result with
      | error e' =>
        rw [afterWriting_cons_error hon] at h
        obtain rfl := Except.error.inj h
        exact Output.isOfWriting hon
      | ok _ =>
        rw [afterWriting_cons_ok hon] at h
        exact ih h

end

/-- The start of a line that announces a module. -/
def announcementStart : String := "🔍 Dry run: would write "

/-- The line announces a module. -/
def isAnnouncement (line : String) : Bool := line.startsWith announcementStart

theorem isAnnouncement_announcement (output : Output) :
    isAnnouncement output.announcement = true := by
  have hline : output.announcement = announcementStart ++ (output.path ++ (" (" ++
      (toString output.text.utf8ByteSize ++ " bytes)"))) := by
    simp only [← String.append_assoc]
    rfl
  rw [isAnnouncement, hline, String.startsWith_string_iff, String.toList_append]
  exact List.prefix_append _ _

theorem isAnnouncement_of_head? {line : String} {c : Char} (h : line.toList.head? = some c)
    (hc : c ≠ '🔍') : isAnnouncement line = false := by
  have hstart : announcementStart.toList.head? = some '🔍' := by
    rw [announcementStart, String.toList_ofList]
    rfl
  rw [isAnnouncement, String.startsWith_string_eq_false_iff]
  rintro ⟨more, hmore⟩
  rw [← hmore, List.head?_append, hstart] at h
  exact hc (Option.some.inj h).symm

/-- The module of a visit. -/
def Visit.output (visit : Visit) : Output := ⟨visit.path, visit.text⟩

theorem writeModule_eq_write (path : String) (records : List Record) (target : String) :
    writeModule path records target =
      Output.write ⟨path, BindingsModule.text target records⟩ := by
  rw [writeModule_eq, Output.write]

theorem Visit.write_eq (visit : Visit) : visit.write = visit.output.write := by
  rw [Visit.write, writeModule_eq_write, Visit.output, Visit.text]

/-- The modules that visits write, in order. -/
def outputs (visits : List Visit) : List Output := (visits.filter (·.wrote)).map (·.output)

theorem outputs_append (visits more : List Visit) :
    outputs (visits ++ more) = outputs visits ++ outputs more := by
  simp [outputs]

theorem outputs_cons_of_nothing {visit : Visit} (h : visit.read.records = []) (more : List Visit) :
    outputs (visit :: more) = outputs more := by
  simp [outputs, Visit.wrote, h]

theorem outputs_cons_of_wrote {visit : Visit} (h : visit.read.records ≠ []) (more : List Visit) :
    outputs (visit :: more) = visit.output :: outputs more := by
  simp [outputs, Visit.wrote_iff.mpr h]

theorem map_path_outputs (visits : List Visit) :
    (outputs visits).map (·.path) = writtenPaths visits := by
  induction visits with
  | nil => rfl
  | cons visit more ih =>
    rw [writtenPaths_cons, ← ih]
    by_cases h : visit.read.records = []
    · rw [outputs_cons_of_nothing h, Visit.path?_of_nothing h]
      rfl
    · rw [outputs_cons_of_wrote h, Visit.path?_of_wrote h]
      rfl

/-! ## What is announced -/

theorem report_announces_nothing (directory : String) (records : List Record) (files : FileTree) :
    ∃ printed told, (report directory records).on files = (.ok (), ⟨files, printed, told⟩) ∧
      printed.filter isAnnouncement = [] := by
  cases records with
  | nil =>
    refine ⟨_, _, Run.on_bind_ok (fun _ => Run.additive_tell _) (Run.on_print _ _), ?_⟩
    have hline : isAnnouncement ("No structs in " ++ directory) = false :=
      isAnnouncement_of_head? (c := 'N') (by simp) (by decide)
    simp [hline]
  | cons record more =>
    refine ⟨_, _, forM_print_on _ (record :: more) files, ?_⟩
    rw [List.filter_map, List.map_eq_nil_iff, List.filter_eq_nil_iff]
    intro record _
    have hline : isAnnouncement ("Parsed struct: " ++ record.name) = false :=
      isAnnouncement_of_head? (c := 'P') (by simp) (by decide)
    simp [hline]

/-- Reading and reporting announce nothing. -/
theorem readReporting_announces_nothing (settings : Settings) (directory : String)
    {files : FileTree} (h : files.Plain) :
    ((readReporting settings directory).on files).2.printed.filter isAnnouncement = [] := by
  obtain ⟨result, told, hread, -⟩ := read_on settings directory h
  rw [readReporting]
  cases result with
  | error e =>
    rw [Run.on_bind_error hread]
    rfl
  | ok read =>
    obtain ⟨printed, more, hreport, hnothing⟩ :=
      report_announces_nothing directory read.records files
    rw [Run.on_bind_ok (fun _ => (additive_report directory _).bind fun _ => Run.additive_pure _)
      hread, Run.on_bind_ok (fun _ => Run.additive_pure _) hreport, Run.on_pure]
    simpa using hnothing

theorem produce_dry (path : String) (records : List Record) (target : String) :
    produce true path records target =
      Run.print (Output.announcement ⟨path, BindingsModule.text target records⟩) := by
  unfold produce Output.announcement
  generalize BindingsModule.text target records = text
  simp only [if_true]

variable {settings : Settings} {files : FileTree}

/-- A visit on a dry run announces its module, if there is one. -/
theorem Job.dry_on (h : files.Plain) {visit : Visit} (hread : visit.ReadFrom settings files) :
    ∃ s, (visit.job.run settings true).on files = (.ok visit.path?, s) ∧ s.files = files ∧
      s.printed.filter isAnnouncement = (outputs [visit]).map (·.announcement) := by
  obtain ⟨result, printed, told, hon, hresult, -⟩ :=
    readReporting_on settings visit.job.directory h
  obtain rfl : result = .ok visit.read := hresult.symm.trans hread
  have hnothing := readReporting_announces_nothing settings visit.job.directory h
  rw [hon] at hnothing
  rw [Job.run_eq, Run.on_bind_ok (additive_produceAt _ _) hon]
  by_cases hempty : visit.read.records = []
  · rw [produceAt_on_nothing true visit.job.place hempty, outputs_cons_of_nothing hempty,
      Visit.path?_of_nothing hempty]
    refine ⟨_, rfl, rfl, ?_⟩
    rw [RunState.append_of]
    exact hnothing
  · have hproduce : (produceAt true visit.job.place visit.read).on files =
        (.ok (some visit.path), ⟨files, [visit.output.announcement], []⟩) := by
      rw [produceAt, if_neg (by simpa using hempty), produce_dry,
        Run.on_bind_ok (fun _ => Run.additive_pure _) (Run.on_print _ _), Run.on_pure]
      rfl
    rw [hproduce, outputs_cons_of_wrote hempty, Visit.path?_of_wrote hempty]
    refine ⟨_, rfl, rfl, ?_⟩
    rw [RunState.printed_append, List.filter_append, hnothing]
    simp [isAnnouncement_announcement, outputs]

/-- Visits on a dry run announce their modules in order. -/
theorem dry_on (h : files.Plain) {visits : List Visit}
    (hread : ∀ visit ∈ visits, visit.ReadFrom settings files) :
    ∃ s, ((visits.map (·.job)).mapM (Job.run settings true)).on files =
        (.ok (visits.map (·.path?)), s) ∧ s.files = files ∧
      s.printed.filter isAnnouncement = (outputs visits).map (·.announcement) := by
  induction visits with
  | nil => exact ⟨_, Run.on_mapM_nil, rfl, rfl⟩
  | cons visit more ih =>
    obtain ⟨s, hon, rfl, hprinted⟩ := Job.dry_on h (hread visit List.mem_cons_self)
    obtain ⟨t, hmore, hfiles, hprinted'⟩ := ih fun visit hvisit => hread visit (.tail _ hvisit)
    rw [List.map_cons, Run.on_mapM_cons_ok (Job.additive_run settings true) hon, hmore]
    refine ⟨_, rfl, hfiles, ?_⟩
    rw [RunState.printed_append, List.filter_append, hprinted, hprinted', ← List.map_append,
      ← outputs_append]
    rfl

/-- A dry run that succeeds has read all directories from the tree. -/
theorem exists_visits_of_dry (h : files.Plain) {all : List Job} {paths : List (Option String)}
    (hok : ((all.mapM (Job.run settings true)).on files).1 = .ok paths) :
    ∃ visits : List Visit, all = visits.map (·.job) ∧
      ∀ visit ∈ visits, visit.ReadFrom settings files := by
  have hall := Quiet.of_mapM_ok (Job.additive_run settings true) (Job.run_quiet settings) h hok
  clear hok
  induction all with
  | nil => exact ⟨[], rfl, by simp⟩
  | cons job all ih =>
    obtain ⟨visits, rfl, hvisits⟩ := ih fun job hjob => hall job (.tail _ hjob)
    obtain ⟨path?, hpath⟩ := hall job List.mem_cons_self
    cases hread : ((SourceDirectory.read settings job.directory).on files).1 with
    | error e =>
      obtain ⟨s, hon, -⟩ := Job.run_on_unread h true hread
      rw [hon] at hpath
      cases hpath
    | ok read => exact ⟨⟨job, read⟩ :: visits, rfl, List.forall_mem_cons.mpr ⟨hread, hvisits⟩⟩

/-! ## Reading again -/

/-- While the visits are made, no module of theirs lies among the sources of their directories. -/
def Spared (settings : Settings) (visits : List Visit) (final : FileTree) : Prop :=
  ∀ tree : FileTree, tree.Plain → Growth (fun _ => True) (fun _ => True) tree final →
    ∀ visit ∈ visits, ∀ name location, tree.resolve visit.job.directory = .ok location →
      tree.Reaches (writtenPaths visits) (name :: location) →
      isGenerated settings.generatedEnding name = true

/-- The tree is one between the first and the last, with some modules of the visits in it. -/
structure Between (visits : List Visit) (files final tree : FileTree) : Prop where
  before : Growth (fun _ => True) (tree.Reaches (writtenPaths visits)) files tree
  after : Growth (fun _ => True) (fun _ => True) tree final

section

variable {visits : List Visit} {final tree mid : FileTree}

/-- What was read at first is read again. -/
theorem Between.readFrom (h : files.Plain) (hspared : Spared settings visits final)
    (hbetween : Between visits files final tree) {visit : Visit} (hvisit : visit ∈ visits)
    (hread : visit.ReadFrom settings files) : visit.ReadFrom settings tree := by
  obtain ⟨hgrowth, hafter⟩ := hbetween
  obtain ⟨location, hl, hdir, hheld⟩ := heldAt_of_read h hread
  have hplain := hgrowth.plain h
  have hl' := hgrowth.resolve h hl
  refine read_of_heldAt hplain hl' (hgrowth.isDirectoryAt hdir) (hheld.growth h hgrowth ?_)
  exact fun name => hspared tree hplain hafter visit hvisit name location hl'

/-- A visit that is made leads on. -/
theorem Between.leads (h : files.Plain) (hbetween : Between visits files final tree)
    {visit : Visit} (hvisit : visit ∈ visits) (hleads : visit.Leads settings tree mid)
    (hafter : Growth (fun _ => True) (fun _ => True) mid final) :
    Between visits files final mid := by
  have hplain := hbetween.before.plain h
  have hstep := hleads.growth hplain
  refine ⟨.trans (hbetween.before.mono (fun _ => id) fun l hl => hstep.reaches hplain hl)
    (hstep.mono (fun _ _ => trivial) fun l hl => hl.subset ?_), hafter⟩
  intro path hpath
  exact List.mem_filterMap.mpr ⟨visit, hvisit, Option.mem_toList.mp hpath⟩

/-- The visits that are made are the planned ones, as far as they go. -/
theorem Visits.between (h : files.Plain) (hspared : Spared settings visits final)
    (hread : ∀ visit ∈ visits, visit.ReadFrom settings files) {done rest : List Visit}
    (hbetween : Between visits files final tree) (hvisits : Visits settings tree done mid)
    (hafter : Growth (fun _ => True) (fun _ => True) mid final) (hrest : rest ⊆ visits)
    (hjobs : done.map (·.job) <+: rest.map (·.job)) :
    done <+: rest ∧ Between visits files final mid := by
  -- Each visit has the job of a planned one and reads the same, so it is the planned one, and the
  -- tree that it leaves is again between the first and the last.
  induction hvisits generalizing rest with
  | nil => exact ⟨List.nil_prefix, hbetween⟩
  | @cons tree next mid visit more hleads hmore ih =>
    cases rest with
    | nil => simp at hjobs
    | cons planned rest =>
      obtain ⟨hjob, hjobs'⟩ := List.cons_prefix_cons.mp hjobs
      obtain ⟨hplanned, hrest'⟩ := List.cons_subset.mp hrest
      obtain rfl : visit = planned := Visit.eq_of_readFrom hjob hleads.readFrom
        (hbetween.readFrom h hspared hplanned (hread planned hplanned))
      have hplain := (hleads.growth (hbetween.before.plain h)).plain (hbetween.before.plain h)
      have hnext := hbetween.leads h hplanned hleads ((hmore.growth hplain).trans_any hafter)
      obtain ⟨hmore, hmid⟩ := ih hnext hafter hrest' hjobs'
      exact ⟨List.cons_prefix_cons.mpr ⟨rfl, hmore⟩, hmid⟩

end

/-! ## Writing -/

theorem afterWriting_of_visits {visits : List Visit} {mid : FileTree}
    (hvisits : Visits settings files visits mid) (more : List Output) :
    afterWriting (outputs visits ++ more) files = afterWriting more mid := by
  induction hvisits with
  | nil => rfl
  | @cons files mid after visit rest hleads _ ih =>
    cases hleads with
    | nothing _ hempty =>
      rw [outputs_cons_of_nothing hempty]
      exact ih
    | written _ hne hwrite =>
      rw [Visit.write_eq] at hwrite
      rw [outputs_cons_of_wrote hne, List.cons_append, afterWriting_cons_ok hwrite]
      exact ih

/-- What was planned is written, as far as it can be. -/
theorem Course.planned (h : files.Plain) {planned done : List Visit}
    (hread : ∀ visit ∈ planned, visit.ReadFrom settings files)
    {each : Except Failure (List (Option String))} {after : FileTree} {paths : List String}
    (hcourse : Course settings files done (planned.map (·.job)) each after paths)
    (hspared : Spared settings planned after) :
    done <+: planned ∧ paths <+: writtenPaths planned ∧
      each = (afterWriting (outputs planned) files).1.map (fun _ => planned.map (·.path?)) ∧
      after = (afterWriting (outputs planned) files).2 := by
  have hbetween (final : FileTree) (hafter : Growth (fun _ => True) (fun _ => True) files final) :
      Between planned files final files := ⟨.refl files, hafter⟩
  generalize hjobs : planned.map (·.job) = all at hcourse
  cases hcourse with
  | finished hvisits =>
    have hafter := (hvisits.growth h).mono (fun _ _ => trivial) fun _ _ => trivial
    obtain ⟨hdone, -⟩ := hvisits.between h hspared hread (hbetween after hafter) (.refl after)
      (List.Subset.refl planned) (hjobs ▸ List.prefix_refl _)
    obtain rfl : done = planned :=
      hdone.eq_of_length (by simpa using (congrArg List.length hjobs).symm)
    have hall := afterWriting_of_visits hvisits []
    rw [List.append_nil] at hall
    rw [hall]
    exact ⟨hdone, List.prefix_refl _, rfl, rfl⟩
  | @stopped mid after job rest e paths hvisits hfails =>
    have hplain := (hvisits.growth h).plain h
    have hfailed := hfails.growth hplain
    obtain ⟨⟨more, rfl⟩, hmid⟩ := hvisits.between h hspared hread
      (hbetween after ((hvisits.growth h).trans_any hfailed)) hfailed
      (List.Subset.refl planned) (hjobs ▸ List.prefix_append _ _)
    rw [List.map_append, List.append_cancel_left_eq] at hjobs
    obtain ⟨visit, more, rfl, rfl, rfl⟩ := List.map_eq_cons_iff.mp hjobs
    -- The directory was read at first, so it is read again: only its module can have failed.
    have hvisit : visit ∈ done ++ visit :: more := by simp
    have hagain := hmid.readFrom h hspared hvisit (hread visit hvisit)
    rw [outputs_append, afterWriting_of_visits hvisits]
    refine ⟨List.prefix_append _ _, ?_⟩
    cases hfails with
    | unread he => cases he.symm.trans hagain
    | @unwritten read _ s hread' hne hwrite =>
      obtain rfl : visit.read = read := Except.ok.inj (hagain.symm.trans hread')
      rw [Visit.write_eq] at hwrite
      rw [outputs_cons_of_wrote hne, afterWriting_cons_error hwrite]
      refine ⟨?_, rfl, rfl⟩
      rw [writtenPaths_append, writtenPaths_cons, Visit.path?_of_wrote hne]
      exact (List.prefix_append_right_inj _).mpr (List.prefix_append _ _)

/-! ## Where nothing is read that was written -/

section

variable {directories : List String} {visits : List Visit}

/-- Modules beside sources are no sources. -/
theorem spared_sameLocation (hending : IsEnding settings.generatedEnding) (h : files.Plain)
    (hread : ∀ visit ∈ visits, visit.ReadFrom settings files)
    (hjobs : jobs settings .sameLocation directories = visits.map (·.job)) (final : FileTree) :
    Spared settings visits final := by
  rintro tree htree - - - name location - ⟨path, hpath, hl⟩
  obtain ⟨visit, hvisit, -, rfl⟩ := mem_writtenPaths.mp hpath
  obtain ⟨directory, -, hjob⟩ := List.mem_map.mp (hjobs ▸ List.mem_map_of_mem hvisit)
  rw [Visit.path, ← hjob] at hl
  obtain ⟨_, -, hlocation⟩ := resolve_beside hending htree (.of_read h (hread visit hvisit)) hl
  rw [(List.cons.inj hlocation).1]
  exact isGenerated_append hending

/-- Modules in a directory that is none of those that are read are no sources of these. -/
theorem spared_perGroup {target : String} {modules : List String}
    (hjobs : jobs settings (.perGroup target modules) directories = visits.map (·.job))
    (hslash : ∀ module ∈ modules, '/' ∉ module.toList) {final : FileTree}
    (htarget : ∀ directory ∈ directories, ∀ location, final.resolve directory = .ok location →
      targetAt final target ≠ .ok location) :
    Spared settings visits final := by
  rintro tree htree hafter visit hvisit name location hdirectory ⟨path, hpath, hl⟩
  obtain ⟨visit', hvisit', -, rfl⟩ := mem_writtenPaths.mp hpath
  obtain ⟨⟨_, module⟩, hpair, hjob⟩ := List.mem_map.mp (hjobs ▸ List.mem_map_of_mem hvisit')
  rw [Visit.path, ← hjob] at hl
  -- The target was found where the directory is, so it is still found there at the end.
  obtain ⟨-, htargetAt⟩ :=
    targetAt_of_modulePath htree (hslash module (List.of_mem_zip hpair).2) hl
  exact absurd (targetAt_growth htree hafter htargetAt)
    (htarget visit.job.directory (directory_mem_of_mem_jobs (hjobs ▸ List.mem_map_of_mem hvisit))
      location (hafter.resolve htree hdirectory))

end

/-! ## One module of all directories -/

theorem readAll_announces_nothing (settings : Settings) (h : files.Plain)
    (directories : List String) :
    ((directories.mapM (readReporting settings)).on files).2.printed.filter isAnnouncement =
      [] := by
  induction directories with
  | nil => rfl
  | cons directory more ih =>
    obtain ⟨result, printed, told, hon, -⟩ := readReporting_on settings directory h
    have hnothing := readReporting_announces_nothing settings directory h
    rw [hon] at hnothing
    cases result with
    | error e =>
      rw [Run.on_mapM_cons_error hon]
      exact hnothing
    | ok read =>
      rw [Run.on_mapM_cons_ok (additive_readReporting settings) hon]
      simp only [RunState.printed_append, List.filter_append, hnothing, ih, List.append_nil]

section

variable {target module : String} {read : List SourceDirectory}

/-- The one module of all that was read. -/
def outputOfAll (target module : String) (read : List SourceDirectory) : Output :=
  ⟨modulePath target module, BindingsModule.text module (read.flatMap (·.records))⟩

variable (hne : read.flatMap (·.records) ≠ [])

include hne

theorem produceAll_dry_on :
    (produceAll true target module read).on files = (.ok [modulePath target module],
      ⟨files, [(outputOfAll target module read).announcement], []⟩) := by
  rw [produceAll, if_neg (by simpa using hne), produce_dry,
    Run.on_bind_ok (fun _ => Run.additive_pure _) (Run.on_print _ _), Run.on_pure]
  rfl

theorem produceAll_on_written (h : files.Plain) {result : Except Failure (List String)}
    {s : RunState} (hon : (produceAll false target module read).on files = (result, s)) :
    result = (afterWriting [outputOfAll target module read] files).1.map
        (fun _ => [modulePath target module]) ∧
      s.files = (afterWriting [outputOfAll target module read] files).2 ∧
      s.emitted = [modulePath target module] := by
  obtain ⟨written, t, s', hwrite, hproduce, hfiles, hemitted⟩ := produceAll_on h target module hne
  obtain ⟨rfl, rfl⟩ := Prod.mk.inj (hproduce.symm.trans hon)
  rw [writeModule_eq_write] at hwrite
  cases written with
  | error e =>
    rw [outputOfAll, afterWriting_cons_error hwrite]
    exact ⟨rfl, hfiles, hemitted⟩
  | ok _ =>
    rw [outputOfAll, afterWriting_cons_ok hwrite]
    exact ⟨rfl, hfiles, hemitted⟩

end

/-! ## What a dry run predicts -/

/-- A dry run that gives paths says of a real run that begins with the same tree: it writes these
modules, one after another, as far as they can be written. -/
structure Predicts (files : FileTree) (paths : List String) (dry : RunState)
    (result : Except Failure (List String)) (s : RunState) (outputs : List Output) : Prop where
  paths_eq : paths = outputs.map (·.path)
  /-- Of the lines that the dry run prints, these announce something. -/
  announced : dry.printed.filter isAnnouncement = outputs.map (·.announcement)
  result_eq : result = (afterWriting outputs files).1.map fun _ => paths
  files_eq : s.files = (afterWriting outputs files).2
  /-- A run that fails has begun to write some of the modules. -/
  emitted : s.emitted <+: paths

section

variable {plan : OutputPlan} {directories paths : List String} {dry s : RunState}
  {result : Except Failure (List String)}

/-- The real run gives the same paths, or fails in writing. -/
theorem Predicts.result_cases {outputs : List Output}
    (h : Predicts files paths dry result s outputs) :
    result = .ok paths ∨ ∃ e, result = .error e ∧ e.isOfWriting = true := by
  rw [h.result_eq]
  cases hwritten : (afterWriting outputs files).1 with
  | ok _ => exact .inl rfl
  | error e => exact .inr ⟨e, rfl, isOfWriting_of_afterWriting hwritten⟩

theorem generateSingle_predicts {target module : String} (h : files.Plain)
    (hdry : (generateSingle settings true directories target module).on files = (.ok paths, dry))
    (hon : (generateSingle settings false directories target module).on files = (result, s)) :
    ∃ outputs, Predicts files paths dry result s outputs := by
  have hquiet := Quiet.mapM (additive_readReporting settings) (readReporting_quiet settings)
    directories files h
  have hnothing := readAll_announces_nothing settings h directories
  rw [generateSingle_eq] at hdry hon
  -- All directories are read before anything is written, in both runs alike.
  generalize hall : (directories.mapM (readReporting settings)).on files = outcome
    at hquiet hnothing
  obtain ⟨all, t⟩ := outcome
  obtain ⟨rfl, hnone⟩ : t.files = files ∧ t.emitted = [] := hquiet
  cases all with
  | error e => cases (Run.on_bind_error hall).symm.trans hdry
  | ok read =>
    rw [Run.on_bind_ok (additive_produceAll _ _ _) hall] at hdry hon
    by_cases hempty : read.flatMap (·.records) = []
    · rw [produceAll_on_nothing _ hempty] at hdry hon
      obtain ⟨hpaths, rfl⟩ := Prod.mk.inj hdry
      obtain ⟨rfl, rfl⟩ := Prod.mk.inj hon
      obtain rfl := Except.ok.inj hpaths
      have hline : isAnnouncement nothingFound = false :=
        isAnnouncement_of_head? (c := 'N') (by simp [nothingFound]) (by decide)
      refine ⟨[], rfl, ?_, rfl, rfl, ?_⟩
      · rw [RunState.printed_append, List.filter_append, hnothing]
        simp [hline]
      · rw [RunState.emitted_append, hnone]
        exact List.prefix_refl _
    · rw [produceAll_dry_on hempty] at hdry
      obtain ⟨hpaths, rfl⟩ := Prod.mk.inj hdry
      obtain ⟨rfl, rfl⟩ := Prod.mk.inj hon
      obtain rfl := Except.ok.inj hpaths
      obtain ⟨hresult, hfiles, hemitted⟩ := produceAll_on_written hempty h (Prod.eta _).symm
      refine ⟨[outputOfAll target module read], rfl, ?_, hresult, hfiles, ?_⟩
      · rw [RunState.printed_append, List.filter_append, hnothing]
        simp [isAnnouncement_announcement]
      · rw [RunState.emitted_append, hnone, hemitted]
        exact List.prefix_refl _

/-- Directories that can be read are announced, each with its module. -/
theorem generateEach_dry_on (h : files.Plain) {visits : List Visit}
    (hread : ∀ visit ∈ visits, visit.ReadFrom settings files) :
    ∃ dry, (generateEach settings true (visits.map (·.job))).on files =
        (.ok (writtenPaths visits), dry) ∧
      dry.printed.filter isAnnouncement = (outputs visits).map (·.announcement) := by
  obtain ⟨dry, hall, -, hannounced⟩ := dry_on h hread
  rw [generateEach, Run.on_bind_ok (fun _ => Run.additive_pure _) hall, Run.on_pure,
    RunState.append_of, List.filterMap_map]
  exact ⟨dry, rfl, hannounced⟩

theorem generateEach_predicts {all : List Job} (h : files.Plain)
    (hdry : (generateEach settings true all).on files = (.ok paths, dry))
    (hon : (generateEach settings false all).on files = (result, s))
    (hspared : ∀ visits : List Visit, all = visits.map (·.job) →
      (∀ visit ∈ visits, visit.ReadFrom settings files) → Spared settings visits s.files) :
    ∃ visits done each, Predicts files paths dry result s (outputs visits) ∧
      all = visits.map (·.job) ∧ (∀ visit ∈ visits, visit.ReadFrom settings files) ∧
      done <+: visits ∧ Course settings files done all each s.files s.emitted := by
  obtain ⟨_, hok⟩ : ∃ paths, ((all.mapM (Job.run settings true)).on files).1 = .ok paths := by
    cases hall : (all.mapM (Job.run settings true)).on files with
    | mk each t =>
      cases each with
      | error e => cases (Run.on_bind_error hall).symm.trans hdry
      | ok paths => exact ⟨paths, rfl⟩
  obtain ⟨visits, rfl, hread⟩ := exists_visits_of_dry h hok
  obtain ⟨dry', hdry', hannounced⟩ := generateEach_dry_on h hread
  obtain ⟨hpaths, rfl⟩ := Prod.mk.inj (hdry'.symm.trans hdry)
  obtain rfl : writtenPaths visits = paths := Except.ok.inj hpaths
  obtain ⟨done, each, s', hon', hcourse⟩ := generateEach_on settings h (visits.map (·.job))
  obtain ⟨rfl, rfl⟩ := Prod.mk.inj (hon'.symm.trans hon)
  obtain ⟨hdone, hemitted, heach, hfiles⟩ :=
    Course.planned h hread hcourse (hspared visits rfl hread)
  refine ⟨visits, done, each, ⟨(map_path_outputs visits).symm, hannounced, ?_, hfiles, hemitted⟩,
    rfl, hread, hdone, hcourse⟩
  rw [heach]
  cases (afterWriting (outputs visits) files).1 with
  | error e => rfl
  | ok _ => exact congrArg Except.ok List.filterMap_map

/-- **What a dry run predicts.** If it gives paths, the real run from the same tree gives the same
ones or fails in writing. It writes the modules that were announced, one after another, and the size
in each announcement is that of the text that is written. A target directory for modules of their
own must not be one of the directories that are read, as it is found once all is written. -/
theorem dryRun_predicts (hending : IsEnding settings.generatedEnding) (h : files.Plain)
    (hdry : (generate settings true plan directories).on files = (.ok paths, dry))
    (hon : (generate settings false plan directories).on files = (result, s))
    (htarget : ∀ target modules, plan = .perGroup target modules →
      (∀ module ∈ modules, '/' ∉ module.toList) ∧
      ∀ directory ∈ directories, ∀ location, s.files.resolve directory = .ok location →
        targetAt s.files target ≠ .ok location) :
    ∃ foreseen, Predicts files paths dry result s foreseen ∧
      (result = .ok paths ∨ ∃ e, result = .error e ∧ e.isOfWriting = true) ∧
      ((∀ target module, plan ≠ .singleGroup target module) →
        ∃ visits done each, foreseen = outputs visits ∧
          jobs settings plan directories = visits.map (·.job) ∧
          (∀ visit ∈ visits, visit.ReadFrom settings files) ∧ done <+: visits ∧
          Course settings files done (jobs settings plan directories) each s.files s.emitted) := by
  rcases generate_cases settings true plan directories with
    ⟨e, -, hgenerate⟩ | ⟨hplan, ⟨target, module, rfl, hgenerate⟩ | ⟨hsingle, hgenerate⟩⟩
  · rw [hgenerate] at hdry
    cases hdry
  · have hreal : generate settings false (.singleGroup target module) directories =
        generateSingle settings false directories target module := by
      rw [generate, hplan]
    rw [hgenerate] at hdry
    rw [hreal] at hon
    obtain ⟨foreseen, hpredicts⟩ := generateSingle_predicts h hdry hon
    exact ⟨foreseen, hpredicts, hpredicts.result_cases,
      fun hsingle => absurd rfl (hsingle target module)⟩
  · rw [hgenerate] at hdry
    rw [generate_eq_generateEach settings false hplan hsingle] at hon
    have hspared (visits : List Visit) (hjobs : jobs settings plan directories =
        visits.map (·.job)) (hread : ∀ visit ∈ visits, visit.ReadFrom settings files) :
        Spared settings visits s.files := by
      cases plan with
      | sameLocation => exact spared_sameLocation hending h hread hjobs s.files
      | perGroup target modules =>
        obtain ⟨hslash, hapart⟩ := htarget target modules rfl
        exact spared_perGroup hjobs hslash hapart
      | singleGroup target module => exact absurd rfl (hsingle target module)
    obtain ⟨visits, done, each, hpredicts, hvisits⟩ := generateEach_predicts h hdry hon hspared
    exact ⟨outputs visits, hpredicts, hpredicts.result_cases,
      fun _ => ⟨visits, done, each, rfl, hvisits⟩⟩

end

/-! ## An example -/

namespace Example

/-- The modules of `m` and `k` in a directory of their own. -/
def apart : List Visit := [usersIn "x", keysIn "y"]

theorem readFrom_apart : ∀ visit ∈ apart, visit.ReadFrom .default Example.files := by
  intro visit hvisit
  have hnothing : Growth (fun _ => False) (fun _ => False) Example.files Example.files :=
    .refl Example.files
  obtain rfl | rfl : visit = usersIn "x" ∨ visit = keysIn "y" := by simpa [apart] using hvisit
  · exact readFrom_m rfl rfl
  · exact read_later hnothing (by decide) held_keys (by simp)

theorem visits_apart : Visits .default Example.files apart
    (withX.put ["y.rs", "out"] (.file (some (keysIn "y").text))) :=
  .cons usersInX_leads (.cons (keysIn_leads (by decide) rfl (by decide)) .nil)

theorem writtenPaths_apart : writtenPaths apart = ["out/x.rs", "out/y.rs"] := by
  have hx : (usersIn "x").path = "out/x.rs" := (join_of_mem (by decide) (by decide)).trans rfl
  have hy : (keysIn "y").path = "out/y.rs" := (join_of_mem (by decide) (by decide)).trans rfl
  rw [apart, writtenPaths_cons, writtenPaths_cons, Visit.path?_of_wrote users_ne_nil,
    Visit.path?_of_wrote keys_ne_nil, hx, hy]
  rfl

end Example

/-- Two directories and a third one for their modules: both are announced and written. -/
theorem dryRun_predicts_apart : ∃ dry s foreseen,
    (generate .default true (.perGroup "out" ["x", "y"]) ["m", "k"]).on Example.files =
        (.ok ["out/x.rs", "out/y.rs"], dry) ∧
      (generate .default false (.perGroup "out" ["x", "y"]) ["m", "k"]).on Example.files =
        (.ok ["out/x.rs", "out/y.rs"], s) ∧
      Predicts Example.files ["out/x.rs", "out/y.rs"] dry (.ok ["out/x.rs", "out/y.rs"]) s
        foreseen := by
  have hending : IsEnding Settings.default.generatedEnding := ⟨by decide, by decide⟩
  have hplan : (OutputPlan.perGroup "out" ["x", "y"]).error? ["m", "k"].length = none :=
    error?_perGroup.mpr ⟨by decide, rfl, Example.isModuleName_of_subset (by decide)⟩
  obtain ⟨dry, hdry, -⟩ := generateEach_dry_on Example.plain Example.readFrom_apart
  obtain ⟨s, hon, hfiles, -⟩ :=
    generate_of_visits Example.plain hplan (by simp) rfl Example.visits_apart
  have hdry' : (generate .default true (.perGroup "out" ["x", "y"]) ["m", "k"]).on Example.files =
      (.ok (writtenPaths Example.apart), dry) := by
    rw [generate_eq_generateEach .default true hplan (by simp)]
    exact hdry
  rw [Example.writtenPaths_apart] at hon hdry'
  -- The modules go to a directory that none of the two is.
  have hgrowth := Example.visits_apart.growth Example.plain
  rw [← hfiles] at hgrowth
  have hplace (directory : String) (hmem : directory ∈ ["m", "k", "out"]) :
      s.files.resolve directory = .ok [directory] :=
    hgrowth.resolve Example.plain (Example.resolve_directory hmem)
  have hapart : ∀ directory ∈ ["m", "k"], ∀ location, s.files.resolve directory = .ok location →
      targetAt s.files "out" ≠ .ok location := by
    intro directory hdirectory location hl htarget
    have hmem : directory ∈ ["m", "k", "out"] := List.mem_append_left ["out"] hdirectory
    rw [hplace directory hmem] at hl
    rw [targetAt, if_neg (by decide), hplace "out" (by decide), ← hl] at htarget
    obtain rfl : "out" = directory := List.singleton_inj.mp (Except.ok.inj htarget)
    revert hdirectory
    decide
  obtain ⟨foreseen, hpredicts, -⟩ := dryRun_predicts hending Example.plain hdry' hon
    fun target modules hsame => by
      obtain ⟨rfl, rfl⟩ := OutputPlan.perGroup.inj hsame
      exact ⟨by decide, hapart⟩
  exact ⟨dry, s, foreseen, hdry', hon, hpredicts⟩

end Generation

end RequestBinding
