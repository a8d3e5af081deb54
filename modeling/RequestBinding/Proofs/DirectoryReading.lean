import Mathlib.Data.List.Nodup
import Mathlib.Data.String.Basic
import RequestBinding.Directory
import RequestBinding.Proofs.RunSteps
import RequestBinding.Proofs.TreeGrowth

/-!
# What reading a directory gives

Reading changes no file. What it gives is decided by the location that the path leads to: the last
name of the location, and the texts of the sources in it in the order of their names (`HeldAt`). So
it stays the same as long as only generated files are written there.

## Main statements

* `HeldAt.growth` — writing generated files changes nothing in what is held.
* `read_on` — what reading gives, and that it reads sources and nothing else (`ReadOutcome`).
* `read_of_heldAt`, `heldAt_of_read` — reading succeeds with what is held at the location.
-/

namespace RequestBinding

open FileTree

/-! ## Events about sources -/

/-- The event is about what is in a source. -/
def Event.isAboutContents : Event → Bool
  | .skippedTestModule _ => true
  | .skippedLocalStruct _ => true
  | .ignoredDirective _ _ _ => true
  | _ => false

theorem Event.parsedPath?_of_isAboutContents {event : Event}
    (h : event.isAboutContents = true) : event.parsedPath? = none := by
  cases event <;> first | rfl | cases h

theorem Event.writtenPath?_of_isAboutContents {event : Event}
    (h : event.isAboutContents = true) : event.writtenPath? = none := by
  cases event <;> first | rfl | cases h

namespace Extraction

open Source

theorem isAboutContents_keepValid (field key : String)
    (directive : Option (Except DirectiveError α)) :
    ∀ event ∈ (keepValid field key directive).2, event.isAboutContents = true := by
  rcases directive with _ | (_ | _) <;> simp [keepValid, Event.isAboutContents]

theorem isAboutContents_readField {attr : String} {field : NamedField} {field? : Option Field}
    {events : List Event} (h : readField attr field = .ok (field?, events)) :
    ∀ event ∈ events, event.isAboutContents = true := by
  rw [readField] at h
  split at h
  · cases h
  · obtain ⟨rfl, rfl⟩ := Prod.mk.inj (Except.ok.inj h)
    simp
  · obtain ⟨-, rfl⟩ := Prod.mk.inj (Except.ok.inj h)
    intro event hevent
    rcases List.mem_append.mp hevent with hevent | hevent
    · exact isAboutContents_keepValid _ _ _ event hevent
    · exact isAboutContents_keepValid _ _ _ event hevent

theorem isAboutContents_readFields (attr : String) (fields : List NamedField) :
    ∀ event ∈ (readFields attr fields).2, event.isAboutContents = true := by
  induction fields with
  | nil => simp [readFields]
  | cons field more ih =>
    rw [readFields]
    split
    · simp
    · next hfield =>
      intro event hevent
      rcases List.mem_append.mp hevent with hevent | hevent
      · exact isAboutContents_readField hfield event hevent
      · exact ih event hevent

theorem isAboutContents_structFindings {attr : String} {place : Place} {name : Word}
    {fields : List NamedField} {event : Event}
    (h : .event event ∈ structFindings attr place name fields) : event.isAboutContents = true := by
  rw [structFindings] at h
  rcases List.mem_append.mp h with h | h
  · obtain ⟨event', hevent, he⟩ := List.mem_map.mp h
    exact Finding.event.inj he ▸ isAboutContents_readFields attr fields event' hevent
  · split at h
    · simp at h
    · simp at h
    · split at h
      · obtain rfl : event = .skippedLocalStruct name.text := by simpa using h
        rfl
      · simp at h

mutual

theorem isAboutContents_findings {attr : String} {event : Event} :
    ∀ {place : Place} {declaration : Declaration},
      .event event ∈ findings attr place declaration → event.isAboutContents = true
  | place, .type declared, h => by
    rw [findings, typeFindings] at h
    split at h
    · exact isAboutContents_structFindings h
    · cases h
  | place, .module attributes name inner, h => by
    rw [findings] at h
    split at h
    · obtain rfl : event = .skippedTestModule name.text := by simpa using h
      rfl
    · exact isAboutContents_findingsOfAll h
  | place, .block inner, h => by
    rw [findings] at h
    exact isAboutContents_findingsOfAll h

theorem isAboutContents_findingsOfAll {attr : String} {event : Event} :
    ∀ {place : Place} {declarations : List Declaration},
      .event event ∈ findingsOfAll attr place declarations → event.isAboutContents = true
  | _, [], h => by cases h
  | place, declaration :: more, h => by
    rw [findingsOfAll] at h
    rcases List.mem_append.mp h with h | h
    · exact isAboutContents_findings h
    · exact isAboutContents_findingsOfAll h

end

theorem event_mem_of_mem_eventsOf {event : Event} :
    ∀ {failed : Bool} {all : List Finding}, event ∈ eventsOf failed all → .event event ∈ all
  | _, [], h => by cases h
  | failed, .record r :: more, h => .tail _ (event_mem_of_mem_eventsOf h)
  | failed, .error e :: more, h => .tail _ (event_mem_of_mem_eventsOf h)
  | failed, .event e :: more, h => by
    rw [eventsOf] at h
    split at h
    · exact .tail _ (event_mem_of_mem_eventsOf h)
    · rcases List.mem_cons.mp h with rfl | h
      · exact .head _
      · exact .tail _ (event_mem_of_mem_eventsOf h)

/-- Extraction tells only of what is in the source. -/
theorem isAboutContents_records (attr text : String) :
    ∀ event ∈ (records attr text).2, event.isAboutContents = true := by
  intro event hevent
  rw [records] at hevent
  split at hevent
  · cases hevent
  · exact isAboutContents_findingsOfAll (event_mem_of_mem_eventsOf hevent)

end Extraction

namespace SourceDirectory

/-! ## What is held at a location -/

/-- The name is that of a source at a location: a file with the extension, and not generated. -/
def isSourceAt (settings : Settings) (files : FileTree) (location : Location)
    (name : String) : Bool :=
  (files.node? (name :: location) matches some (.file _)) &&
    FilePath.extension? name = some "rs" && !isGenerated settings.generatedEnding name

theorem isSourceAt_iff {settings : Settings} {files : FileTree} {location : Location}
    {name : String} :
    isSourceAt settings files location name = true ↔
      (∃ text, files.node? (name :: location) = some (.file text)) ∧
        FilePath.extension? name = some "rs" ∧
        isGenerated settings.generatedEnding name = false := by
  have hfile : (files.node? (name :: location) matches some (.file _)) = true ↔
      ∃ text, files.node? (name :: location) = some (.file text) := by
    split
    · next text h => simp [h]
    · next h => simpa using h
  simp only [isSourceAt, Bool.and_eq_true, hfile, decide_eq_true_eq, Bool.not_eq_true', and_assoc]

theorem mem_namesAt_of_isSourceAt {settings : Settings} {files : FileTree} {location : Location}
    {name : String} (h : isSourceAt settings files location name = true) :
    name ∈ files.namesAt location := by
  obtain ⟨⟨text, htext⟩, -⟩ := isSourceAt_iff.mp h
  exact mem_namesAt.mpr (by simp [htext])

/-- The names of the sources at a location, in order. -/
def sourceNames (settings : Settings) (files : FileTree) (location : Location) : List String :=
  ((files.namesAt location).filter (isSourceAt settings files location)).mergeSort (· ≤ ·)

theorem mem_sourceNames {settings : Settings} {files : FileTree} {location : Location}
    {name : String} :
    name ∈ sourceNames settings files location ↔
      isSourceAt settings files location name = true := by
  rw [sourceNames, List.mem_mergeSort, List.mem_filter]
  exact and_iff_right_of_imp mem_namesAt_of_isSourceAt

theorem pairwise_mergeSort (names : List String) :
    (names.mergeSort (· ≤ ·)).Pairwise fun a b => decide (a ≤ b) = true :=
  List.pairwise_mergeSort
    (fun a b c hab hbc => by
      simpa using le_trans (of_decide_eq_true hab) (of_decide_eq_true hbc))
    (fun a b => by simpa using le_total a b) names

/-- Names in order do not depend on the order they were in. -/
theorem mergeSort_eq_of_perm {names names' : List String} (h : names'.Perm names) :
    names'.mergeSort (· ≤ ·) = names.mergeSort (· ≤ ·) := by
  have hperm : (names'.mergeSort (· ≤ ·)).Perm (names.mergeSort (· ≤ ·)) :=
    (List.mergeSort_perm _ _).trans (h.trans (List.mergeSort_perm _ _).symm)
  exact hperm.eq_of_pairwise
    (fun a b _ _ hab hba => le_antisymm (of_decide_eq_true hab) (of_decide_eq_true hba))
    (pairwise_mergeSort _) (pairwise_mergeSort _)

/-- The order of the names does not depend on the order of the listing. -/
theorem sourceNames_congr {settings : Settings} {files files' : FileTree} (h : files.Plain)
    (h' : files'.Plain) {location : Location}
    (hsame : ∀ name, isSourceAt settings files' location name =
      isSourceAt settings files location name) :
    sourceNames settings files' location = sourceNames settings files location := by
  refine mergeSort_eq_of_perm ((List.perm_ext_iff_of_nodup ?_ ?_).mpr fun name => ?_)
  · exact (h'.nodup_namesAt location).filter _
  · exact (h.nodup_namesAt location).filter _
  · rw [List.mem_filter, List.mem_filter, hsame]
    exact and_congr_left fun hname => ⟨fun _ => mem_namesAt_of_isSourceAt hname,
      fun _ => mem_namesAt_of_isSourceAt ((hsame name).trans hname)⟩

/-- The records of the file at a location, if it can be read and parsed. -/
def recordsAt? (settings : Settings) (files : FileTree) (location : Location) :
    Option (List Record) :=
  match files.node? location with
  | some (.file (some text)) => (Extraction.records settings.tagAttribute text).1.toOption
  | _ => none

/-- What the directory at a location holds, if all its sources can be read and parsed. -/
structure HeldAt (settings : Settings) (files : FileTree) (location : Location)
    (found : SourceDirectory) : Prop where
  name : ∃ name outer, location = name :: outer ∧ isGroupName (groupNameOf name) = true ∧
    found.groupName = groupNameOf name
  readable : ∀ name, isSourceAt settings files location name = true →
    (recordsAt? settings files (name :: location)).isSome
  records : found.records = (sourceNames settings files location).flatMap fun name =>
    (recordsAt? settings files (name :: location)).getD []

theorem HeldAt.unique {settings : Settings} {files : FileTree} {location : Location}
    {found found' : SourceDirectory} (h : HeldAt settings files location found)
    (h' : HeldAt settings files location found') : found = found' := by
  obtain ⟨name, outer, hlocation, -, hname⟩ := h.name
  obtain ⟨name', outer', hlocation', -, hname'⟩ := h'.name
  obtain ⟨rfl, rfl⟩ := List.cons.inj (hlocation.symm.trans hlocation')
  have hgroup : found.groupName = found'.groupName := hname.trans hname'.symm
  have hrecords : found.records = found'.records := h.records.trans h'.records.symm
  cases found
  cases found'
  exact congr (congrArg SourceDirectory.mk hgroup) hrecords

/-- Nothing but generated files is written into the directory: what it holds stays the same. -/
theorem HeldAt.growth {settings : Settings} {before after : FileTree} {location : Location}
    {found : SourceDirectory} (h : HeldAt settings before location found) (hplain : before.Plain)
    {made written : Location → Prop} (hgrowth : Growth made written before after)
    (hwritten : ∀ name, written (name :: location) →
      isGenerated settings.generatedEnding name = true) :
    HeldAt settings after location found := by
  -- Only generated files were written, so a file of any other name is there with the same text.
  have hfile (name : String) (hname : isGenerated settings.generatedEnding name = false)
      (text : Option String) :
      after.node? (name :: location) = some (.file text) ↔
        before.node? (name :: location) = some (.file text) := by
    have hnot : ¬written (name :: location) := fun hw => by simp [hwritten name hw] at hname
    exact ⟨fun hafter => hgrowth.file_of_not_written hafter hnot,
      fun hbefore => hgrowth.node?_of_not_written hbefore hnot⟩
  have hsource (name : String) : isSourceAt settings after location name =
      isSourceAt settings before location name := by
    rw [Bool.eq_iff_iff, isSourceAt_iff, isSourceAt_iff]
    constructor
    · rintro ⟨⟨text, htext⟩, hrs, hname⟩
      exact ⟨⟨text, (hfile name hname text).mp htext⟩, hrs, hname⟩
    · rintro ⟨⟨text, htext⟩, hrs, hname⟩
      exact ⟨⟨text, (hfile name hname text).mpr htext⟩, hrs, hname⟩
  have hrecords (name : String) (hname : isSourceAt settings before location name = true) :
      recordsAt? settings after (name :: location) =
        recordsAt? settings before (name :: location) := by
    obtain ⟨⟨text, htext⟩, -, hname⟩ := isSourceAt_iff.mp hname
    rw [recordsAt?, recordsAt?, htext, (hfile name hname text).mpr htext]
  refine ⟨h.name, fun name hname => ?_, ?_⟩
  · rw [hsource] at hname
    rw [hrecords name hname]
    exact h.readable name hname
  · rw [h.records, sourceNames_congr hplain (hgrowth.plain hplain) hsource]
    refine List.flatMap_congr fun name hname => ?_
    rw [hrecords name (mem_sourceNames.mp hname)]

/-! ## Reading -/

/-- The name of the group of a directory, or why it has none. -/
def groupNameResult (files : FileTree) (directory : String) : Except Failure String :=
  match files.resolve directory with
  | .error e => .error (.during .resolving directory (.file e))
  | .ok [] => .error (.noGroupName directory)
  | .ok (name :: _) =>
    if isGroupName (groupNameOf name) then .ok (groupNameOf name) else .error (.badGroupName name)

theorem readGroupName_on (directory : String) (files : FileTree) :
    (readGroupName directory).on files = (groupNameResult files directory, .of files) := by
  rw [readGroupName, groupNameResult, Run.on_bind_of (Run.on_files files)]
  cases files.resolve directory with
  | error e => rw [Run.on_bind_error (Run.on_require_error _ _ _ _)]
  | ok location =>
    rw [Run.on_bind_of (Run.on_require_ok _ _ _ _)]
    cases location with
    | nil => rfl
    | cons name outer =>
      dsimp only
      split <;> rfl

theorem additive_readGroupName (directory : String) : (readGroupName directory).Additive := by
  refine Run.additive_files.bind fun files => (Run.additive_require _ _ _).bind fun location => ?_
  cases location with
  | nil => exact Run.additive_throw _
  | cons name outer =>
    dsimp only
    split
    · exact Run.additive_pure _
    · exact Run.additive_throw _

/-- The paths of the sources among the names listed. -/
def sourcePaths (settings : Settings) (files : FileTree) (directory : String)
    (names : List String) : List String :=
  (((candidates files directory names).partition
    (isGenerated settings.generatedEnding)).2.mergeSort (· ≤ ·)).map (FilePath.join directory)

theorem sources_on_ok (settings : Settings) {directory : String} {files : FileTree}
    {names : List String} (h : files.list directory = .ok names) :
    ∃ skipped : List String,
      (sources settings directory).on files = (.ok (sourcePaths settings files directory names),
        ⟨files, [], skipped.map fun name => .skippedGenerated (FilePath.join directory name)⟩) := by
  rw [sources, Run.on_bind_of (Run.on_files files), h,
    Run.on_bind_of (Run.on_require_ok _ _ _ _), sourcePaths]
  generalize (candidates files directory names).partition _ = both
  obtain ⟨generated, kept⟩ := both
  refine ⟨generated, ?_⟩
  rw [Run.on_bind_ok (fun _ => Run.additive_pure _) (Run.on_tellAll _ _), Run.on_pure,
    RunState.append_of]

theorem sources_on_error {settings : Settings} {directory : String} {files : FileTree}
    {e : FileError} (h : files.list directory = .error e) :
    (sources settings directory).on files =
      (.error (.during .listing directory (.file e)), .of files) := by
  rw [sources, Run.on_bind_of (Run.on_files files), h,
    Run.on_bind_error (Run.on_require_error _ _ _ _)]

theorem additive_sources (settings : Settings) (directory : String) :
    (sources settings directory).Additive :=
  Run.additive_files.bind fun _ => (Run.additive_require _ _ _).bind fun _ =>
    (Run.additive_tellAll _).bind fun _ => Run.additive_pure _

/-- The records of a source, or why it has none. -/
def sourceResult (settings : Settings) (files : FileTree) (path : String) :
    Except Failure (List Record) :=
  match files.read path with
  | .error e => .error (.during .reading path (.file e))
  | .ok text =>
    (Extraction.records settings.tagAttribute text).1.mapError fun e =>
      .during .parsing path (.source e)

/-- The events of reading a source. -/
def sourceEvents (settings : Settings) (files : FileTree) (path : String) : List Event :=
  match files.read path with
  | .error _ => []
  | .ok text =>
    (Extraction.records settings.tagAttribute text).2 ++
      match (Extraction.records settings.tagAttribute text).1 with
      | .error _ => []
      | .ok records => [.parsedFile path records.length]

theorem readSource_on (settings : Settings) (path : String) (files : FileTree) :
    (readSource settings path).on files =
      (sourceResult settings files path, ⟨files, [], sourceEvents settings files path⟩) := by
  rw [readSource, sourceResult, sourceEvents, Run.on_bind_of (Run.on_files files)]
  cases files.read path with
  | error e => rw [Run.on_bind_error (Run.on_require_error _ _ _ _)]; rfl
  | ok text =>
    rw [Run.on_bind_of (Run.on_require_ok _ _ _ _)]
    dsimp only
    generalize Extraction.records settings.tagAttribute text = found
    obtain ⟨result, events⟩ := found
    cases result with
    | error e =>
      rw [Run.on_bind_ok (fun _ => Run.additive_throw _) (Run.on_tellAll _ _), Run.on_throw,
        RunState.append_of, List.append_nil]
      rfl
    | ok records =>
      rw [Run.on_bind_ok (fun _ => (Run.additive_tell _).bind fun _ => Run.additive_pure _)
        (Run.on_tellAll _ _)]
      rfl

theorem additive_readSource (settings : Settings) (path : String) :
    (readSource settings path).Additive := by
  refine Run.additive_files.bind fun files => (Run.additive_require _ _ _).bind fun text => ?_
  generalize Extraction.records settings.tagAttribute text = found
  obtain ⟨result, events⟩ := found
  refine (Run.additive_tellAll _).bind fun _ => ?_
  cases result with
  | error e => exact Run.additive_throw _
  | ok records => exact (Run.additive_tell _).bind fun _ => Run.additive_pure _

theorem isOfReading_of_sourceResult {settings : Settings} {files : FileTree} {path : String}
    {e : Failure} (h : sourceResult settings files path = .error e) : e.isOfReading = true := by
  rw [sourceResult] at h
  split at h
  · obtain rfl := Except.error.inj h
    rfl
  · next text _ =>
    cases hresult : (Extraction.records settings.tagAttribute text).1 with
    | error e' =>
      rw [hresult] at h
      obtain rfl := Except.error.inj h
      rfl
    | ok records =>
      rw [hresult] at h
      cases h

/-- Reading a source marks its path as read, and writes nothing. -/
theorem readPaths_readSource (settings : Settings) (path : String) (files : FileTree) :
    Run.readPaths (sourceResult settings files path) (sourceEvents settings files path) = [path] ∧
      (sourceEvents settings files path).filterMap (·.writtenPath?) = [] := by
  rw [sourceResult, sourceEvents]
  cases files.read path with
  | error e => exact ⟨rfl, rfl⟩
  | ok text =>
    have habout := Extraction.isAboutContents_records settings.tagAttribute text
    dsimp only
    generalize Extraction.records settings.tagAttribute text = found at habout ⊢
    obtain ⟨result, events⟩ := found
    have hparsed : events.filterMap (·.parsedPath?) = [] := List.filterMap_eq_nil_iff.mpr
      fun event hevent => Event.parsedPath?_of_isAboutContents (habout event hevent)
    have hwritten : events.filterMap (·.writtenPath?) = [] := List.filterMap_eq_nil_iff.mpr
      fun event hevent => Event.writtenPath?_of_isAboutContents (habout event hevent)
    dsimp only
    rw [Run.readPaths_append, hparsed, List.filterMap_append, hwritten]
    cases result with
    | error e => exact ⟨rfl, rfl⟩
    | ok records => exact ⟨rfl, rfl⟩

/-- Reading sources gives the records of each, if all of them can be read, and reads no others. -/
theorem readSources_on (settings : Settings) (files : FileTree) (paths : List String) :
    ∃ result told, (paths.mapM (readSource settings)).on files = (result, ⟨files, [], told⟩) ∧
      (∀ all, result = .ok all ↔ paths.map (sourceResult settings files) = all.map .ok) ∧
      (∀ e, result = .error e → e.isOfReading = true) ∧
      Run.readPaths result told <+: paths ∧ told.filterMap (·.writtenPath?) = [] := by
  induction paths with
  | nil =>
    exact ⟨.ok [], [], Run.on_mapM_nil, by simp [eq_comm], by simp, by simp [Run.readPaths], rfl⟩
  | cons path more ih =>
    obtain ⟨result, told, hon, hresult, herror, hread, hwritten⟩ := ih
    obtain ⟨hpath, hpathWritten⟩ := readPaths_readSource settings path files
    have hfirst := readSource_on settings path files
    cases hrecords : sourceResult settings files path with
    | error e =>
      -- Nothing is read after the first source that fails: its path is the last one.
      rw [hrecords] at hfirst hpath
      refine ⟨_, _, Run.on_mapM_cons_error hfirst, fun all => ?_, ?_, ?_, hpathWritten⟩
      · cases all <;> simp [hrecords]
      · rintro _ ⟨⟩
        exact isOfReading_of_sourceResult hrecords
      · rw [Run.readPaths_error] at hpath ⊢
        exact hpath ▸ ⟨more, rfl⟩
    | ok records =>
      rw [hrecords] at hfirst hpath
      rw [Run.readPaths_ok] at hpath
      refine ⟨_, _, (Run.on_mapM_cons_ok (additive_readSource settings) hfirst).trans
        (by rw [hon]; rfl), fun all => ?_, ?_, ?_, ?_⟩
      · cases all with
        | nil => cases result <;> simp [Except.map]
        | cons first others =>
          rw [List.map_cons, List.map_cons, List.cons.injEq, hrecords, ← hresult]
          cases result <;> simp [Except.map]
      · cases result with
        | error e => simpa [Except.map] using herror
        | ok rest => simp [Except.map]
      · rw [Run.readPaths_map, Run.readPaths_append, hpath]
        exact List.prefix_cons_inj path |>.mpr hread
      · simp [hpathWritten, hwritten]

/-! ## What is read -/

/-- The path leads to a source of the directory that another path leads to. -/
def IsSource (settings : Settings) (files : FileTree) (directory path : String) : Prop :=
  ∃ name location, files.resolve directory = .ok location ∧
    files.resolve path = .ok (name :: location) ∧
    isSourceAt settings files location name = true

/-- A source stays a source when something is made or written. -/
theorem IsSource.growth {settings : Settings} {before after : FileTree} {directory path : String}
    (h : IsSource settings before directory path) (hplain : before.Plain)
    {made written : Location → Prop} (hgrowth : Growth made written before after) :
    IsSource settings after directory path := by
  obtain ⟨name, location, hdir, hpath, hsource⟩ := h
  obtain ⟨⟨text, htext⟩, hname⟩ := isSourceAt_iff.mp hsource
  exact ⟨name, location, hgrowth.resolve hplain hdir, hgrowth.resolve hplain hpath,
    isSourceAt_iff.mpr ⟨hgrowth.file htext, hname⟩⟩

theorem list_of_resolve {files : FileTree} {directory : String} {location : Location}
    (hl : files.resolve directory = .ok location) (hdir : files.isDirectoryAt location = true) :
    files.list directory = .ok (files.namesAt location) := by
  rw [FileTree.list, hl]
  exact if_pos hdir

theorem list_error_of_resolve {files : FileTree} {directory : String} {location : Location}
    (hl : files.resolve directory = .ok location) (hdir : files.isDirectoryAt location = false) :
    files.list directory = .error .notDirectory := by
  rw [FileTree.list, hl]
  exact if_neg (by simp [hdir])

/-- The records of all sources, if each of them has some. -/
theorem map_eq_map_ok {names : List String} {result : String → Except Failure (List Record)}
    {found : String → Option (List Record)}
    (h : ∀ name ∈ names, ∀ records, result name = .ok records ↔ found name = some records)
    {all : List (List Record)} :
    names.map result = all.map .ok ↔
      (∀ name ∈ names, (found name).isSome) ∧ all = names.map fun name => (found name).getD [] := by
  induction names generalizing all with
  | nil => cases all <;> simp
  | cons name names ih =>
    have hname := h name List.mem_cons_self
    have ih := fun all => @ih (fun name hname => h name (.tail _ hname)) all
    cases all with
    | nil => simp
    | cons records all =>
      simp only [List.map_cons, List.cons.injEq, ih, hname, List.forall_mem_cons]
      cases found name with
      | none => simp
      | some records' =>
        simp only [Option.some.injEq, Option.isSome_some, Option.getD_some, true_and]
        tauto

section Reading

variable {settings : Settings} {files : FileTree} {directory : String} {location : Location}
  (h : files.Plain) (hl : files.resolve directory = .ok location)
  (hdir : files.isDirectoryAt location = true)

include h hl hdir

/-- What the directory lists is found by its name. -/
theorem resolve_listed {name : String} (hname : name ∈ files.namesAt location) :
    files.resolve (FilePath.join directory name) = .ok (name :: location) := by
  have hsome := mem_namesAt.mp hname
  obtain ⟨node, hnode⟩ := Option.isSome_iff_exists.mp hsome
  exact h.resolve_join_of_resolve (h.isName_of_node? hnode) hl hdir hsome

theorem sourcePaths_eq : sourcePaths settings files directory (files.namesAt location) =
    (sourceNames settings files location).map (FilePath.join directory) := by
  rw [sourcePaths, List.partition_eq_filter_filter, candidates, sourceNames]
  simp only [List.filter_filter]
  congr 2
  refine List.filter_congr fun name hname => ?_
  rw [isSourceAt, FileTree.isFile, nodeOf?, resolve_listed h hl hdir hname, Bool.and_comm]
  rfl

theorem isSource_of_mem_sourceNames {name : String}
    (hname : name ∈ sourceNames settings files location) :
    IsSource settings files directory (FilePath.join directory name) := by
  have hsource := mem_sourceNames.mp hname
  exact ⟨name, location, hl, resolve_listed h hl hdir (mem_namesAt_of_isSourceAt hsource), hsource⟩

/-- The records of a source are those of the text at its location. -/
theorem sourceResult_eq_ok {name : String} (hname : name ∈ sourceNames settings files location)
    (records : List Record) :
    sourceResult settings files (FilePath.join directory name) = .ok records ↔
      recordsAt? settings files (name :: location) = some records := by
  have hsource := mem_sourceNames.mp hname
  have hresolve := resolve_listed h hl hdir (mem_namesAt_of_isSourceAt hsource)
  obtain ⟨⟨text, htext⟩, -⟩ := isSourceAt_iff.mp hsource
  rw [sourceResult, recordsAt?, FileTree.read, hresolve]
  cases text with
  | none => simp [bind, Except.bind, htext]
  | some text =>
    simp only [bind, Except.bind, htext]
    cases (Extraction.records settings.tagAttribute text).1 <;>
      simp [Except.mapError, Except.toOption]

/-- What is held at the location is what its sources give. -/
theorem heldAt_iff {name : String} {outer : Location} (hlocation : location = name :: outer)
    (hname : isGroupName (groupNameOf name) = true) (settings : Settings)
    (found : SourceDirectory) :
    HeldAt settings files location found ↔
      found.groupName = groupNameOf name ∧
        ∃ all : List (List Record), (sourceNames settings files location).map
            (fun name => sourceResult settings files (FilePath.join directory name)) =
              all.map .ok ∧ found.records = all.flatten := by
  simp only [map_eq_map_ok fun name hname records => sourceResult_eq_ok h hl hdir hname records,
    mem_sourceNames]
  constructor
  · intro hheld
    obtain ⟨name', outer', hlocation', -, hgroup⟩ := hheld.name
    obtain ⟨rfl, rfl⟩ := List.cons.inj (hlocation.symm.trans hlocation')
    exact ⟨hgroup, _, ⟨hheld.readable, rfl⟩, by rw [hheld.records, List.flatMap_def]⟩
  · rintro ⟨hgroup, _, ⟨hreadable, rfl⟩, hrecords⟩
    exact ⟨⟨name, outer, hlocation, hname, hgroup⟩, hreadable,
      by rw [hrecords, List.flatMap_def]⟩

end Reading

/-- What the reading of a directory ends with and tells. -/
structure ReadOutcome (settings : Settings) (files : FileTree) (directory : String)
    (result : Except Failure SourceDirectory) (told : List Event) : Prop where
  /-- It gives what is held where the directory is, if all of that can be read. -/
  eq_ok : ∀ found, result = .ok found ↔
    ∃ location, files.resolve directory = .ok location ∧ files.isDirectoryAt location = true ∧
      HeldAt settings files location found
  isOfReading : ∀ e, result = .error e → e.isOfReading = true
  /-- Nothing but sources of the directory is read. -/
  readPaths : ∀ path ∈ Run.readPaths result told, IsSource settings files directory path
  noneWritten : told.filterMap (·.writtenPath?) = []

/-- Reading that ends before a source was read. -/
theorem ReadOutcome.of_error {settings : Settings} {files : FileTree} {directory : String}
    {e : Failure} (hreading : e.isOfReading = true) (hpath : e.sourcePath? = none)
    (hnone : ∀ location, files.resolve directory = .ok location →
      files.isDirectoryAt location = true → ∀ found, ¬HeldAt settings files location found) :
    ReadOutcome settings files directory (.error e) [] where
  eq_ok found := by
    constructor
    · rintro ⟨⟩
    · rintro ⟨location, hl, hdir, hheld⟩
      exact absurd hheld (hnone location hl hdir found)
  isOfReading := by
    rintro _ ⟨⟩
    exact hreading
  readPaths := by simp [Run.readPaths_error, hpath]
  noneWritten := rfl

/-- What is read of a directory if the name of its module and its sources are known. -/
def readKnown (settings : Settings) (directory group : String) (paths : List String) :
    Run SourceDirectory := do
  let records ← paths.mapM (readSource settings)
  Run.tell (.parsedDirectory directory paths.length records.flatten.length)
  return ⟨group, records.flatten⟩

theorem read_eq (settings : Settings) (directory : String) :
    read settings directory = readGroupName directory >>= fun group =>
      sources settings directory >>= readKnown settings directory group := rfl

theorem additive_readKnown (settings : Settings) (directory group : String) (paths : List String) :
    (readKnown settings directory group paths).Additive :=
  (Run.additive_mapM (additive_readSource settings) _).bind fun _ =>
    (Run.additive_tell _).bind fun _ => Run.additive_pure _

theorem additive_read (settings : Settings) (directory : String) :
    (read settings directory).Additive :=
  (additive_readGroupName directory).bind fun _ => (additive_sources settings directory).bind
    fun _ => additive_readKnown _ _ _ _

theorem readKnown_on (settings : Settings) (directory group : String) (paths : List String)
    (files : FileTree) :
    ∃ result told, (readKnown settings directory group paths).on files =
        (result, ⟨files, [], told⟩) ∧
      (∀ found, result = .ok found ↔ found.groupName = group ∧
        ∃ all : List (List Record), paths.map (sourceResult settings files) = all.map .ok ∧
          found.records = all.flatten) ∧
      (∀ e, result = .error e → e.isOfReading = true) ∧
      Run.readPaths result told <+: paths ∧ told.filterMap (·.writtenPath?) = [] := by
  obtain ⟨result, told, hon, hresult, herror, hread, hwritten⟩ :=
    readSources_on settings files paths
  simp only [← hresult]
  rw [readKnown]
  cases result with
  | error e =>
    refine ⟨_, _, Run.on_bind_error hon, fun found => by simp, ?_, hread, hwritten⟩
    rintro _ ⟨⟩
    exact herror e rfl
  | ok all =>
    refine ⟨_, _, Run.on_bind_ok (fun _ => (Run.additive_tell _).bind fun _ => Run.additive_pure _)
      hon, fun found => ?_, ?_, ?_, ?_⟩
    · constructor
      · rintro ⟨⟩
        exact ⟨rfl, all, rfl, rfl⟩
      · rintro ⟨hgroup, _, ⟨⟩, hrecords⟩
        rw [← hgroup, ← hrecords]
        rfl
    · rintro _ ⟨⟩
    · rw [Run.readPaths_append]
      show told.filterMap (·.parsedPath?) ++ ([] : List String) <+: paths
      exact hread
    · rw [List.filterMap_append, hwritten]
      rfl

theorem sources_readKnown_on {settings : Settings} {files : FileTree} (h : files.Plain)
    {directory name : String} {outer : Location}
    (hl : files.resolve directory = .ok (name :: outer))
    (hname : isGroupName (groupNameOf name) = true) :
    ∃ result told,
      (sources settings directory >>= readKnown settings directory (groupNameOf name)).on files =
          (result, ⟨files, [], told⟩) ∧
        ReadOutcome settings files directory result told := by
  by_cases hdir : files.isDirectoryAt (name :: outer) = true
  · obtain ⟨skipped, hsources⟩ := sources_on_ok settings (list_of_resolve hl hdir)
    rw [sourcePaths_eq h hl hdir] at hsources
    obtain ⟨result, told, hon, hresult, herror, hread, hwritten⟩ :=
      readKnown_on settings directory (groupNameOf name)
        ((sourceNames settings files (name :: outer)).map (FilePath.join directory)) files
    rw [Run.on_bind_ok (additive_readKnown _ _ _) hsources, hon]
    refine ⟨_, _, rfl, ⟨fun found => ?_, herror, ?_, ?_⟩⟩
    · rw [hresult, List.map_map]
      have hheld := heldAt_iff h hl hdir rfl hname settings found
      constructor
      · exact fun hfound => ⟨_, hl, hdir, hheld.mpr hfound⟩
      · rintro ⟨location, hl', -, hfound⟩
        obtain rfl : name :: outer = location := by simpa [hl] using hl'
        exact hheld.mp hfound
    · intro path hpath
      rw [Run.readPaths_append] at hpath
      have hpath : path ∈ Run.readPaths result told := by simpa [Event.parsedPath?] using hpath
      obtain ⟨name', hname', rfl⟩ := List.mem_map.mp (hread.subset hpath)
      exact isSource_of_mem_sourceNames h hl hdir hname'
    · rw [List.filterMap_append, hwritten]
      simp [Event.writtenPath?]
  · have hdir : files.isDirectoryAt (name :: outer) = false := by simpa using hdir
    refine ⟨_, _, Run.on_bind_error (sources_on_error (list_error_of_resolve hl hdir)),
      .of_error rfl rfl ?_⟩
    intro location hl' hdir'
    obtain rfl : name :: outer = location := by simpa [hl] using hl'
    simp [hdir] at hdir'

/-- Reading a directory gives what is held where it is, if all of that can be read. It reads only
sources and changes nothing. -/
theorem read_on (settings : Settings) (directory : String) {files : FileTree} (h : files.Plain) :
    ∃ result told, (read settings directory).on files = (result, ⟨files, [], told⟩) ∧
      ReadOutcome settings files directory result told := by
  have hgroup := readGroupName_on directory files
  rw [groupNameResult] at hgroup
  rw [read_eq]
  cases hl : files.resolve directory with
  | error e =>
    rw [hl] at hgroup
    exact ⟨_, _, Run.on_bind_error hgroup, .of_error rfl rfl (by simp [hl])⟩
  | ok location =>
    rw [hl] at hgroup
    cases location with
    | nil =>
      refine ⟨_, _, Run.on_bind_error hgroup, .of_error rfl rfl ?_⟩
      rintro location hl' - found hheld
      obtain ⟨name, outer, rfl, -⟩ := hheld.name
      simp [hl] at hl'
    | cons name outer =>
      dsimp only at hgroup
      split at hgroup
      · next hname =>
        rw [Run.on_bind_of hgroup]
        exact sources_readKnown_on h hl hname
      · next hname =>
        refine ⟨_, _, Run.on_bind_error hgroup, .of_error rfl rfl ?_⟩
        rintro location hl' - found hheld
        obtain ⟨name', outer', rfl, hname', -⟩ := hheld.name
        obtain ⟨rfl, rfl⟩ : name = name' ∧ outer = outer' := by simpa [hl] using hl'
        exact hname hname'

/-- What is held where the directory is, is read. -/
theorem read_of_heldAt {settings : Settings} {directory : String} {files : FileTree}
    (h : files.Plain) {location : Location} (hl : files.resolve directory = .ok location)
    (hdir : files.isDirectoryAt location = true) {found : SourceDirectory}
    (hheld : HeldAt settings files location found) :
    ((read settings directory).on files).1 = .ok found := by
  obtain ⟨result, told, hon, houtcome⟩ := read_on settings directory h
  rw [hon]
  exact (houtcome.eq_ok found).mpr ⟨location, hl, hdir, hheld⟩

theorem heldAt_of_read {settings : Settings} {directory : String} {files : FileTree}
    (h : files.Plain) {found : SourceDirectory}
    (hread : ((read settings directory).on files).1 = .ok found) :
    ∃ location, files.resolve directory = .ok location ∧ files.isDirectoryAt location = true ∧
      HeldAt settings files location found := by
  obtain ⟨result, told, hon, houtcome⟩ := read_on settings directory h
  rw [hon] at hread
  exact (houtcome.eq_ok found).mp hread

/-- A directory that is not there cannot be read. -/
theorem read_of_resolve_error (settings : Settings) {directory : String} {files : FileTree}
    {e : FileError} (he : files.resolve directory = .error e) :
    ((read settings directory).on files).1 = .error (.during .resolving directory (.file e)) := by
  have hgroup := readGroupName_on directory files
  rw [groupNameResult, he] at hgroup
  rw [read_eq, Run.on_bind_error hgroup]

/-- A directory with one source holds its records. -/
theorem heldAt_of_one_source {settings : Settings} {files : FileTree} (name source : String)
    {outer : Location} {records : List Record} (hgroup : isGroupName (groupNameOf name) = true)
    (hsource : (files.namesAt (name :: outer)).filter
      (isSourceAt settings files (name :: outer)) = [source])
    (hrecords : recordsAt? settings files (source :: name :: outer) = some records) :
    HeldAt settings files (name :: outer) ⟨groupNameOf name, records⟩ := by
  have hnames : sourceNames settings files (name :: outer) = [source] := by
    rw [sourceNames, hsource, List.mergeSort_singleton]
  refine ⟨⟨name, outer, rfl, hgroup, rfl⟩, fun other hother => ?_, ?_⟩
  · rw [← mem_sourceNames, hnames] at hother
    simp [List.mem_singleton.mp hother, hrecords]
  · simp [hnames, hrecords]

end SourceDirectory

end RequestBinding
