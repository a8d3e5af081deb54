import RequestBinding.Generation
import RequestBinding.Proofs.RunSteps
import RequestBinding.Proofs.TreeGrowth

/-!
# What writing a module does

Writing a module makes the directories that its path lies in, if they are missing, and then the file
itself. Nothing else is touched, whether it succeeds or not (`Written`). A module that is written
once more, over the same text, leaves the tree as it is.

## Main statements

* `writeModule_on` — what writing a module does to a plain tree.
* `writeModule_again` — writing it again does nothing.
-/

namespace RequestBinding.Generation

open FileTree

/-- The paths of the directories that files at the paths lie in, with all their ancestors. -/
def parents (paths : List String) : List String :=
  paths.flatMap fun path => (FilePath.parent? path).toList.flatMap FilePath.ancestors

/-- Writing to some paths and then to others is writing to all of them. -/
theorem growth_append {paths more : List String} {before mid after : FileTree}
    (hplain : before.Plain)
    (h : Growth (mid.Reaches (parents paths)) (mid.Reaches paths) before mid)
    (h' : Growth (after.Reaches (parents more)) (after.Reaches more) mid after) :
    Growth (after.Reaches (parents (paths ++ more))) (after.Reaches (paths ++ more))
      before after := by
  have hplain' := h.plain hplain
  have hparents : parents (paths ++ more) = parents paths ++ parents more := List.flatMap_append
  rw [hparents]
  refine .trans (h.mono (fun l hl => ?_) fun l hl => ?_) (h'.mono (fun l hl => ?_) fun l hl => ?_)
  · exact (h'.reaches hplain' hl).subset (List.subset_append_left _ _)
  · exact (h'.reaches hplain' hl).subset (List.subset_append_left _ _)
  · exact hl.subset (List.subset_append_right _ _)
  · exact hl.subset (List.subset_append_right _ _)

theorem additive_makeParent (path : String) : (makeParent path).Additive := by
  rw [makeParent]
  split
  · exact Run.additive_pure ()
  · split
    · exact Run.additive_pure ()
    · refine Run.additive_files.bind fun files => ?_
      dsimp only
      refine (Run.additive_setFiles _).bind fun _ => ?_
      split
      · exact Run.additive_pure ()
      · exact Run.additive_throw _

/-- What is left of writing a module when its directory is there. -/
def writeFile (path text : String) : Run Unit := do
  let written := (← Run.files).write path (some text)
  Run.setFiles (← Run.require .writing path written)
  Run.print ("✅ Generated code written to " ++ path)

theorem writeModule_eq (path : String) (records : List Record) (target : String) :
    writeModule path records target =
      makeParent path >>= fun _ => writeFile path (BindingsModule.text target records) := rfl

theorem additive_writeFile (path text : String) : (writeFile path text).Additive :=
  Run.additive_files.bind fun _ => (Run.additive_require _ _ _).bind fun _ =>
    (Run.additive_setFiles _).bind fun _ => Run.additive_print _

theorem additive_writeModule (path : String) (records : List Record) (target : String) :
    (writeModule path records target).Additive :=
  (additive_makeParent path).bind fun _ => additive_writeFile _ _

/-! ## The directory of a module -/

/-- Either nothing is to be made, or directories up to the parent are. -/
theorem makeParent_cases (path : String) :
    (∀ files, (makeParent path).on files = (.ok (), .of files)) ∨
      ∃ parent, FilePath.parent? path = some parent ∧ ∀ files, (makeParent path).on files =
        (match (files.makeDirectories parent).2 with
          | none => .ok ()
          | some e => .error (.during .creating parent (.file e)),
        .of (files.makeDirectories parent).1) := by
  cases hparent : FilePath.parent? path with
  | none => exact .inl fun files => by rw [makeParent, hparent]; rfl
  | some parent =>
    by_cases hempty : parent.isEmpty
    · refine .inl fun files => ?_
      simp only [makeParent, hparent, if_pos hempty]
      rfl
    · refine .inr ⟨parent, rfl, fun files => ?_⟩
      simp only [makeParent, hparent, if_neg hempty]
      rw [Run.on_bind_of (Run.on_files files)]
      generalize files.makeDirectories parent = both
      obtain ⟨made, error⟩ := both
      cases error <;> rfl

section

variable {files after : FileTree} {path : String} {result : Except Failure Unit}
  (h : files.Plain) (hon : (makeParent path).on files = (result, .of after))

theorem makeParent_on (files : FileTree) (path : String) :
    ∃ result after, (makeParent path).on files = (result, .of after) := by
  rcases makeParent_cases path with hon | ⟨parent, -, hon⟩
  · exact ⟨_, _, hon files⟩
  · exact ⟨_, _, hon files⟩

include hon

include h in
theorem growth_of_makeParent :
    Growth (after.Reaches (parents [path])) (fun _ => False) files after := by
  rcases makeParent_cases path with hnothing | ⟨parent, hparent, hmake⟩
  · obtain ⟨-, hafter⟩ := Prod.mk.inj ((hnothing files).symm.trans hon)
    obtain rfl : files = after := congrArg RunState.files hafter
    exact .refl files
  · obtain ⟨-, hafter⟩ := Prod.mk.inj ((hmake files).symm.trans hon)
    obtain rfl : (files.makeDirectories parent).1 = after := congrArg RunState.files hafter
    exact (h.makeDirectories_growth (Prod.eta _).symm).mono
      (fun l hl => hl.subset (by simp [parents, hparent])) fun _ => id

theorem isOfReading_of_makeParent {e : Failure} (he : result = .error e) :
    e.isOfReading = false := by
  subst he
  rcases makeParent_cases path with hnothing | ⟨parent, hparent, hmake⟩
  · cases (hnothing files).symm.trans hon
  · obtain ⟨he, -⟩ := Prod.mk.inj ((hmake files).symm.trans hon)
    split at he
    · cases he
    · obtain rfl := Except.error.inj he
      rfl

include h in
/-- A directory that was made is not made again, whatever has been added since. -/
theorem makeParent_again (hok : result = .ok ()) {made written : Location → Prop}
    {later : FileTree} (hlater : Growth made written after later) :
    (makeParent path).on later = (.ok (), .of later) := by
  subst hok
  rcases makeParent_cases path with hnothing | ⟨parent, hparent, hmake⟩
  · exact hnothing later
  · obtain ⟨hok, hafter⟩ := Prod.mk.inj ((hmake files).symm.trans hon)
    obtain rfl : (files.makeDirectories parent).1 = after := congrArg RunState.files hafter
    have hnone : (files.makeDirectories parent).2 = none := by
      split at hok
      · assumption
      · cases hok
    rw [hmake later, h.makeDirectories_again (Prod.ext rfl hnone) hlater]

end

/-! ## The file of a module -/

theorem writeFile_on_ok {files written : FileTree} {path text : String}
    (h : files.write path (some text) = .ok written) :
    (writeFile path text).on files =
      (.ok (), ⟨written, ["✅ Generated code written to " ++ path], []⟩) := by
  rw [writeFile, Run.on_bind_of (Run.on_files files), h,
    Run.on_bind_of (Run.on_require_ok _ _ _ _),
    Run.on_bind_ok (fun _ => Run.additive_print _) (Run.on_setFiles _ _)]
  rfl

theorem writeFile_on_error {files : FileTree} {path text : String} {e : FileError}
    (h : files.write path (some text) = .error e) :
    (writeFile path text).on files = (.error (.during .writing path (.file e)), .of files) := by
  rw [writeFile, Run.on_bind_of (Run.on_files files), h,
    Run.on_bind_error (Run.on_require_error _ _ _ _)]

/-- What writing a text to a path does. -/
structure Written (path text : String) (files : FileTree) (result : Except Failure Unit)
    (after : FileTree) : Prop where
  /-- Missing directories on the way to the file are made, and nothing but the file is written. -/
  growth : Growth (after.Reaches (parents [path])) (after.Reaches [path]) files after
  /-- On success the file holds the text. -/
  holds : result = .ok () →
    ∃ location, after.resolve path = .ok location ∧ after.node? location = some (.file (some text))
  /-- On failure no file was written. -/
  unwritten : ∀ e, result = .error e →
    Growth (after.Reaches (parents [path])) (fun _ => False) files after
  isOfReading : ∀ e, result = .error e → e.isOfReading = false

theorem writeModule_on {files : FileTree} (h : files.Plain) (path : String) (records : List Record)
    (target : String) :
    ∃ result s, (writeModule path records target).on files = (result, s) ∧ s.events = [] ∧
      Written path (BindingsModule.text target records) files result s.files := by
  obtain ⟨result, mid, hparent⟩ := makeParent_on files path
  have hgrowth := growth_of_makeParent h hparent
  have hplain := hgrowth.plain h
  rw [writeModule_eq]
  generalize BindingsModule.text target records = text
  cases result with
  | error e =>
    refine ⟨_, _, Run.on_bind_error hparent, rfl, hgrowth.mono (fun _ => id) (by simp), by simp,
      fun _ _ => hgrowth, ?_⟩
    rintro _ ⟨⟩
    exact isOfReading_of_makeParent hparent rfl
  | ok u =>
    rw [Run.on_bind_ok (fun _ => additive_writeFile _ _) hparent]
    cases hwrite : mid.write path (some text) with
    | error e =>
      rw [show (RunState.of mid).files = mid from rfl, writeFile_on_error hwrite]
      refine ⟨_, _, rfl, rfl, hgrowth.mono (fun _ => id) (by simp), by simp, fun _ _ => hgrowth, ?_⟩
      rintro _ ⟨⟩
      rfl
    | ok after =>
      rw [show (RunState.of mid).files = mid from rfl, writeFile_on_ok hwrite]
      obtain ⟨l, hfile, hresolve, hnode⟩ := hplain.growth_of_write hwrite
      refine ⟨_, _, rfl, rfl, ?_, fun _ => ⟨l, hresolve, hnode⟩, by simp, by simp⟩
      exact (hgrowth.mono (fun l hl => hfile.reaches hplain hl) (by simp)).trans
        (hfile.mono (by simp) fun _ => id)

/-- What writing a module did, however it ended. -/
theorem written_of_on {files : FileTree} (h : files.Plain) {path target : String}
    {records : List Record} {result : Except Failure Unit} {s : RunState}
    (hon : (writeModule path records target).on files = (result, s)) :
    s.events = [] ∧ Written path (BindingsModule.text target records) files result s.files := by
  obtain ⟨_, _, hon', hdone⟩ := writeModule_on h path records target
  obtain ⟨rfl, rfl⟩ := Prod.mk.inj (hon'.symm.trans hon)
  exact hdone

/-- A module is written if its directory is there and no directory is called like it. -/
theorem writeModule_join {files : FileTree} (h : files.Plain) {directory name : String}
    (hdirectory : FilePath.IsName directory) (hname : FilePath.IsName name) {outer : Location}
    (houter : files.resolve directory = .ok outer) (hdir : files.isDirectoryAt outer = true)
    (hno : files.node? (name :: outer) ≠ some .directory) (records : List Record)
    (target : String) :
    ∃ printed, (writeModule (FilePath.join directory name) records target).on files =
      (.ok (), ⟨files.put (name :: outer) (.file (some (BindingsModule.text target records))),
        printed, []⟩) := by
  have hmake : (makeParent (FilePath.join directory name)).on files = (.ok (), .of files) := by
    rcases makeParent_cases (FilePath.join directory name) with hnothing | ⟨parent, hparent, hmake⟩
    · exact hnothing files
    · obtain rfl : directory = parent :=
        Option.some.inj ((FilePath.parent?_join hdirectory hname).symm.trans hparent)
      rw [hmake, h.makeDirectories_of_isDirectory (isDirectory_iff.mpr ⟨outer, houter, hdir⟩)]
  have ht := IsTarget.of_join h hname houter hdir hno
  rw [writeModule_eq, Run.on_bind_of hmake,
    writeFile_on_ok (h.write_eq_ok.mpr ⟨_, name, outer, ht, rfl⟩)]
  exact ⟨_, rfl⟩

/-- Where a module was written, and its text is still there, writing it again does nothing. -/
theorem writeModule_again {files : FileTree} (h : files.Plain) {path : String}
    {records : List Record} {target : String} {s : RunState}
    (hon : (writeModule path records target).on files = (.ok (), s))
    {made written : Location → Prop} {later : FileTree} (hlater : Growth made written s.files later)
    (hsame : ∀ l, later.resolve path = .ok l →
      later.node? l = some (.file (some (BindingsModule.text target records)))) :
    ∃ printed, (writeModule path records target).on later = (.ok (), ⟨later, printed, []⟩) := by
  obtain ⟨result, mid, hparent⟩ := makeParent_on files path
  have hplain := (growth_of_makeParent h hparent).plain h
  rw [writeModule_eq] at hon ⊢
  generalize BindingsModule.text target records = text at hon hsame ⊢
  cases result with
  | error e => cases (Run.on_bind_error hparent).symm.trans hon
  | ok u =>
    rw [Run.on_bind_ok (fun _ => additive_writeFile _ _) hparent] at hon
    cases hwrite : mid.write path (some text) with
    | error e =>
      rw [show (RunState.of mid).files = mid from rfl, writeFile_on_error hwrite] at hon
      cases hon
    | ok after =>
      rw [show (RunState.of mid).files = mid from rfl, writeFile_on_ok hwrite] at hon
      obtain rfl := (Prod.mk.inj hon).2
      obtain ⟨l, hfile, hresolve, hnode⟩ := hplain.growth_of_write hwrite
      have hafter := hfile.plain hplain
      have hagain : later.write path (some text) = .ok later := by
        refine hplain.write_again hwrite hlater fun l hl => hsame l (hlater.resolve hafter hl)
      rw [Run.on_bind_of (makeParent_again h hparent rfl (hfile.trans_any hlater)),
        writeFile_on_ok hagain]
      exact ⟨_, rfl⟩

/-! ## The text of a module -/

/-- Modules with one name have the same text only if they have the same functions. -/
theorem text_inj {target : String} {records records' : List Record} :
    BindingsModule.text target records = BindingsModule.text target records' ↔
      Function.endLines (records.flatMap BindingsModule.recordLines) =
        Function.endLines (records'.flatMap BindingsModule.recordLines) := by
  simp only [BindingsModule.text, Function.endLines_append, String.append_left_inj,
    String.append_right_inj]

end RequestBinding.Generation
