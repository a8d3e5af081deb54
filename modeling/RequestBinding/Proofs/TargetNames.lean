import RequestBinding.Proofs.BodyText
import RequestBinding.Proofs.ModulePaths
import RequestBinding.Proofs.SingleWord

/-!
# Names of target modules

A plan names the modules that go to a target directory. The check of a plan reads each name as
tokens, but the name is then used as it is written: in the path of the module and on a line of its
header. So a name may have blanks and comments around its word, and what stands in them shows: with
a slash the module leaves the target directory, with a line feed the header line is broken in two.

## Main statements

* `isAbsolute_modulePath` — when the path of a module is absolute.
* `headerLine_iff` — when the header names the target on one line.
* `modulePath_of_generate` — a generation returns no other paths.
* `target_of_accepted` — what an accepted name does to path and header.
-/

namespace RequestBinding

/-- The plan has a module of this name go to the target directory. -/
inductive OutputPlan.Targets : OutputPlan → String → String → Prop
  | perGroup {target module : String} {modules : List String} : module ∈ modules →
    Targets (.perGroup target modules) target module
  | singleGroup {target module : String} : Targets (.singleGroup target module) target module

/-- The names in an accepted plan are names of modules. -/
theorem OutputPlan.Targets.isModuleName {plan : OutputPlan} {target module : String}
    (h : plan.Targets target module) {directories : Nat} (hplan : plan.error? directories = none) :
    isModuleName module = true := by
  have hmem : module ∈ plan.modules := by
    cases h with
    | perGroup hmem => exact hmem
    | singleGroup => exact List.mem_singleton_self _
  rw [OutputPlan.error?] at hplan
  split at hplan
  · cases hplan
  · split at hplan
    · cases hplan
    · rw [Option.map_eq_none_iff, List.find?_eq_none] at hplan
      simpa using hplan module hmem

namespace Generation

open Source

/-! ## Paths -/

theorem isAbsolute_iff {path : String} :
    FilePath.isAbsolute path = true ↔ path.toList.head? = some '/' := by
  rw [FilePath.isAbsolute, String.startsWith_string_iff]
  constructor
  · rintro ⟨more, h⟩
    rw [← h]
    rfl
  · intro h
    obtain ⟨more, h⟩ := List.head?_eq_some_iff.mp h
    exact ⟨more, h.symm⟩

section

variable (target module : String)

/-- The path of a module is absolute if the target is, or if the name of the module is. -/
theorem isAbsolute_modulePath : FilePath.isAbsolute (modulePath target module) =
    (FilePath.isAbsolute module || FilePath.isAbsolute target) := by
  have hname : FilePath.isAbsolute (module ++ ".rs") = FilePath.isAbsolute module := by
    rw [Bool.eq_iff_iff, isAbsolute_iff, isAbsolute_iff, String.toList_append]
    cases module.toList with
    | nil => simp
    | cons c cs => simp
  rw [modulePath, FilePath.join, hname]
  by_cases habs : FilePath.isAbsolute module = true
  · rw [habs, Bool.true_or, Bool.true_or, if_pos rfl, hname, habs]
  · have habs : FilePath.isAbsolute module = false := by simpa using habs
    by_cases hempty : target = ""
    · subst hempty
      rw [habs]
      exact hname.trans habs
    · have hhead : ∀ more, FilePath.isAbsolute (target ++ more) = FilePath.isAbsolute target := by
        intro more
        have hne : target.toList ≠ [] := by simpa using hempty
        rw [Bool.eq_iff_iff, isAbsolute_iff, isAbsolute_iff, String.toList_append,
          List.head?_append_of_ne_nil _ hne]
      have hempty : target.isEmpty = false := by simpa using hempty
      rw [habs, hempty]
      split
      · next h => cases h
      · split
        · rw [hhead, Bool.false_or]
        · rw [String.append_assoc, hhead, Bool.false_or]

/-- The path of a module has one component more than the target if there is no slash in its name. -/
theorem components_modulePath :
    FilePath.components (modulePath target module) =
      FilePath.components target ++ [module ++ ".rs"] ↔ '/' ∉ module.toList := by
  constructor
  · intro h hslash
    have hmem : module ++ ".rs" ∈ FilePath.components (modulePath target module) := by
      rw [h]
      simp
    exact FilePath.slash_not_mem_of_mem_components hmem (by simp [hslash])
  · intro hslash
    have hname := isName_module hslash
    exact FilePath.components_join hname.1 hname.2.1 target

end

/-! ## The header -/

/-- The line of the header that names the target. -/
def headerLine (target : String) : String :=
  "//! Request binding and validation for `" ++ target ++ "`."

/-- The third line of a module names the target, unless the name breaks it. -/
theorem headerLine_iff (target : String) (records : List Record) :
    (Text.pieces '\n' (BindingsModule.text target records).toList)[2]? =
      some (headerLine target).toList ↔ Function.IsOneLine target := by
  have hline : Function.IsOneLine (headerLine target) ↔ Function.IsOneLine target := by
    constructor
    · intro h
      exact (Function.isOneLine_append.mp (Function.isOneLine_append.mp h).1).2
    · intro h
      exact Function.isOneLine_append.mpr
        ⟨Function.isOneLine_append.mpr ⟨by decide, h⟩, by decide⟩
  obtain ⟨more, htext⟩ : ∃ more, BindingsModule.text target records =
      Function.endLines ("// Code generated by tagwrangler-gen. DO NOT EDIT." :: ""
        :: headerLine target :: more) := ⟨_, rfl⟩
  rw [htext, Function.pieces_endLines_cons (by decide), Function.pieces_endLines_cons (by decide),
    ← hline]
  show (Text.pieces '\n' (Function.endLines (headerLine target :: more)).toList)[0]? = _ ↔ _
  -- A piece has no line feed in it, so it cannot be a line that has one.
  constructor
  · intro h
    exact Text.not_mem_of_mem_pieces (List.mem_of_getElem? h)
  · intro h
    rw [Function.pieces_endLines_cons h]
    rfl

/-! ## What a generation returns -/

/-- What a run gives if it succeeds. -/
def Returns (run : Run α) (good : α → Prop) : Prop :=
  ∀ files a, (run.on files).1 = .ok a → good a

theorem Returns.any (run : Run α) : Returns run fun _ => True := fun _ _ _ => trivial

theorem Returns.bind {run : Run α} {next : α → Run β} {mid : α → Prop} {good : β → Prop}
    (h : Returns run mid) (hadditive : ∀ a, (next a).Additive)
    (hnext : ∀ a, mid a → Returns (next a) good) : Returns (run >>= next) good := by
  intro files b hb
  cases hon : run.on files with
  | mk result s =>
    cases result with
    | error e =>
      rw [Run.on_bind_error hon] at hb
      cases hb
    | ok a =>
      rw [Run.on_bind_ok hadditive hon] at hb
      exact hnext a (h files a (by rw [hon])) s.files b hb

theorem Returns.mapM {step : α → Run β} {good : β → Prop} (hadditive : ∀ a, (step a).Additive)
    {as : List α} (h : ∀ a ∈ as, Returns (step a) good) :
    Returns (as.mapM step) fun bs => ∀ b ∈ bs, good b := by
  induction as with
  | nil =>
    rintro files bs ⟨⟩ b hb
    cases hb
  | cons a as ih =>
    intro files bs hbs
    cases hon : (step a).on files with
    | mk result s =>
      cases result with
      | error e =>
        rw [Run.on_mapM_cons_error hon] at hbs
        cases hbs
      | ok b =>
        rw [Run.on_mapM_cons_ok hadditive hon] at hbs
        cases hmore : ((as.mapM step).on s.files).1 with
        | error e =>
          rw [hmore] at hbs
          cases hbs
        | ok more =>
          rw [hmore] at hbs
          obtain rfl := Except.ok.inj hbs
          intro b' hb'
          rcases List.mem_cons.mp hb' with rfl | hb'
          · exact h a List.mem_cons_self files b' (by rw [hon])
          · exact ih (fun a' ha' => h a' (.tail _ ha')) s.files more hmore b' hb'

section

variable {settings : Settings} {dryRun : Bool} {directories : List String}

/-- The path of a directory's module is the one that its job gives it. -/
theorem returns_run (job : Job) : Returns (job.run settings dryRun) fun path? =>
    ∀ path, path? = some path → ∃ read, path = (job.place read).1 := by
  rw [Job.run_eq]
  refine .bind (.any _) (additive_produceAt _ _) fun read _ => ?_
  rw [produceAt]
  split
  · rintro files _ ⟨⟩ path ⟨⟩
  · refine .bind (.any _) (fun _ => Run.additive_pure _) fun _ _ => ?_
    rintro files _ ⟨⟩ path ⟨⟩
    exact ⟨read, rfl⟩

theorem returns_produceAll (target module : String) (read : List SourceDirectory) :
    Returns (produceAll dryRun target module read) fun paths =>
      ∀ path ∈ paths, path = modulePath target module := by
  rw [produceAll]
  split
  · refine .bind (.any _) (fun _ => Run.additive_pure _) fun _ _ => ?_
    rintro files _ ⟨⟩ path hpath
    cases hpath
  · refine .bind (.any _) (fun _ => Run.additive_pure _) fun _ _ => ?_
    rintro files _ ⟨⟩ path hpath
    exact List.mem_singleton.mp hpath

/-- **A generation into a target directory returns no paths but those of the plan's modules.** -/
theorem modulePath_of_generate {plan : OutputPlan} {target module : String}
    (hmodule : plan.Targets target module) : Returns (generate settings dryRun plan directories)
      fun paths => ∀ path ∈ paths, ∃ name, plan.Targets target name ∧
        path = modulePath target name := by
  rcases generate_cases settings dryRun plan directories with
    ⟨e, -, hgenerate⟩ | ⟨-, ⟨_, _, rfl, hgenerate⟩ | ⟨hsingle, hgenerate⟩⟩
  · rw [hgenerate]
    rintro files _ ⟨⟩
  · cases hmodule
    rw [hgenerate, generateSingle_eq]
    refine .bind (.any _) (additive_produceAll _ _ _) fun read _ => ?_
    intro files paths hpaths path hpath
    exact ⟨module, .singleGroup,
      returns_produceAll target module read files paths hpaths path hpath⟩
  · rw [hgenerate, generateEach]
    cases hmodule with
    | singleGroup => exact absurd rfl (hsingle target module)
    | @perGroup _ _ modules _ =>
      have hjobs : ∀ job ∈ jobs settings (.perGroup target modules) directories,
          Returns (job.run settings dryRun) fun path? => ∀ path, path? = some path →
            ∃ name, (OutputPlan.perGroup target modules).Targets target name ∧
              path = modulePath target name := by
        intro job hjob files path? hok path hpath
        obtain ⟨read, rfl⟩ := returns_run job files path? hok path hpath
        obtain ⟨⟨directory, name⟩, hpair, rfl⟩ := List.mem_map.mp hjob
        exact ⟨name, .perGroup (List.of_mem_zip hpair).2, rfl⟩
      refine .bind (.mapM (Job.additive_run settings dryRun) hjobs)
        (fun _ => Run.additive_pure _) fun found hfound => ?_
      rintro files _ ⟨⟩ path hpath
      obtain ⟨path?, hmem, hsome⟩ := List.mem_filterMap.mp hpath
      exact hfound path? hmem path hsome

end

/-! ## Accepted names -/

/--
**What an accepted name does.** It is a word with nothing but blanks and comments around it, and the
word alone exactly if there is no blank, slash or byte order mark in it. The path of the module is
the target directory with one more component exactly if there is no slash in the name. It is
absolute exactly if the target is or the name begins with a slash. The header names the target on
one line exactly if there is no line feed in the name. A generation returns only such paths.
-/
theorem target_of_accepted {plan : OutputPlan} {directories : List String}
    (hplan : plan.error? directories.length = none) {target module : String}
    (hmodule : plan.Targets target module) :
    (∃ (word : Word) (rest : List Char), word.isName = true ∧
      Lexeme.skipBlanks (afterMark module.toList) = word.text.toList ++ rest ∧
      Lexeme.skipBlanks rest = []) ∧
    ((∃ word : Word, word.isName = true ∧ module = word.text) ↔
      ∀ c ∈ module.toList, isInk c = true) ∧
    (FilePath.components (modulePath target module) =
      FilePath.components target ++ [module ++ ".rs"] ↔ '/' ∉ module.toList) ∧
    FilePath.isAbsolute (modulePath target module) =
      (FilePath.isAbsolute module || FilePath.isAbsolute target) ∧
    (∀ records, (Text.pieces '\n' (BindingsModule.text module records).toList)[2]? =
      some (headerLine module).toList ↔ '\n' ∉ module.toList) ∧
    ∀ settings dryRun files paths,
      ((generate settings dryRun plan directories).on files).1 = .ok paths →
      ∀ path ∈ paths, ∃ name, plan.Targets target name ∧ path = modulePath target name := by
  have hname := hmodule.isModuleName hplan
  refine ⟨exists_of_isModuleName hname, isWord_iff hname, components_modulePath target module,
    isAbsolute_modulePath target module, fun records => headerLine_iff module records, ?_⟩
  intro settings dryRun files paths hok
  exact modulePath_of_generate hmodule files paths hok

/-- An accepted name that is a word. -/
theorem target_of_accepted_api :
    (OutputPlan.singleGroup "out" "api").error? ["m"].length = none ∧
    (OutputPlan.singleGroup "out" "api").Targets "out" "api" ∧
    FilePath.components (modulePath "out" "api") = FilePath.components "out" ++ ["api.rs"] := by
  have hplan : (OutputPlan.singleGroup "out" "api").error? ["m"].length = none := by
    decide +kernel
  exact ⟨hplan, .singleGroup, (target_of_accepted hplan .singleGroup).2.2.1.mpr (by decide)⟩

/--
A comment before a name: the plan is accepted, but the name is no word, the path is an absolute one
and not in the target directory, and the header line is broken.
-/
theorem target_with_comment :
    (OutputPlan.singleGroup "out" "// c\napi").error? ["m"].length = none ∧
    (¬∃ word : Word, word.isName = true ∧ "// c\napi" = word.text) ∧
    FilePath.isAbsolute (modulePath "out" "// c\napi") = true ∧
    FilePath.components (modulePath "out" "// c\napi") ≠
      FilePath.components "out" ++ ["// c\napi.rs"] ∧
    ∀ records, (Text.pieces '\n' (BindingsModule.text "// c\napi" records).toList)[2]? ≠
      some (headerLine "// c\napi").toList := by
  have hname : isModuleName "// c\napi" = true := by decide +kernel
  refine ⟨by decide +kernel, fun hword => ?_, ?_, fun h => ?_, fun records h => ?_⟩
  · exact absurd ((isWord_iff hname).mp hword '/' (by decide)) (by decide)
  · rw [isAbsolute_modulePath, isAbsolute_iff.mpr rfl, Bool.true_or]
  · exact (components_modulePath "out" "// c\napi").mp h (by decide)
  · exact (headerLine_iff "// c\napi" records).mp h (by decide)

end Generation

end RequestBinding
