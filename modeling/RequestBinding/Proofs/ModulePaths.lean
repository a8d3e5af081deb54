import RequestBinding.Proofs.Visits

/-!
# Where modules are written

Beside the sources of a directory, a module has the name of the group and the ending of generated
files, so it is no source. In a target directory it has the name that the plan gives it.

## Main statements

* `resolve_beside` — the path of a module beside sources leads to a generated file there.
* `emitted_cases` — a generation writes to no other paths than these.
-/

namespace RequestBinding.Generation

open FileTree SourceDirectory

/-! ## The names of modules beside sources -/

/-- The ending tells generated files apart and is part of a name. -/
structure IsEnding (ending : String) : Prop where
  ne_empty : ending ≠ ""
  noSlash : '/' ∉ ending.toList

/-- The name is that of a group of a directory. -/
def IsGroup (group : String) : Prop :=
  ∃ name, isGroupName (groupNameOf name) = true ∧ group = groupNameOf name

theorem IsGroup.of_read {settings : Settings} {directory : String} {files : FileTree}
    (h : files.Plain) {found : SourceDirectory}
    (hread : ((SourceDirectory.read settings directory).on files).1 = .ok found) :
    IsGroup found.groupName := by
  obtain ⟨location, -, -, hheld⟩ := heldAt_of_read h hread
  obtain ⟨name, -, -, hgroup, hname⟩ := hheld.name
  exact ⟨name, hgroup, hname⟩

theorem not_mem_groupNameOf {c : Char} (hc : Text.isAsciiAlphanumeric c = false) (hne : c ≠ '_')
    (name : String) : c ∉ (groupNameOf name).toList := by
  rw [groupNameOf, String.toList_ofList, List.mem_map]
  rintro ⟨d, -, hd⟩
  split at hd
  · next halnum => simp [← hd, halnum] at hc
  · exact hne hd.symm

/-- A group name with an ending is the name of a file. -/
theorem IsGroup.isName {group ending : String} (h : IsGroup group) (hending : IsEnding ending) :
    FilePath.IsName (group ++ ending) := by
  obtain ⟨name, hgroup, rfl⟩ := h
  have hslash : '/' ∉ (groupNameOf name).toList := not_mem_groupNameOf (by decide) (by decide) name
  have hdot : '.' ∉ (groupNameOf name).toList := not_mem_groupNameOf (by decide) (by decide) name
  rw [isGroupName] at hgroup
  cases hlist : (groupNameOf name).toList with
  | nil => simp [hlist] at hgroup
  | cons c cs =>
    have hlist' : (groupNameOf name ++ ending).toList = c :: (cs ++ ending.toList) := by
      simp [hlist]
    have hc : c ≠ '.' := fun he => hdot (by simp [hlist, he])
    refine ⟨?_, ?_, ?_, ?_⟩
    · rintro he
      simp [he] at hlist'
    · rw [String.toList_append, List.mem_append]
      exact not_or.mpr ⟨hslash, hending.noSlash⟩
    · rintro he
      rw [he] at hlist'
      exact hc (List.cons.inj hlist').1.symm
    · rintro he
      rw [he] at hlist'
      exact hc (List.cons.inj hlist').1.symm

theorem isGenerated_append {group ending : String} (h : IsEnding ending) :
    isGenerated ending (group ++ ending) = true := by
  have hends : (group ++ ending).endsWith ending = true :=
    Text.endsWith_iff.mpr (by simp)
  have hne : ending.isEmpty = false := by simpa using h.ne_empty
  simp [isGenerated, hne, hends]

/-- The path of a module beside sources leads to a generated file in the directory. -/
theorem resolve_beside {settings : Settings} (hending : IsEnding settings.generatedEnding)
    {files : FileTree} (h : files.Plain) {directory : String} {found : SourceDirectory}
    (hgroup : IsGroup found.groupName) {location : Location}
    (hl : files.resolve (placeBeside settings directory found).1 = .ok location) :
    ∃ outer, files.descend (startOf files.current directory) (FilePath.components directory) =
        .ok outer ∧ location = (found.groupName ++ settings.generatedEnding) :: outer := by
  obtain ⟨outer, houter, -, -, rfl⟩ := (h.resolve_join (hgroup.isName hending) directory).mp hl
  exact ⟨outer, houter, rfl⟩

/-! ## The names of modules in target directories -/

theorem isName_module {module : String} (h : '/' ∉ module.toList) :
    FilePath.IsName (module ++ ".rs") := by
  have hlength : (module ++ ".rs").toList.length = module.toList.length + 3 := by simp
  refine ⟨?_, by simpa using h, ?_, ?_⟩
  · rintro he
    simp [he] at hlength
  · rintro he
    simp [he] at hlength
  · rintro he
    simp [he] at hlength

/-- The place of a target directory; without a name it is the current one. -/
def targetAt (files : FileTree) (target : String) : Except FileError Location :=
  if target.isEmpty then .ok files.current else files.resolve target

theorem targetAt_of_modulePath {files : FileTree} (h : files.Plain) {target module name : String}
    {outer : Location} (hslash : '/' ∉ module.toList)
    (hl : files.resolve (modulePath target module) = .ok (name :: outer)) :
    name = module ++ ".rs" ∧ targetAt files target = .ok outer := by
  obtain ⟨outer', houter, hdir', -, hsame⟩ := (h.resolve_join (isName_module hslash) target).mp hl
  obtain ⟨rfl, rfl⟩ := List.cons.inj hsame
  refine ⟨rfl, ?_⟩
  rw [targetAt]
  split
  · next hempty =>
    obtain rfl : target = "" := by simpa using hempty
    exact houter
  · next hne => exact h.resolve_of_components (by simpa using hne) houter fun _ => hdir'

theorem targetAt_growth {made written : Location → Prop} {files final : FileTree}
    (h : files.Plain) (hgrowth : Growth made written files final) {target : String}
    {location : Location} (hl : targetAt files target = .ok location) :
    targetAt final target = .ok location := by
  unfold targetAt at hl ⊢
  by_cases hempty : target.isEmpty
  · rw [if_pos hempty] at hl ⊢
    rw [hgrowth.current]
    exact hl
  · rw [if_neg hempty] at hl ⊢
    exact hgrowth.resolve h hl

/-- A plan with a module for each directory is accepted if there is a directory and each has a
name, and the names are names of modules. -/
theorem error?_perGroup {target : String} {modules : List String} {directories : Nat} :
    (OutputPlan.perGroup target modules).error? directories = none ↔
      directories ≠ 0 ∧ modules.length = directories ∧
        ∀ module ∈ modules, isModuleName module = true := by
  rw [OutputPlan.error?, OutputPlan.directoryCount?, OutputPlan.modules]
  by_cases hnone : directories = 0
  · simp [hnone]
  · by_cases hcount : modules.length = directories
    · simp [hnone, hcount, Option.filter]
    · simp [hnone, hcount, Option.filter]

/-! ## The paths of a generation -/

section

variable {settings : Settings} {dryRun : Bool} {plan : OutputPlan} {directories : List String}
  {files : FileTree} {result : Except Failure (List String)} {s : RunState}

/-- A path that a generation writes to is that of a module beside sources, or one that the plan
fixes. -/
theorem emitted_cases (h : files.Plain)
    (hon : (generate settings dryRun plan directories).on files = (result, s)) {path : String}
    (hpath : path ∈ s.emitted) :
    (plan = .sameLocation ∧ ∃ directory found, IsGroup found.groupName ∧
        path = (placeBeside settings directory found).1) ∨
      ∃ target, ∃ module ∈ plan.modules,
        (plan = .singleGroup target module ∨ plan = .perGroup target plan.modules) ∧
          path = modulePath target module := by
  rcases generate_course h hon with
    ⟨-, hnone⟩ | ⟨visits, each, -, hcourse⟩ | ⟨target, module, found, rfl, hwrote⟩
  · simp [hnone] at hpath
  · obtain ⟨tree, visit, htree, hread, hjob, rfl⟩ := hcourse.origin h hpath
    cases plan with
    | sameLocation =>
      obtain ⟨directory, -, hjob⟩ := List.mem_map.mp hjob
      refine .inl ⟨rfl, directory, visit.read, .of_read htree hread, ?_⟩
      rw [Visit.path, ← hjob]
    | perGroup target modules =>
      obtain ⟨⟨directory, module⟩, hpair, hjob⟩ := List.mem_map.mp hjob
      refine .inr ⟨target, module, (List.of_mem_zip hpair).2, .inr rfl, ?_⟩
      rw [Visit.path, ← hjob]
    | singleGroup target module => cases hjob
  · rw [hwrote.emitted] at hpath
    exact .inr ⟨target, module, List.mem_singleton_self _, .inl rfl, List.mem_singleton.mp hpath⟩

end

end RequestBinding.Generation
