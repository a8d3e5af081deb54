import RequestBinding.Proofs.ListingOrder
import RequestBinding.Proofs.ModulePaths
import RequestBinding.Proofs.PlainNames

/-!
# Names of groups

The name of a directory, in snake case and with underscores for what is no letter or digit of ASCII,
is the name of the group of its records. It is checked by its first character alone, where the name
of a target module is read as a source. Both checks accept the same group names, except that the
first accepts keywords.

## Steps

* **The first character.** A group name starts with a digit if the name of the directory does
  (`isGroupName_groupNameOf_iff`).
* **Identifiers.** What is accepted is an identifier (`isGroupName_iff_isIdent`), and an identifier
  is the name of a module unless it is a keyword (`isModuleName_iff_of_isIdent`).
* **Reading.** A directory whose name is not accepted is not read, and what is read has the group
  name of its directory (`read_of_not_isGroupName`, `groupName_of_read`).

## Main statements

* `read_groupName` — which names are accepted, and which of them are names of modules.
-/

namespace RequestBinding.SourceDirectory

open Text Source

/-! ## The first character -/

theorem isAsciiDigit_iff {c : Char} : isAsciiDigit c = true ↔ 48 ≤ c.toNat ∧ c.toNat ≤ 57 := by
  rw [isAsciiDigit, Bool.and_eq_true, decide_eq_true_eq, decide_eq_true_eq]
  exact Iff.rfl

/-- What a character becomes begins with a digit if it is one. -/
theorem exists_head_snakeChar (c : Char) :
    ∃ d more, snakeChar c = d :: more ∧ (isAsciiDigit d = true ↔ isAsciiDigit c = true) := by
  unfold snakeChar
  split
  · next hupper =>
    obtain ⟨d, more, hd⟩ := List.exists_cons_of_ne_nil (lowercase_ne_nil c)
    have hlower := lt_of_mem_lowercase hupper (hd ▸ List.mem_cons_self)
    have hletter : 65 ≤ c.toNat := by
      rw [isUpper] at hupper
      split at hupper
      · exact of_decide_eq_true (Bool.and_eq_true_iff.mp hupper).1
      · omega
    refine ⟨d, more, hd, ?_⟩
    rw [isAsciiDigit_iff, isAsciiDigit_iff]
    omega
  · split
    · next hseparator =>
      refine ⟨'_', [], rfl, ?_⟩
      rcases Bool.or_eq_true_iff.mp hseparator with h | h
      · rw [beq_iff_eq.mp h]
        decide
      · rw [beq_iff_eq.mp h]
        decide
    · exact ⟨c, [], rfl, Iff.rfl⟩

/-- A name is accepted for a group unless it is empty or starts with a digit. -/
theorem isGroupName_groupNameOf_iff (name : String) :
    isGroupName (groupNameOf name) = true ↔
      ∃ c, name.toList.head? = some c ∧ isAsciiDigit c = false := by
  rw [isGroupName, groupNameOf, String.toList_ofList, toSnakeCase, String.toList_ofList, snake]
  cases name.toList with
  | nil => simp [snakeFrom]
  | cons c cs =>
    obtain ⟨d, more, hd, hdigit⟩ := exists_head_snakeChar c
    have hfirst : snakePiece none none c cs.head? = d :: more := by
      rw [snakePiece_eq, startsWord, hd]
      simp
    have hmapped : isAsciiDigit (if isAsciiAlphanumeric d then d else '_') = isAsciiDigit c := by
      rw [← Bool.eq_iff_iff] at hdigit
      split
      · exact hdigit
      · next halnum =>
        rw [isAsciiAlphanumeric, Bool.or_eq_true, not_or, Bool.not_eq_true] at halnum
        rw [← hdigit, Bool.eq_false_iff.mpr halnum.2]
        decide
    rw [snakeFrom, hfirst]
    simp [hmapped]

/-! ## Identifiers -/

theorem lt_of_isAsciiAlphanumeric {c : Char} (h : isAsciiAlphanumeric c = true) :
    c.toNat < 0x80 := by
  simp only [isAsciiAlphanumeric, isAsciiLetter, isAsciiDigit, Bool.or_eq_true, Bool.and_eq_true,
    decide_eq_true_eq] at h
  rcases h with (⟨-, h⟩ | ⟨-, h⟩) | ⟨-, h⟩
  all_goals exact Nat.lt_of_le_of_lt h (by decide)

/-- The characters of a group name are letters and digits of ASCII, and underscores. -/
theorem mem_groupNameOf {name : String} {c : Char} (h : c ∈ (groupNameOf name).toList) :
    isAsciiAlphanumeric c = true ∨ c = '_' := by
  by_contra hnot
  obtain ⟨halnum, hunderscore⟩ := not_or.mp hnot
  exact Generation.not_mem_groupNameOf (Bool.eq_false_iff.mpr halnum) hunderscore name h

theorem isIdentContinue_of_mem_groupNameOf {name : String} {c : Char}
    (h : c ∈ (groupNameOf name).toList) : isIdentContinue c = true := by
  rcases mem_groupNameOf h with halnum | rfl
  · rw [isIdentContinue, if_pos (lt_of_isAsciiAlphanumeric halnum), halnum]
    rfl
  · decide

/-- A group name is an identifier if it is accepted. -/
theorem isIdent_groupNameOf {name : String} (h : isGroupName (groupNameOf name) = true) :
    isIdent (groupNameOf name).toList = true := by
  have hall : ∀ c ∈ (groupNameOf name).toList, isIdentContinue c = true :=
    fun c hc => isIdentContinue_of_mem_groupNameOf hc
  have hchars : ∀ c ∈ (groupNameOf name).toList, isAsciiAlphanumeric c = true ∨ c = '_' :=
    fun c hc => mem_groupNameOf hc
  rw [isGroupName] at h
  cases hlist : (groupNameOf name).toList with
  | nil =>
    rw [hlist] at h
    cases h
  | cons c cs =>
    rw [hlist] at h hall hchars
    have hstart : isIdentStart c = true := by
      rcases hchars c List.mem_cons_self with halnum | rfl
      · rw [isIdentStart, if_pos (lt_of_isAsciiAlphanumeric halnum)]
        have hdigit : isAsciiDigit c = false := by simpa using h
        rw [isAsciiAlphanumeric, hdigit, Bool.or_false] at halnum
        rw [halnum]
        rfl
      · decide
    rw [isIdent, hstart, List.all_eq_true.mpr fun d hd => hall d (List.mem_cons_of_mem c hd)]
    rfl

/-- A group name is accepted if it is an identifier. -/
theorem isGroupName_iff_isIdent (name : String) :
    isGroupName (groupNameOf name) = true ↔ isIdent (groupNameOf name).toList = true := by
  refine ⟨isIdent_groupNameOf, fun h => ?_⟩
  rw [isGroupName]
  cases hlist : (groupNameOf name).toList with
  | nil =>
    rw [hlist] at h
    cases h
  | cons c cs =>
    rw [hlist] at h
    have hdigit := isAsciiDigit_of_isIdentStart (Bool.and_eq_true_iff.mp h).1
    simp [hdigit]

/-- A plain identifier is the name of a module unless it is a keyword. -/
theorem isModuleName_iff_of_isIdent {text : String} (h : isIdent text.toList = true) :
    isModuleName text = true ↔ text ∉ Word.keywords := by
  obtain ⟨position, word, hread, hraw, htext⟩ := readTokens_of_isIdent h
  have hname : word.name = text := by
    rw [← Word.text_of_plain hraw]
    exact String.toList_inj.mp htext
  rw [isModuleName, hread]
  simp [Word.isName, hraw, hname]

/-- The name of a module is an identifier if it is written with the characters of one. -/
theorem isIdent_of_isModuleName {text : String} (h : isModuleName text = true)
    (hchars : ∀ c ∈ text.toList, isIdentContinue c = true) : isIdent text.toList = true := by
  obtain ⟨word, -, rfl⟩ := (isWord_iff h).mpr fun c hc => isInk_of_isIdent (.inr (hchars c hc))
  have hraw : word.raw = false := by
    rw [Bool.eq_false_iff]
    intro hraw
    have hhash := hchars '#' ((Word.hash_mem_text_iff word).mpr hraw)
    revert hhash
    decide
  rw [Word.text_of_plain hraw]
  exact word.isIdent

/-- **The two checks of a name agree on group names, but for the keywords.** -/
theorem isModuleName_groupNameOf_iff (name : String) :
    isModuleName (groupNameOf name) = true ↔
      isGroupName (groupNameOf name) = true ∧ groupNameOf name ∉ Word.keywords := by
  rw [isGroupName_iff_isIdent]
  constructor
  · intro h
    have hident := isIdent_of_isModuleName h fun c hc => isIdentContinue_of_mem_groupNameOf hc
    exact ⟨hident, (isModuleName_iff_of_isIdent hident).mp h⟩
  · rintro ⟨hident, hkeyword⟩
    exact (isModuleName_iff_of_isIdent hident).mpr hkeyword

/-! ## Reading a directory -/

theorem message_badGroupName (name : String) :
    (Failure.badGroupName name).message
      = "Directory name " ++ quoted name ++ " is not a valid module name" := by
  have hchain : (Failure.badGroupName name).chain
      = ["Directory name " ++ quoted name ++ " is not a valid module name"] := rfl
  rw [Failure.message, hchain]
  exact String.intercalate_singleton

section Reading

variable {settings : Settings} {directory name : String} {outer : Location} {files : FileTree}
  (hname : files.resolve directory = .ok (name :: outer))
include hname

theorem read_of_not_isGroupName (h : isGroupName (groupNameOf name) = false) :
    ((read settings directory).on files).1 = .error (.badGroupName name) := by
  have hgroup := readGroupName_on directory files
  rw [groupNameResult, hname] at hgroup
  dsimp only at hgroup
  rw [h, if_neg Bool.false_ne_true] at hgroup
  rw [read_eq, Run.on_bind_error hgroup]

/-- What is read has the name that the directory gives it. -/
theorem groupName_of_read {found : SourceDirectory}
    (hread : ((read settings directory).on files).1 = .ok found) :
    isGroupName (groupNameOf name) = true ∧ found.groupName = groupNameOf name := by
  cases haccepted : isGroupName (groupNameOf name) with
  | false =>
    rw [read_of_not_isGroupName hname haccepted] at hread
    cases hread
  | true =>
    refine ⟨rfl, ?_⟩
    have hgroup : groupNameResult files directory = .ok (groupNameOf name) := by
      rw [groupNameResult, hname]
      exact if_pos haccepted
    cases hlist : files.list directory with
    | error e =>
      have hon := readGroupName_on directory files
      rw [hgroup] at hon
      rw [read_eq, Run.on_bind_of hon, Run.on_bind_error (sources_on_error hlist)] at hread
      cases hread
    | ok listed =>
      rw [read_result settings hlist, hgroup] at hread
      cases hrecords : (listedSources settings files directory listed).mapM fun name =>
          sourceResult settings files (FilePath.join directory name) with
      | error e =>
        rw [hrecords, Except.bind, Except.map] at hread
        cases hread
      | ok records =>
        rw [hrecords, Except.bind, Except.map] at hread
        rw [← Except.ok.inj hread]

end Reading

/-- **What the name of a directory becomes.** It is accepted unless it is empty or starts with a
digit; then the directory is not read, and the failure says that it is no name of a module. What is
accepted is an identifier of ASCII, and the name of a module unless it is a keyword. -/
theorem read_groupName {settings : Settings} {directory name : String} {outer : Location}
    {files : FileTree} (hname : files.resolve directory = .ok (name :: outer)) :
    (isGroupName (groupNameOf name) = true ↔
      ∃ c, name.toList.head? = some c ∧ isAsciiDigit c = false) ∧
    (isGroupName (groupNameOf name) = false →
      ∃ failure, ((read settings directory).on files).1 = .error failure ∧
        failure.message = "Directory name " ++ quoted name ++ " is not a valid module name") ∧
    (∀ found, ((read settings directory).on files).1 = .ok found →
      isGroupName (groupNameOf name) = true ∧ found.groupName = groupNameOf name) ∧
    (isModuleName (groupNameOf name) = true ↔
      isGroupName (groupNameOf name) = true ∧ groupNameOf name ∉ Word.keywords) := by
  refine ⟨isGroupName_groupNameOf_iff name, fun h => ?_, fun found hread => ?_,
    isModuleName_groupNameOf_iff name⟩
  · exact ⟨_, read_of_not_isGroupName hname h, message_badGroupName name⟩
  · exact groupName_of_read hname hread

/-! ## A directory that is named like a keyword -/

/-- A tree with a directory that is named like a keyword, and one that is not. -/
def namedDirectories : FileTree where
  entries := [
    (["type"], .directory), (["user.rs", "type"], .file (some "struct User;")),
    (["Rest-API"], .directory)]
  current := []

theorem plain_namedDirectories : namedDirectories.Plain := by decide

/-- The name `Rest-API` becomes `rest_api`, which passes both checks. -/
theorem read_groupName_restApi :
    namedDirectories.resolve "Rest-API" = .ok ["Rest-API"] ∧
      groupNameOf "Rest-API" = "rest_api" ∧ isModuleName "rest_api" = true := by
  have hname : namedDirectories.resolve "Rest-API" = .ok ["Rest-API"] :=
    (plain_namedDirectories.resolve_name (by decide)).mpr ⟨rfl, by decide, rfl⟩
  have hgroup : groupNameOf "Rest-API" = "rest_api" := by decide +kernel
  have hmodule := (@read_groupName .default _ _ _ _ hname).2.2.2
  rw [hgroup] at hmodule
  exact ⟨hname, hgroup, hmodule.mpr ⟨by decide, by decide⟩⟩

/-- The directory `type` is read, and its name stays a keyword. -/
theorem read_groupName_keyword :
    ∃ found, ((read .default "type").on namedDirectories).1 = .ok found ∧
      found.groupName = "type" ∧ isModuleName found.groupName = false := by
  have hname : namedDirectories.resolve "type" = .ok ["type"] :=
    (plain_namedDirectories.resolve_name (by decide)).mpr ⟨rfl, by decide, rfl⟩
  have hheld : HeldAt .default namedDirectories ["type"] ⟨"type", []⟩ :=
    heldAt_of_one_source "type" "user.rs" (by decide) (by decide) (by decide +kernel)
  exact ⟨_, read_of_heldAt plain_namedDirectories hname (by decide) hheld, rfl, by decide +kernel⟩

end RequestBinding.SourceDirectory
