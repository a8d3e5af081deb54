import RequestBinding.ModuleName

/-!
# Texts of one word

A text whose only token is a word: the word with nothing around it but blanks and comments. The
reader adds to the tokens it has read and never takes one back, so nothing else can have been read.

## Main statements

* `begins_of_run` — the tokens read so far come first in the end.
* `exists_of_isModuleName` — the name of a module is a word among blanks.
* `isWord_iff` — when such a name is the word and nothing else.
-/

namespace RequestBinding.Source

open Text

/-! ## Lexemes -/

theorem Word.text_ne_nil (word : Word) : word.text.toList ≠ [] := by
  have hname : word.name.toList ≠ [] := by
    intro h
    have hident := word.isIdent
    rw [h] at hident
    cases hident
  rw [Word.text]
  split
  · simp
  · exact hname

namespace Lexeme

variable {cs text : List Char} {lexeme : Lexeme}

theorem delimiter_of_takeDelimiter (h : takeDelimiter cs = some (lexeme, text)) :
    ∃ delimiter, lexeme = .opening delimiter ∨ lexeme = .closing delimiter := by
  cases cs with
  | nil => cases h
  | cons c cs =>
    rw [takeDelimiter] at h
    split at h
    · cases h
    · simp only [Option.orElse_eq_orElse, Option.orElse_eq_or, Option.or_eq_some_iff,
        Option.map_eq_some_iff, Prod.mk.injEq] at h
      rcases h with ⟨delimiter, -, rfl, -⟩ | ⟨-, delimiter, -, rfl, -⟩
      · exact ⟨delimiter, .inl rfl⟩
      · exact ⟨delimiter, .inr rfl⟩

/-- A lexeme that is no blank stands where no blank is. -/
theorem takeBlank_of_read (h : read cs = some (lexeme, text)) (hlexeme : lexeme ≠ .blank) :
    takeBlank cs = none := by
  cases hblank : takeBlank cs with
  | none => rfl
  | some cut =>
    simp [read, takeSpacing, hblank] at h
    exact absurd h.1.symm hlexeme

theorem exists_of_read_blank (h : read cs = some (.blank, text)) :
    ∃ rest, takeBlank cs = some (text, rest) := by
  cases hblank : takeBlank cs with
  | some cut =>
    simp [read, takeSpacing, hblank] at h
    exact ⟨cut.2, by rw [← h]⟩
  | none =>
    simp [read, takeSpacing, hblank, takeLeaf] at h
    obtain ⟨delimiter, h | h⟩ := delimiter_of_takeDelimiter h.2 <;> cases h

/-- A word is taken as it is written. -/
theorem exists_of_read_word {word : Word} (h : read cs = some (.word word, text)) :
    text = word.text.toList ∧ ∃ rest, cs = text ++ rest := by
  have hleaf : takeLeaf cs = some (.word word, text) := by
    simp only [read, Option.orElse_eq_orElse, Option.orElse_eq_or, Option.or_eq_some_iff] at h
    rcases h with h | ⟨-, h | ⟨-, h⟩⟩
    · simp [takeSpacing] at h
    · obtain ⟨delimiter, h | h⟩ := delimiter_of_takeDelimiter h <;> cases h
    · exact h
  rw [takeLeaf] at hleaf
  simp only [Option.orElse_eq_orElse, Option.orElse_eq_or, Option.or_eq_some_iff] at hleaf
  rcases hleaf with hleaf | ⟨-, hleaf | ⟨-, hleaf | ⟨-, hleaf⟩⟩⟩
  · obtain ⟨cut, -, hcut⟩ := Option.map_eq_some_iff.mp hleaf
    cases hcut
  · obtain ⟨found, -, hfound⟩ := Option.map_eq_some_iff.mp hleaf
    cases hfound
  · split at hleaf
    · cases hleaf
    · obtain ⟨⟨found, rest⟩, htake, hfound⟩ := Option.map_eq_some_iff.mp hleaf
      cases hfound
      exact ⟨rfl, rest, Word.text_of_take htake⟩
  · split at hleaf <;> cases hleaf

end Lexeme

/-! ## Reading -/

namespace Reading

variable {state : Reading} {cs : List Char} {trees : List TokenTree}

/-- The tokens that were read outside all delimiters, in order. -/
def outer (state : Reading) : List TokenTree :=
  (match state.opened.getLast? with
    | none => state.tokens
    | some last => last.before).reverse

theorem outer_of_not_opened (h : state.opened = []) : state.outer = state.tokens.reverse := by
  rw [outer, h]
  rfl

/-- The tree is the tokens between two delimiters. -/
def isGroup : TokenTree → Bool
  | .group _ _ _ _ => true
  | _ => false

/-- The trees begin with what was read outside all delimiters; what is open becomes a group. -/
def Begins (state : Reading) (trees : List TokenTree) : Prop :=
  ∃ more, trees = state.outer ++ more ∧
    (state.opened ≠ [] → (more.head?.any isGroup) = true)

/-- Tokens that are added between two lexemes come after those read so far. -/
theorem Begins.of_push (new : List TokenTree) {position : Position}
    (h : Begins ⟨position, state.opened, new ++ state.tokens⟩ trees) : Begins state trees := by
  obtain ⟨more, htrees, hgroup⟩ := h
  cases hopened : state.opened.getLast? with
  | none =>
    have hempty : state.opened = [] := List.getLast?_eq_none_iff.mp hopened
    refine ⟨new.reverse ++ more, ?_, fun h => absurd hempty h⟩
    rw [htrees, outer_of_not_opened hempty, outer_of_not_opened (by exact hempty)]
    simp
  | some last =>
    refine ⟨more, ?_, hgroup⟩
    rw [htrees, outer, outer, hopened]

/-- A lexeme takes nothing back that was read. -/
theorem Begins.of_add {lexeme : Lexeme} {text : List Char} {next : Reading}
    (hadd : state.add lexeme text = some next) (h : Begins next trees) : Begins state trees := by
  cases lexeme with
  | blank =>
    obtain rfl := Option.some.inj hadd
    exact .of_push [] h
  | documentation comment =>
    obtain rfl := Option.some.inj hadd
    exact .of_push _ h
  | word word =>
    obtain rfl := Option.some.inj hadd
    exact .of_push [_] h
  | mark mark joint =>
    obtain rfl := Option.some.inj hadd
    exact .of_push [_] h
  | literal =>
    obtain rfl := Option.some.inj hadd
    exact .of_push [_] h
  | opening delimiter =>
    obtain rfl := Option.some.inj hadd
    obtain ⟨more, htrees, hgroup⟩ := h
    refine ⟨more, ?_, fun _ => hgroup (List.cons_ne_nil _ _)⟩
    rw [htrees, outer, outer]
    cases hopened : state.opened.getLast? with
    | none => simp [List.getLast?_eq_none_iff.mp hopened]
    | some last => simp [List.getLast?_cons, hopened]
  | closing delimiter =>
    rw [add] at hadd
    split at hadd
    · cases hadd
    · next last outer hopened =>
      split at hadd
      · obtain rfl := Option.some.inj hadd
        obtain ⟨more, htrees, hgroup⟩ := h
        cases outer with
        -- Only closing the last delimiter adds a token outside all of them.
        | nil =>
          refine ⟨.group last.position delimiter state.tokens.reverse state.position :: more, ?_,
            fun _ => rfl⟩
          rw [htrees, Reading.outer, Reading.outer, hopened]
          simp
        | cons next more' =>
          refine ⟨more, ?_, fun _ => hgroup (List.cons_ne_nil _ _)⟩
          rw [htrees, Reading.outer, Reading.outer, hopened]
          simp [List.getLast?_cons]
      · cases hadd

/-- What was read outside all delimiters comes first in the end. -/
theorem begins_of_run (h : state.run cs = .ok trees) : Begins state trees := by
  fun_induction Reading.run state cs with
  | case1 state hopened =>
    obtain rfl := Except.ok.inj h
    refine ⟨[], ?_, fun hne => absurd hopened hne⟩
    rw [outer_of_not_opened hopened, List.append_nil]
  | case2 => cases h
  | case3 => cases h
  | case4 => cases h
  | case5 state c cs lexeme text hread next hadd ih => exact .of_add hadd (ih h)

/-- Outside all delimiters, what is no blank adds a token, and a word only adds itself. -/
theorem token_of_run (hopened : state.opened = []) {lexeme : Lexeme} {text : List Char}
    {next : Reading} (hlexeme : lexeme ≠ .blank) (hadd : state.add lexeme text = some next)
    (h : next.run cs = .ok trees) :
    ∃ tree more, trees = state.tokens.reverse ++ tree :: more ∧
      ∀ position word, tree = .word position word →
        lexeme = .word word ∧ next.opened = [] ∧ next.tokens = tree :: state.tokens := by
  obtain ⟨more, htrees, hgroup⟩ := begins_of_run h
  cases lexeme with
  | blank => exact absurd rfl hlexeme
  | documentation comment =>
    obtain rfl := Option.some.inj hadd
    rw [outer_of_not_opened (by exact hopened)] at htrees
    refine ⟨.mark state.position .hash false, _, by simpa [docTokens] using htrees, ?_⟩
    rintro _ _ ⟨⟩
  | word word =>
    obtain rfl := Option.some.inj hadd
    rw [outer_of_not_opened (by exact hopened)] at htrees
    refine ⟨.word state.position word, more, by simpa using htrees, ?_⟩
    rintro _ _ ⟨⟩
    exact ⟨rfl, hopened, rfl⟩
  | mark mark joint =>
    obtain rfl := Option.some.inj hadd
    rw [outer_of_not_opened (by exact hopened)] at htrees
    refine ⟨.mark state.position mark joint, more, by simpa using htrees, ?_⟩
    rintro _ _ ⟨⟩
  | literal =>
    obtain rfl := Option.some.inj hadd
    rw [outer_of_not_opened (by exact hopened)] at htrees
    refine ⟨.literal state.position (String.ofList text), more, by simpa using htrees, ?_⟩
    rintro _ _ ⟨⟩
  | opening delimiter =>
    obtain rfl := Option.some.inj hadd
    have houter : outer ⟨state.position.afterText text,
        ⟨state.position, delimiter, state.tokens⟩ :: state.opened, []⟩ = state.tokens.reverse := by
      rw [outer, hopened]
      rfl
    have hgroup := hgroup (List.cons_ne_nil _ _)
    cases more with
    | nil => cases hgroup
    -- What is open becomes a group, and a group is no word.
    | cons tree more =>
      refine ⟨tree, more, by rw [htrees, houter], ?_⟩
      rintro _ _ rfl
      cases hgroup
  | closing delimiter =>
    rw [add, hopened] at hadd
    cases hadd

/-- After a blank the text goes on behind it. -/
theorem skipBlanks_blank {c : Char} {text : List Char}
    (hread : Lexeme.read (c :: cs) = some (.blank, text)) :
    Lexeme.skipBlanks (c :: cs) = Lexeme.skipBlanks (cs.drop (text.length - 1)) := by
  obtain ⟨rest, htake⟩ := Lexeme.exists_of_read_blank hread
  rw [Lexeme.skipBlanks, htake]

/-- If no token is added to those that were read, then nothing but blanks follows. -/
theorem skipBlanks_of_run (hopened : state.opened = [])
    (h : state.run cs = .ok state.tokens.reverse) : Lexeme.skipBlanks cs = [] := by
  fun_induction Reading.run state cs with
  | case1 => rw [Lexeme.skipBlanks]
  | case2 => cases h
  | case3 => cases h
  | case4 => cases h
  | case5 state c cs lexeme text hread next hadd ih =>
    by_cases hblank : lexeme = .blank
    · subst hblank
      obtain rfl := Option.some.inj hadd
      rw [skipBlanks_blank hread]
      exact ih hopened h
    · obtain ⟨tree, more, htrees, -⟩ := token_of_run hopened hblank hadd h
      have hlength := congrArg List.length htrees
      simp at hlength

/-- A text of one word is the word with nothing but blanks around it. -/
theorem exists_of_run_word {position : Position} {word : Word} (hopened : state.opened = [])
    (htokens : state.tokens = []) (h : state.run cs = .ok [.word position word]) :
    ∃ rest, Lexeme.skipBlanks cs = word.text.toList ++ rest ∧ Lexeme.skipBlanks rest = [] := by
  fun_induction Reading.run state cs with
  | case1 state =>
    rw [htokens] at h
    cases h
  | case2 => cases h
  | case3 => cases h
  | case4 => cases h
  | case5 state c cs lexeme text hread next hadd ih =>
    by_cases hblank : lexeme = .blank
    · subst hblank
      obtain rfl := Option.some.inj hadd
      rw [skipBlanks_blank hread]
      exact ih hopened htokens h
    · -- The first lexeme that is no blank adds the only token, so it is the word itself, and what
      -- comes after it adds none.
      obtain ⟨tree, more, htrees, hword⟩ := token_of_run hopened hblank hadd h
      rw [htokens] at htrees hword
      obtain ⟨rfl, rfl⟩ := List.cons.inj htrees
      obtain ⟨rfl, hopened', htokens'⟩ := hword _ _ rfl
      obtain ⟨rfl, rest, hcs⟩ := Lexeme.exists_of_read_word hread
      have hdrop : cs.drop (word.text.toList.length - 1) = rest := by
        obtain ⟨d, more, htext⟩ := List.exists_cons_of_ne_nil word.text_ne_nil
        rw [htext] at hcs ⊢
        rw [(List.cons.inj hcs).2]
        simp
      refine ⟨rest, ?_, ?_⟩
      · rw [Lexeme.skipBlanks, Lexeme.takeBlank_of_read hread hblank]
        exact hcs
      · rw [← hdrop]
        exact skipBlanks_of_run hopened' (by rw [htokens']; exact h)

end Reading

/-! ## Names of modules -/

/-- The text after a byte order mark that stands before it. -/
def afterMark (cs : List Char) : List Char := if cs.head? = some byteOrderMark then cs.tail else cs

theorem readTokens_eq (cs : List Char) :
    ∃ position, readTokens cs = Reading.run ⟨position, [], []⟩ (afterMark cs) := by
  cases cs with
  | nil => exact ⟨.start, by rw [afterMark, if_neg (by simp), Reading.run]; rfl⟩
  | cons c cs =>
    rw [readTokens]
    by_cases hmark : c = byteOrderMark
    · exact ⟨_, by rw [if_pos hmark, afterMark, if_pos (by simp [hmark])]; rfl⟩
    · exact ⟨_, by rw [if_neg hmark, afterMark, if_neg (by simpa using hmark)]⟩

/-- **The name of a module is a word with nothing but blanks and comments around it.** -/
theorem exists_of_isModuleName {text : String} (h : isModuleName text = true) :
    ∃ (word : Word) (rest : List Char), word.isName = true ∧
      Lexeme.skipBlanks (afterMark text.toList) = word.text.toList ++ rest ∧
      Lexeme.skipBlanks rest = [] := by
  obtain ⟨position, hread⟩ := readTokens_eq text.toList
  rw [isModuleName] at h
  split at h
  · next place word htokens =>
    have hrun : Reading.run ⟨position, [], []⟩ (afterMark text.toList) =
        .ok [.word place word] := hread.symm.trans htokens
    obtain ⟨rest, hword, hrest⟩ := Reading.exists_of_run_word rfl rfl hrun
    exact ⟨word, rest, h, hword, hrest⟩
  · cases h

/-- The character is no blank and starts no comment. -/
def isInk (c : Char) : Bool := !Lexeme.isSpace c && c != '/' && c != byteOrderMark

/-- Without blanks and comments nothing is skipped. -/
theorem skipBlanks_of_isInk {cs : List Char} (h : ∀ c ∈ cs, isInk c = true) :
    Lexeme.skipBlanks cs = cs := by
  cases cs with
  | nil => rw [Lexeme.skipBlanks]
  | cons c cs =>
    have hink := h c List.mem_cons_self
    simp only [isInk, Bool.and_eq_true, Bool.not_eq_true', bne_iff_ne] at hink
    obtain ⟨⟨hspace, hslash⟩, -⟩ := hink
    have hcomment : Lexeme.takeComment (c :: cs) = none := by
      unfold Lexeme.takeComment
      split <;> simp_all
    rw [Lexeme.skipBlanks, Lexeme.takeBlank, if_neg (by simp [hspace]), hcomment]

/-- The blank characters and the two marks of writing direction. -/
def spaceCodes : List Nat :=
  blankRanges.flatMap (fun r => (List.range (r.2 + 1 - r.1)).map (r.1 + ·)) ++ [0x200E, 0x200F]

theorem mem_spaceCodes_of_isBlank {c : Char} (h : isBlank c = true) : c.toNat ∈ spaceCodes := by
  obtain ⟨r, hr, hlow, hhigh⟩ := CodeRanges.has_eq_true_iff.mp h
  refine List.mem_append_left _ (List.mem_flatMap.mpr ⟨r, hr, ?_⟩)
  exact List.mem_map.mpr ⟨c.toNat - r.1, List.mem_range.mpr (by omega), by omega⟩

theorem mem_spaceCodes {c : Char} (h : Lexeme.isSpace c = true) : c.toNat ∈ spaceCodes := by
  rw [Lexeme.isSpace] at h
  split at h
  · refine mem_spaceCodes_of_isBlank (CodeRanges.has_eq_true_iff.mpr ?_)
    rcases Bool.or_eq_true_iff.mp h with h | h
    · exact ⟨(0x20, 0x20), by decide, by simp [beq_iff_eq.mp h], by simp [beq_iff_eq.mp h]⟩
    · exact ⟨(0x9, 0xD), by decide, by simpa using h⟩
  · rcases Bool.or_eq_true_iff.mp h with h | h
    · rcases Bool.or_eq_true_iff.mp h with h | h
      · exact mem_spaceCodes_of_isBlank h
      · simp [spaceCodes, beq_iff_eq.mp h]
    · simp [spaceCodes, beq_iff_eq.mp h]

theorem isIdent_of_mem_spaceCodes {c : Char} (h : c.toNat ∈ spaceCodes) :
    isIdentStart c = false ∧ isIdentContinue c = false := by
  have hall : ∀ n ∈ spaceCodes, isIdentStart (Char.ofNat n) = false ∧
      isIdentContinue (Char.ofNat n) = false := by decide +kernel
  have hc := hall c.toNat h
  rwa [Char.ofNat_toNat] at hc

/-- No identifier has a blank in it. -/
theorem isIdent_of_isSpace {c : Char} (h : Lexeme.isSpace c = true) :
    isIdentStart c = false ∧ isIdentContinue c = false :=
  isIdent_of_mem_spaceCodes (mem_spaceCodes h)

theorem isIdent_of_isBlank {c : Char} (h : isBlank c = true) :
    isIdentStart c = false ∧ isIdentContinue c = false :=
  isIdent_of_mem_spaceCodes (mem_spaceCodes_of_isBlank h)

/-- What may stand in an identifier is no blank and starts no comment. -/
theorem isInk_of_isIdent {c : Char} (h : isIdentStart c = true ∨ isIdentContinue c = true) :
    isInk c = true := by
  have hspace : Lexeme.isSpace c = false := by
    rw [Bool.eq_false_iff]
    intro hspace
    obtain ⟨hstart, hcontinue⟩ := isIdent_of_isSpace hspace
    rw [hstart, hcontinue] at h
    revert h
    decide
  have hne : c ≠ '/' ∧ c ≠ byteOrderMark := by
    constructor
    all_goals
      rintro rfl
      revert h
      decide +kernel
  simp [isInk, hspace, hne]

theorem isInk_of_mem_text {word : Word} {c : Char} (h : c ∈ word.text.toList) : isInk c = true := by
  rcases Word.mem_text h with rfl | hident
  · decide
  · exact isInk_of_isIdent hident

/-- The name of a module is a word and nothing else if there is no blank and no slash in it. -/
theorem isWord_iff {text : String} (h : isModuleName text = true) :
    (∃ word : Word, word.isName = true ∧ text = word.text) ↔
      ∀ c ∈ text.toList, isInk c = true := by
  constructor
  · rintro ⟨word, -, rfl⟩ c hc
    exact isInk_of_mem_text hc
  · intro hink
    obtain ⟨word, rest, hname, hword, hrest⟩ := exists_of_isModuleName h
    have hmark : afterMark text.toList = text.toList := by
      refine if_neg fun hhead => ?_
      have hfirst := hink byteOrderMark (List.mem_of_mem_head? hhead)
      revert hfirst
      decide
    rw [hmark, skipBlanks_of_isInk hink] at hword
    rw [skipBlanks_of_isInk fun c hc => hink c (by simp [hword, hc])] at hrest
    refine ⟨word, hname, String.toList_injective ?_⟩
    rw [hword, hrest, List.append_nil]

end RequestBinding.Source
