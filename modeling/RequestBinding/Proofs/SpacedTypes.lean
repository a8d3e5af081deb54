import Mathlib.Data.List.Chain
import Mathlib.Data.List.Infix
import RequestBinding.Proofs.BindMeaning
import RequestBinding.Proofs.FieldKinds
import RequestBinding.Proofs.SingleWord

/-!
# Types in any spacing

A type is a list of words, double colons and other marks, and its text has these tokens with any
blanks between them. The kind of a field is decided by the text without its blanks, the name of its
primitive type is cut out of the text with them. Both find the same word, the last token: no two
words meet, so the last segment of the text without blanks is a name only if it is one token.

## Steps

* **Texts.** Without its blanks, a text is its tokens one after the other (`compact_of_prints`). The
  last token of a text with blanks is found in it as well (`Prints.concat`).
* **Last words.** A name at the end of the tokens, with nothing or a colon before it, is the last
  token (`exists_word`), and stands alone or after two colons (`exists_lastWord`).
* **Types.** So the name is found in the text with its blanks (`trim_lastSegment_of_prints`), and
  every comparison of the field is the one for its own type.

## Main statements

* `integerType?_of_prints` — the kind does not depend on the blanks, and an integer field has the
  type that its last token names.
-/

namespace RequestBinding

open Source Text RequestBinding.Function

/-- The text may be a mark of a type: nothing in it is blank, a colon or part of a word. -/
structure IsMark (text : List Char) : Prop where
  ne_nil : text ≠ []
  chars : ∀ c ∈ text, isBlank c = false ∧ c ≠ ':' ∧ isIdentContinue c = false

/-- A token of a type. -/
inductive TypeToken where
  | word (word : Word)
  /-- The two colons of a path. -/
  | colons
  /-- Any other mark. -/
  | mark (text : List Char) (isMark : IsMark text)

namespace TypeToken

def text : TypeToken → List Char
  | word w => w.text.toList
  | colons => [':', ':']
  | mark text _ => text

def isWord : TypeToken → Bool
  | word _ => true
  | _ => false

/-- No two words stand next to each other. -/
def WordsApart (tokens : List TypeToken) : Prop :=
  tokens.IsChain fun first second => (first.isWord && second.isWord) = false

/-- The text has these tokens, with blanks before, between and after them. -/
inductive Prints : List TypeToken → List Char → Prop
  | nil {blanks : List Char} : isBlankText blanks = true → Prints [] blanks
  | cons {token : TypeToken} {tokens : List TypeToken} {blanks rest : List Char} :
    isBlankText blanks = true → Prints tokens rest →
      Prints (token :: tokens) (blanks ++ token.text ++ rest)

/-! ## Characters of tokens -/

theorem colon_not_mem_of_isIdentContinue {cs : List Char}
    (h : ∀ c ∈ cs, isIdentContinue c = true) : ':' ∉ cs := by
  intro hmem
  have hcontinue := h ':' hmem
  revert hcontinue
  decide

theorem text_ne_nil (token : TypeToken) : token.text ≠ [] := by
  cases token with
  | word w => exact w.text_ne_nil
  | colons => exact List.cons_ne_nil _ _
  | mark text isMark => exact isMark.ne_nil

theorem isBlank_of_mem_text {token : TypeToken} {c : Char} (hmem : c ∈ token.text) :
    isBlank c = false := by
  cases token with
  | word w =>
    rw [Bool.eq_false_iff]
    intro hblank
    obtain ⟨hstart, hcontinue⟩ := isIdent_of_isBlank hblank
    rcases Word.mem_text hmem with rfl | h | h
    · revert hblank
      decide
    · rw [hstart] at h
      cases h
    · rw [hcontinue] at h
      cases h
  | colons =>
    obtain rfl : c = ':' := by simpa [text] using hmem
    decide
  | mark text isMark => exact (isMark.chars c hmem).1

/-- Only words have characters of identifiers. -/
theorem isWord_of_mem_text {token : TypeToken} {c : Char} (hmem : c ∈ token.text)
    (hc : isIdentContinue c = true) : token.isWord = true := by
  cases token with
  | word w => rfl
  | colons =>
    obtain rfl : c = ':' := by simpa [text] using hmem
    revert hc
    decide
  | mark text isMark =>
    rw [(isMark.chars c hmem).2.2] at hc
    cases hc

/-- Only the two colons have a colon. -/
theorem eq_colons_of_mem_text {token : TypeToken} (hmem : ':' ∈ token.text) : token = colons := by
  cases token with
  | word w =>
    have hnot : ¬(':' = '#' ∨ isIdentStart ':' = true ∨ isIdentContinue ':' = true) := by decide
    exact absurd (Word.mem_text hmem) hnot
  | colons => rfl
  | mark text isMark => exact absurd rfl (isMark.chars ':' hmem).2.1

/-! ## Texts -/

theorem isBlankText_iff {cs : List Char} : isBlankText cs = true ↔ ∀ c ∈ cs, isBlank c = true :=
  List.all_eq_true

/-- Without its blanks, a text is its tokens one after the other. -/
theorem compact_of_prints {tokens : List TypeToken} {cs : List Char} (h : Prints tokens cs) :
    FieldKind.compact cs = tokens.flatMap text := by
  have hdrop {blanks : List Char} (hblanks : isBlankText blanks = true) :
      blanks.filter (fun c => !isBlank c) = [] := by
    rw [List.filter_eq_nil_iff]
    intro c hc
    simp [isBlankText_iff.mp hblanks c hc]
  induction h with
  | nil hblanks => exact hdrop hblanks
  | @cons token tokens blanks rest hblanks _ ih =>
    have hkeep : token.text.filter (fun c => !isBlank c) = token.text := by
      rw [List.filter_eq_self]
      intro c hc
      simp [isBlank_of_mem_text hc]
    rw [FieldKind.compact] at ih ⊢
    rw [List.filter_append, List.filter_append, hdrop hblanks, hkeep, ih, List.nil_append,
      List.flatMap_cons]

/-- The last token stands at the end of a text, but for blanks. -/
theorem Prints.concat {tokens : List TypeToken} {last : TypeToken} {cs : List Char}
    (h : Prints (tokens ++ [last]) cs) : ∃ before blanks, Prints tokens before ∧
      isBlankText blanks = true ∧ cs = before ++ last.text ++ blanks := by
  induction tokens generalizing cs with
  | nil =>
    cases h with
    | @cons _ _ before rest hbefore hrest =>
      cases hrest with
      | nil hblanks => exact ⟨before, rest, .nil hbefore, hblanks, rfl⟩
  | cons token tokens ih =>
    cases h with
    | @cons _ _ blanks rest hblanks hrest =>
      obtain ⟨before, after, hbefore, hafter, rfl⟩ := ih hrest
      refine ⟨blanks ++ token.text ++ before, after, .cons hblanks hbefore, hafter, ?_⟩
      simp only [List.append_assoc]

theorem flatMap_text_eq_nil_iff {tokens : List TypeToken} :
    tokens.flatMap text = [] ↔ tokens = [] := by
  cases tokens with
  | nil => exact ⟨fun _ => rfl, fun _ => rfl⟩
  | cons token tokens =>
    simp [List.flatMap_cons, text_ne_nil]

/-- The last character of tokens is in the last token. -/
theorem exists_last_of_getLast? {tokens : List TypeToken} {c : Char}
    (h : (tokens.flatMap text).getLast? = some c) :
    ∃ before last, tokens = before ++ [last] ∧ c ∈ last.text := by
  rcases List.eq_nil_or_concat' tokens with rfl | ⟨before, last, rfl⟩
  · cases h
  · refine ⟨before, last, rfl, ?_⟩
    rw [List.flatMap_append, List.flatMap_singleton,
      List.getLast?_append_of_ne_nil _ (text_ne_nil last)] at h
    exact List.mem_of_getLast? h

/-! ## Last words -/

/-- A name at the end of the tokens, with nothing or a colon before it, is the last of them. -/
theorem exists_word {tokens : List TypeToken} (hapart : WordsApart tokens)
    (before : List Char) {name : List Char} (hne : name ≠ [])
    (hname : ∀ c ∈ name, isIdentContinue c = true)
    (hbefore : ∀ c, before.getLast? = some c → c = ':')
    (h : tokens.flatMap text = before ++ name) :
    ∃ more word, tokens = more ++ [word] ∧ word.text = name ∧ more.flatMap text = before := by
  have hlast : (tokens.flatMap text).getLast? = some (name.getLast hne) := by
    rw [h, List.getLast?_append_of_ne_nil _ hne, List.getLast?_eq_getLast_of_ne_nil hne]
  obtain ⟨more, word, rfl, hmem⟩ := exists_last_of_getLast? hlast
  have hword := isWord_of_mem_text hmem (hname _ (List.getLast_mem hne))
  rw [List.flatMap_append, List.flatMap_singleton] at h
  refine ⟨more, word, rfl, ?_⟩
  rcases List.append_eq_append_iff.mp h with ⟨part, rfl, hpart⟩ | ⟨part, hpart, rfl⟩
  · -- the token has characters before the name, so the last of them is a colon
    rcases List.eq_nil_or_concat' part with rfl | ⟨start, c, rfl⟩
    · exact ⟨hpart, (List.append_nil _).symm⟩
    · obtain rfl : c = ':' := hbefore c (by simp [← List.append_assoc])
      obtain rfl : word = colons := eq_colons_of_mem_text (by simp [hpart])
      cases hword
  · -- the token before has the last characters of the name that the token lacks
    rcases List.eq_nil_or_concat' part with rfl | ⟨start, c, rfl⟩
    · exact ⟨rfl, by rw [hpart, List.append_nil]⟩
    · have hc : isIdentContinue c = true := hname c (by simp)
      have hmore : (more.flatMap text).getLast? = some c := by
        rw [hpart]
        simp [← List.append_assoc]
      obtain ⟨more, other, rfl, hother⟩ := exists_last_of_getLast? hmore
      have hmeet := List.isChain_append.mp hapart
      have hnot := hmeet.2.2 other (by simp) word (by simp)
      rw [isWord_of_mem_text hother hc, hword] at hnot
      cases hnot

/-- The word is the last token, and stands alone or after two colons. -/
def EndsIn (tokens : List TypeToken) (word : TypeToken) : Prop :=
  tokens = [word] ∨ ∃ more, tokens = more ++ [colons] ++ [word]

theorem EndsIn.getLast? {tokens : List TypeToken} {word : TypeToken} (h : EndsIn tokens word) :
    tokens.getLast? = some word := by
  rcases h with rfl | ⟨more, rfl⟩
  · rfl
  · rw [List.getLast?_concat]

/-- A name that is the last segment of the tokens is a token in which they end. -/
theorem exists_lastWord {tokens : List TypeToken} (hapart : WordsApart tokens)
    {name : List Char} (hne : name ≠ []) (hname : ∀ c ∈ name, isIdentContinue c = true)
    (h : lastSegment (tokens.flatMap text) = name) :
    ∃ word, word.text = name ∧ EndsIn tokens word := by
  have hcolon := colon_not_mem_of_isIdentContinue hname
  rcases (lastSegment_eq_iff hcolon).mp h with hwhole | ⟨before, hbefore⟩
  · obtain ⟨more, word, rfl, hword, hmore⟩ :=
      exists_word hapart [] hne hname (by simp) (by simpa)
    obtain rfl := flatMap_text_eq_nil_iff.mp hmore
    exact ⟨word, hword, .inl rfl⟩
  · obtain ⟨more, word, rfl, hword, hmore⟩ :=
      exists_word hapart (before ++ [':', ':']) hne hname (by simp) (by simpa using hbefore.symm)
    have hlast : (more.flatMap text).getLast? = some ':' := by simp [hmore]
    obtain ⟨start, last, rfl, hmem⟩ := exists_last_of_getLast? hlast
    obtain rfl := eq_colons_of_mem_text hmem
    exact ⟨word, hword, .inr ⟨start, rfl⟩⟩

/-! ## Types of fields -/

/-- The name is found in the text with its blanks. -/
theorem trim_lastSegment_of_prints {tokens : List TypeToken} {word : TypeToken} {cs : List Char}
    (hcolon : ':' ∉ word.text) (h : EndsIn tokens word) (hprints : Prints tokens cs) :
    trim (lastSegment cs) = word.text := by
  have hblanks {blanks : List Char} (hblank : isBlankText blanks = true) : ':' ∉ blanks := by
    intro hmem
    have hcolon := isBlankText_iff.mp hblank ':' hmem
    revert hcolon
    decide
  have hword : ∀ c ∈ word.text, isBlank c = false := fun c hc => isBlank_of_mem_text hc
  rcases h with rfl | ⟨more, rfl⟩
  · have hsingle : Prints ([] ++ [word]) cs := hprints
    obtain ⟨before, after, hbefore, hafter, rfl⟩ := hsingle.concat
    cases hbefore with
    | nil hbefore =>
      rw [lastSegment_of_not_mem (by simp [hblanks hbefore, hblanks hafter, hcolon])]
      exact trim_padded hbefore hafter hword
  · obtain ⟨before, after, hbefore, hafter, rfl⟩ := hprints.concat
    obtain ⟨start, between, -, hbetween, rfl⟩ := hbefore.concat
    have hcs : start ++ colons.text ++ between ++ word.text ++ after
        = start ++ ':' :: ':' :: (between ++ word.text ++ after) := by
      simp [text]
    rw [hcs, lastSegment_append (by simp [hblanks hbetween, hblanks hafter, hcolon])]
    exact trim_padded hbetween hafter hword

/-- The kind is decided by the tokens. -/
theorem ofType_eq_of_prints {tokens : List TypeToken} {type other : String}
    (htype : Prints tokens type.toList) (hother : Prints tokens other.toList) :
    FieldKind.ofType type = FieldKind.ofType other := by
  unfold FieldKind.ofType
  rw [compact_of_prints htype, compact_of_prints hother]

/-- The primitive types, in the order in which their names are listed. -/
def primitives : List IntegerType :=
  [true, false].flatMap fun signed =>
    [.bits8, .bits16, .bits32, .bits64, .bits128, .pointer].map (⟨signed, ·⟩)

theorem map_name_primitives : primitives.map IntegerType.name = FieldKind.integerTypes := by
  decide

theorem chars_of_mem_integerTypes {name : String} (h : name ∈ FieldKind.integerTypes) :
    name.toList ≠ [] ∧ ∀ c ∈ name.toList, isIdentContinue c = true := by
  have hall : (FieldKind.integerTypes.all fun name =>
      name.toList != [] && name.toList.all isIdentContinue) = true := by
    decide +kernel
  obtain ⟨hne, hchars⟩ := Bool.and_eq_true_iff.mp (List.all_eq_true.mp hall name h)
  exact ⟨bne_iff_ne.mp hne, List.all_eq_true.mp hchars⟩

/-- A check of a bound compares the field by the name of its type. -/
theorem exists_of_mem_boundStatements {field : Field} {statement : Statement}
    (h : statement ∈ boundStatements field) :
    ∃ side bound, statement =
      .refuse ⟨field.name, .ofType side (field.integerType?.getD ""), side, bound⟩
        (boundMessage field.name side bound) := by
  have hside {side : Side} {bound : Option Int64}
      (hmem : statement ∈ sideStatements field side bound) : ∃ side bound, statement =
        .refuse ⟨field.name, .ofType side (field.integerType?.getD ""), side, bound⟩
          (boundMessage field.name side bound) := by
    cases bound with
    | none => cases hmem
    | some n => exact ⟨side, n, List.mem_singleton.mp hmem⟩
  unfold boundStatements at h
  split at h
  · cases h
  · rcases List.mem_append.mp h with h | h
    · exact hside h
    · exact hside h

/-- **The kind of a type and the name of its primitive type agree, whatever the blanks.** The kind
is the same in all texts with the same tokens. An integer field has the primitive type that its last
token names, and every check of a bound is the comparison for that type, which is the one of the
numbers. -/
theorem integerType?_of_prints (tokens : List TypeToken) (hapart : WordsApart tokens) :
    (∀ type other : String, Prints tokens type.toList → Prints tokens other.toList →
      FieldKind.ofType type = FieldKind.ofType other) ∧
    ∀ (name text : String) (bind : Option BindDirective) (bounds : Option Bounds),
      Prints tokens text.toList → (Field.of name text bind bounds).kind = .integer →
      ∃ (type : IntegerType) (last : TypeToken),
        tokens.getLast? = some last ∧ last.text = type.name.toList ∧
        type.name ∈ FieldKind.integerTypes ∧
        (Field.of name text bind bounds).integerType? = some type.name ∧
        (Field.of name text bind bounds).integerBounds? = bounds ∧
        ∀ statement ∈ boundStatements (Field.of name text bind bounds), ∃ side bound,
          statement = .refuse ⟨name, .ofType side type.name, side, bound⟩
            (boundMessage name side bound) ∧
          ∀ (pointer : PointerWidth) (value : type.Values pointer),
            (Comparison.mk name (.ofType side type.name) side bound).value? value
              = some (side.test value bound.toInt) := by
  refine ⟨fun _ _ => ofType_eq_of_prints, fun name text bind bounds hprints hkind => ?_⟩
  obtain ⟨-, segment, hsegment, hlast⟩ := (FieldKind.ofType_iff text).2.mp hkind
  rw [FieldKind.pathOf, String.toList_ofList, compact_of_prints hprints] at hlast
  obtain ⟨hne, hchars⟩ := chars_of_mem_integerTypes hsegment
  obtain ⟨last, hword, hends⟩ := exists_lastWord hapart hne hchars hlast
  have hcolon : ':' ∉ last.text := hword ▸ colon_not_mem_of_isIdentContinue hchars
  have htrim := trim_lastSegment_of_prints hcolon hends hprints
  rw [← map_name_primitives] at hsegment
  obtain ⟨type, -, rfl⟩ := List.mem_map.mp hsegment
  have htype : (Field.of name text bind bounds).integerType? = some type.name := by
    rw [Field.integerType?, hkind]
    show some (String.ofList (trim (lastSegment text.toList))) = _
    rw [htrim, hword, String.ofList_toList]
  refine ⟨type, last, hends.getLast?, hword, map_name_primitives ▸ hsegment, htype, ?_, ?_⟩
  · rw [Field.integerBounds?, hkind]
    rfl
  · intro statement hmem
    obtain ⟨side, bound, rfl⟩ := exists_of_mem_boundStatements hmem
    rw [htype]
    exact ⟨side, bound, rfl, fun pointer value => value?_ofType name side bound value⟩

/-- The tokens of `core::primitive::usize`. -/
def usizePath : List TypeToken :=
  [.word ⟨false, "core", by decide⟩, .colons, .word ⟨false, "primitive", by decide⟩, .colons,
    .word ⟨false, "usize", by decide⟩]

theorem prints_usizePath : Prints usizePath "core\t::  primitive ::usize ".toList := by
  have htext : "core\t::  primitive ::usize ".toList
      = [] ++ "core".toList ++ (['\t'] ++ [':', ':'] ++ ([' ', ' '] ++ "primitive".toList ++
        ([' '] ++ [':', ':'] ++ ([] ++ "usize".toList ++ [' '])))) := by
    decide
  rw [htext]
  exact .cons rfl (.cons rfl (.cons rfl (.cons rfl (.cons rfl (.nil rfl)))))

/-- A field with this type, and with a bound. -/
def usizeField : Field :=
  .of "n" "core\t::  primitive ::usize " none (some ⟨none, some 512, rfl⟩)

/-- Tabs and spaces in a path to a type do not hide the type. -/
theorem integerType?_of_prints_usize :
    WordsApart usizePath ∧ Prints usizePath usizeField.type.toList ∧
      usizeField.kind = .integer ∧ usizeField.integerType? = some "usize" ∧
      boundStatements usizeField ≠ [] := by
  have hapart : WordsApart usizePath := by
    unfold WordsApart
    decide
  have hkind : usizeField.kind = .integer := by decide +kernel
  obtain ⟨type, last, hlast, hword, -, htype, hbounds, -⟩ :=
    (integerType?_of_prints usizePath hapart).2 "n" "core\t::  primitive ::usize " none
      (some ⟨none, some 512, rfl⟩) prints_usizePath hkind
  obtain rfl : last = .word ⟨false, "usize", by decide⟩ := (Option.some.inj hlast).symm
  have hname : type.name = "usize" := String.toList_inj.mp hword.symm
  refine ⟨hapart, prints_usizePath, hkind, hname ▸ htype, ?_⟩
  have hchecked : usizeField.integerBounds? = some ⟨none, some 512, rfl⟩ := hbounds
  rw [boundStatements, hchecked]
  exact List.cons_ne_nil _ _

end TypeToken

end RequestBinding
