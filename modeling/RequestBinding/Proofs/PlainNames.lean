import RequestBinding.Proofs.FunctionNames
import RequestBinding.Proofs.IdentifierCase
import RequestBinding.Proofs.SingleWord
import RequestBinding.Proofs.SnakeCase
import RequestBinding.Proofs.SourceWalk

/-!
# Words of a source in generated names

Names travel from the words of a source into the functions that are generated: the modules and the
struct into the names of functions, the fields into keys and messages. They travel as they are
written. For plain words that is the name itself. A raw word is written with a marker that is no
part of its name, and the marker travels with it: functions named after one have no name that can be
read as an identifier, and a raw field is looked up with its marker.

## Main statements

* `readTokens_of_isIdent` — an identifier is read as one word.
* `isPlainName_append_suffix_iff` — the name of a function is an identifier if no word is raw.
* `eq_of_mem_spoken` — a field is called in keys and messages as it is declared.
* `generatedNames_iff` — both for every record of a source.
-/

namespace RequestBinding

namespace Source

open Text

/-! ## Characters of identifiers -/

theorem isIdentContinue_of_mem {cs : List Char} (h : isIdent cs = true) {c : Char} (hmem : c ∈ cs) :
    isIdentContinue c = true := by
  cases cs with
  | nil => cases hmem
  | cons d cs =>
    obtain ⟨hstart, hall⟩ := Bool.and_eq_true_iff.mp h
    rcases List.mem_cons.mp hmem with rfl | hmem
    · exact isIdentContinue_of_start hstart
    · exact List.all_eq_true.mp hall c hmem

/-- No character that ends an identifier is in one. -/
theorem not_mem_of_isIdent {cs : List Char} (h : isIdent cs = true) {c : Char}
    (hc : isIdentContinue c = false) : c ∉ cs := by
  intro hmem
  rw [isIdentContinue_of_mem h hmem] at hc
  cases hc

/-- No identifier starts with a digit. -/
theorem isAsciiDigit_of_isIdentStart {c : Char} (h : isIdentStart c = true) :
    isAsciiDigit c = false := by
  rw [Bool.eq_false_iff]
  intro hdigit
  obtain ⟨hlow, hhigh⟩ := Bool.and_eq_true_iff.mp hdigit
  have hall : ∀ n ∈ List.range 10, isIdentStart (Char.ofNat (48 + n)) = false := by decide
  have hnone : isIdentStart c = false := of_forall_code (P := fun d => isIdentStart d = false) 48 10
    hall (of_decide_eq_true hlow) (Nat.lt_succ_of_le (of_decide_eq_true hhigh))
  rw [hnone] at h
  cases h

/-! ## Texts of one plain word -/

/-- The text is that of one plain word, which is a name, and is read as nothing else. -/
def IsPlainName (text : String) : Prop :=
  ∃ (position : Position) (word : Word), readTokens text.toList = .ok [.word position word] ∧
    word.raw = false ∧ word.isName = true ∧ word.text = text

namespace Word

theorem isIdentContinue_of_mem_name {word : Word} {c : Char} (h : c ∈ word.name.toList) :
    isIdentContinue c = true :=
  isIdentContinue_of_mem word.isIdent h

theorem text_of_plain {word : Word} (h : word.raw = false) : word.text = word.name := by
  rw [text, h, if_neg Bool.false_ne_true]

/-- No name has a number sign in it; the text of a raw word has one. -/
theorem hash_mem_text_iff (word : Word) : '#' ∈ word.text.toList ↔ word.raw = true := by
  have hname : '#' ∉ word.name.toList := fun h => by
    have hcontinue := isIdentContinue_of_mem_name h
    revert hcontinue
    decide
  cases hraw : word.raw with
  | true => simp [text, hraw]
  | false => simp [text_of_plain hraw, hname]

/-- A word is written with its name alone if it is not raw. -/
theorem text_eq_name_iff (word : Word) : word.text = word.name ↔ word.raw = false := by
  refine ⟨fun h => ?_, text_of_plain⟩
  have hhash := hash_mem_text_iff word
  cases hraw : word.raw with
  | false => rfl
  | true =>
    rw [h, hraw] at hhash
    have hcontinue := isIdentContinue_of_mem_name (hhash.mpr rfl)
    revert hcontinue
    decide

theorem takeName_of_isIdent {cs : List Char} (h : Text.isIdent cs = true) :
    ∃ word : Word, takeName false cs = some (word, []) ∧ word.raw = false ∧
      word.text.toList = cs := by
  have htake : takeIdent cs = some (cs, []) := by
    cases cs with
    | nil => cases h
    | cons c cs =>
      obtain ⟨hstart, hall⟩ := Bool.and_eq_true_iff.mp h
      have hall : ∀ d ∈ cs, isIdentContinue d = true := List.all_eq_true.mp hall
      rw [takeIdent, if_pos hstart, List.takeWhile_eq_self_iff.mpr hall,
        List.dropWhile_eq_nil_iff.mpr hall]
  rw [takeName]
  split
  · next hnone =>
    rw [htake] at hnone
    cases hnone
  · next name rest hsome =>
    rw [htake] at hsome
    cases hsome
    exact ⟨_, rfl, rfl, by rw [text_of_plain rfl, String.toList_ofList]⟩

end Word

/-- The text starts with a word that is not raw: nothing that is looked for before words stands
there. -/
structure StartsPlain (cs : List Char) : Prop where
  spacing : Lexeme.takeSpacing cs = none
  delimiter : Lexeme.takeDelimiter cs = none
  literal : Lexeme.takeLiteral cs = none
  mark : Lexeme.takeMark cs = none
  string : (Lexeme.stringStarts.any fun start => start.toList.isPrefixOf cs) = false
  plain : Word.take cs = Word.takeName false cs
  unmarked : cs.head? ≠ some byteOrderMark

theorem takeGuarded_eq_none (content : Lexeme.Content) {cs : List Char} (h : '"' ∉ cs) :
    Lexeme.takeGuarded content cs = none := by
  unfold Lexeme.takeGuarded
  dsimp only
  split
  · next rest hdrop =>
    have hsuffix : '"' :: rest <:+ cs := hdrop ▸ List.dropWhile_suffix _
    exact absurd (hsuffix.subset List.mem_cons_self) h
  · rfl

/-- An identifier starts no literal: it has no quote in it and no digit at its start. -/
theorem takeLiteral_of_isIdent {cs : List Char} (h : isIdent cs = true) :
    Lexeme.takeLiteral cs = none := by
  have hquote : '"' ∉ cs := not_mem_of_isIdent h (by decide)
  have hapostrophe : '\'' ∉ cs := not_mem_of_isIdent h (by decide)
  have hguarded (content : Lexeme.Content) (start more : List Char) (hcs : cs = start ++ more) :
      Lexeme.takeGuarded content more = none :=
    takeGuarded_eq_none content fun hmem => hquote (hcs ▸ List.mem_append_right start hmem)
  have hstring : Lexeme.takeString cs = none := by
    unfold Lexeme.takeString
    split
    · simp at hquote
    · next more =>
      rw [hguarded .anything ['r'] more rfl]
      rfl
    · rfl
  have hbytes : Lexeme.takeByteString cs = none := by
    unfold Lexeme.takeByteString
    split
    · simp at hquote
    · next more =>
      rw [hguarded .bytes ['b', 'r'] more rfl]
      rfl
    · rfl
  have hnonzero : Lexeme.takeNonzeroString cs = none := by
    unfold Lexeme.takeNonzeroString
    split
    · simp at hquote
    · next more =>
      rw [hguarded .nonzero ['c', 'r'] more rfl]
      rfl
    · rfl
  have hcharacter : Lexeme.takeCharacter cs = none := by
    unfold Lexeme.takeCharacter
    split
    · simp at hapostrophe
    · simp at hapostrophe
    · rfl
  have hdigit : ∀ c ∈ cs.head?, isAsciiDigit c = false := by
    intro c hc
    obtain ⟨more, rfl⟩ := List.head?_eq_some_iff.mp hc
    exact isAsciiDigit_of_isIdentStart (Bool.and_eq_true_iff.mp h).1
  have hfloat : Lexeme.takeFloat cs = none := by
    unfold Lexeme.takeFloat
    split
    · rfl
    · next c more => rw [if_pos (by simp [hdigit c rfl])]
  have hinteger : Lexeme.takeInteger cs = none := by
    unfold Lexeme.takeInteger
    split
    · exact absurd (hdigit '0' rfl) (by decide)
    · exact absurd (hdigit '0' rfl) (by decide)
    · exact absurd (hdigit '0' rfl) (by decide)
    · next c more _ _ _ => rw [if_neg (by simp [hdigit c rfl])]
    · rfl
  simp [Lexeme.takeLiteral, hstring, hbytes, hnonzero, hcharacter, hfloat, hinteger]

/-- Nothing that is looked for before words stands at the start of an identifier. -/
theorem startsPlain_of_isIdent {cs : List Char} (h : isIdent cs = true) : StartsPlain cs := by
  have hnot {c : Char} (hc : isIdentContinue c = false) : c ∉ cs := not_mem_of_isIdent h hc
  cases cs with
  | nil => cases h
  | cons c cs =>
    have hcontinue : isIdentContinue c = true := isIdentContinue_of_mem h List.mem_cons_self
    have hslash : c ≠ '/' := by
      rintro rfl
      exact absurd hcontinue (by decide)
    constructor
    · have hspace : Lexeme.isSpace c = false := by
        rw [Bool.eq_false_iff]
        intro hspace
        rw [(isIdent_of_isSpace hspace).2] at hcontinue
        cases hcontinue
      have hcomment : Lexeme.takeComment (c :: cs) = none := by
        unfold Lexeme.takeComment
        split <;> simp_all
      have hdocumentation : Lexeme.takeDocumentation (c :: cs) = none := by
        unfold Lexeme.takeDocumentation
        dsimp only
        split <;> simp_all
      rw [Lexeme.takeSpacing, Lexeme.takeBlank, if_neg (by simp [hspace]), hcomment, hdocumentation]
      rfl
    · have hopening : Delimiter.ofOpening? c = none := by
        unfold Delimiter.ofOpening?
        split <;> first | rfl | exact absurd hcontinue (by decide)
      have hclosing : Delimiter.ofClosing? c = none := by
        unfold Delimiter.ofClosing?
        split <;> first | rfl | exact absurd hcontinue (by decide)
      rw [Lexeme.takeDelimiter, hopening, hclosing]
      exact ite_self none
    · exact takeLiteral_of_isIdent h
    · have hmark : Lexeme.markAt? (c :: cs) = none := by
        have hpunctuation : punctuation.all (fun d => !isIdentContinue d) = true := by decide +kernel
        unfold Lexeme.markAt?
        split
        · rfl
        · rfl
        · next d more _ _ hcs =>
          obtain ⟨rfl, rfl⟩ := List.cons.inj hcs
          refine dif_neg fun hmem => hnot ?_ List.mem_cons_self
          simpa using List.all_eq_true.mp hpunctuation c hmem
        · rfl
      rw [Lexeme.takeMark, hmark]
    · have hstarts : (Lexeme.stringStarts.all fun start =>
          start.toList.any fun d => !isIdentContinue d) = true := by
        decide +kernel
      rw [List.any_eq_false]
      intro start hmem hprefix
      obtain ⟨d, hd, hnone⟩ := List.any_eq_true.mp (List.all_eq_true.mp hstarts start hmem)
      exact hnot (by simpa using hnone) ((List.isPrefixOf_iff_prefix.mp hprefix).subset hd)
    · unfold Word.take
      split
      · next more hcs =>
        have hhash : '#' ∈ c :: cs := by simp [hcs]
        exact absurd hhash (hnot (by decide))
      · rfl
    · intro hhead
      obtain rfl : c = byteOrderMark := Option.some.inj hhead
      revert hcontinue
      decide +kernel

theorem read_of_isIdent {cs : List Char} (h : isIdent cs = true) :
    ∃ word : Word, Lexeme.read cs = some (.word word, cs) ∧ word.raw = false ∧
      word.text.toList = cs := by
  have hstart := startsPlain_of_isIdent h
  obtain ⟨word, htake, hraw, htext⟩ := Word.takeName_of_isIdent h
  refine ⟨word, ?_, hraw, htext⟩
  rw [Lexeme.read, hstart.spacing, hstart.delimiter, Lexeme.takeLeaf, hstart.literal, hstart.mark,
    hstart.string, hstart.plain, htake]
  simp [htext]

/-- An identifier is read as one word. -/
theorem readTokens_of_isIdent {cs : List Char} (h : isIdent cs = true) :
    ∃ (position : Position) (word : Word), readTokens cs = .ok [.word position word] ∧
      word.raw = false ∧ word.text.toList = cs := by
  obtain ⟨word, hread, hraw, htext⟩ := read_of_isIdent h
  obtain ⟨position, hrun⟩ := readTokens_eq cs
  refine ⟨position, word, ?_, hraw, htext⟩
  rw [hrun, afterMark, if_neg (startsPlain_of_isIdent h).unmarked]
  cases cs with
  | nil => cases h
  | cons c cs =>
    have hdrop : cs.drop ((c :: cs).length - 1) = [] := by simp
    rw [Reading.run, hread]
    show Reading.run _ (cs.drop ((c :: cs).length - 1)) = _
    rw [hdrop, Reading.run]
    rfl

theorem hash_not_mem_of_isPlainName {text : String} (h : IsPlainName text) : '#' ∉ text.toList := by
  obtain ⟨-, word, -, hraw, -, rfl⟩ := h
  rw [Word.hash_mem_text_iff, hraw]
  decide

end Source

namespace Source

/-- The words of a struct's path: those of the modules around it, outermost first, and its own. -/
def NestedStruct.path (struct : NestedStruct) : List Word :=
  struct.enclosing.filterMap (fun
    | .module _ name => some name
    | .block => none) ++ [struct.name]

theorem NestedStruct.map_text_path (struct : NestedStruct) :
    struct.path.map Word.text = struct.modulePath ++ [struct.name.text] := by
  rw [path, List.map_append, List.map_filterMap, modulePath]
  congr 2
  funext enclosure
  cases enclosure <;> rfl

end Source

namespace Function

open Source Extraction

/-! ## Names of functions -/

theorem mem_intercalate_of_mem {c : Char} {text separator : List Char} {texts : List (List Char)}
    (htext : text ∈ texts) (h : c ∈ text) : c ∈ separator.intercalate texts := by
  induction texts with
  | nil => cases htext
  | cons first more ih =>
    cases more with
    | nil =>
      rw [List.intercalate_singleton, ← List.mem_singleton.mp htext]
      exact h
    | cons next more =>
      rw [List.intercalate_cons_cons]
      rcases List.mem_cons.mp htext with rfl | htext
      · exact List.mem_append_left _ (List.mem_append_left _ h)
      · exact List.mem_append_right _ (ih htext)

section

variable {struct : NestedStruct} {record : Record} (hrecord : IsRecordOf struct record)

include hrecord

/-- The name of a function holds the words of the path in snake case. -/
theorem toList_suffix_of_isRecordOf : (suffix record).toList =
    ['_'].intercalate (struct.path.map fun word => Text.snake word.text.toList) := by
  rw [toList_suffix, hrecord.modulePath, hrecord.name, ← struct.map_text_path, List.map_map]
  rfl

theorem hash_mem_suffix {word : Word} (hword : word ∈ struct.path) (hraw : word.raw = true) :
    '#' ∈ (suffix record).toList := by
  rw [toList_suffix_of_isRecordOf hrecord]
  exact mem_intercalate_of_mem (List.mem_map_of_mem hword)
    (Text.hash_mem_snakeFrom ((Word.hash_mem_text_iff word).mpr hraw))

theorem isIdentContinue_of_mem_suffix (hplain : ∀ word ∈ struct.path, word.raw = false) {c : Char}
    (hc : c ∈ (suffix record).toList) : Text.isIdentContinue c = true := by
  rw [toList_suffix_of_isRecordOf hrecord] at hc
  rcases mem_of_mem_intercalate hc with hc | ⟨text, htext, hc⟩
  · rw [List.mem_singleton.mp hc]
    decide
  · obtain ⟨word, hword, rfl⟩ := List.mem_map.mp htext
    refine Text.isIdentContinue_of_mem_snakeFrom (fun d hd => ?_) c hc
    rw [Word.text_of_plain (hplain word hword)] at hd
    exact Word.isIdentContinue_of_mem_name hd

/-- The name of a function is an identifier exactly if no word of the path is raw. -/
theorem isPlainName_append_suffix_iff {start : String} (hident : Text.isIdent start.toList = true)
    (hkeyword : ∀ keyword ∈ Word.keywords, ¬start.toList <+: keyword.toList) :
    IsPlainName (start ++ suffix record) ↔ ∀ word ∈ struct.path, word.raw = false := by
  have htext : (start ++ suffix record).toList = start.toList ++ (suffix record).toList :=
    String.toList_append
  constructor
  · intro hname word hword
    refine Bool.eq_false_iff.mpr fun hraw => hash_not_mem_of_isPlainName hname ?_
    rw [htext]
    exact List.mem_append_right _ (hash_mem_suffix hrecord hword hraw)
  · intro hplain
    have hsuffix : ∀ c ∈ (suffix record).toList, Text.isIdentContinue c = true :=
      fun c hc => isIdentContinue_of_mem_suffix hrecord hplain hc
    have hall : Text.isIdent (start.toList ++ (suffix record).toList) = true := by
      cases hlist : start.toList with
      | nil =>
        rw [hlist] at hident
        cases hident
      | cons c cs =>
        rw [hlist] at hident
        obtain ⟨hfirst, hrest⟩ := Bool.and_eq_true_iff.mp hident
        show (Text.isIdentStart c && (cs ++ (suffix record).toList).all Text.isIdentContinue) = true
        rw [hfirst, List.all_append, hrest, List.all_eq_true.mpr hsuffix]
        rfl
    obtain ⟨position, word, htokens, hraw, hword⟩ := readTokens_of_isIdent hall
    have hsame : word.text = start ++ suffix record :=
      String.toList_injective (hword.trans htext.symm)
    refine ⟨position, word, by rw [htext]; exact htokens, hraw, ?_, hsame⟩
    have hnot : word.name ∉ Word.keywords := fun hmem => by
      refine hkeyword _ hmem ⟨(suffix record).toList, ?_⟩
      rw [← htext, ← hsame, Word.text_of_plain hraw]
    simp [Word.isName, hraw, hnot]

theorem isPlainName_bindName_iff :
    IsPlainName (bindName record) ↔ ∀ word ∈ struct.path, word.raw = false :=
  isPlainName_append_suffix_iff hrecord (by decide) (by decide)

theorem isPlainName_validateName_iff :
    IsPlainName (validateName record) ↔ ∀ word ∈ struct.path, word.raw = false :=
  isPlainName_append_suffix_iff hrecord (by decide) (by decide)

end

/-! ## Names of fields -/

/-- What stands in a message before its first space. -/
def firstWord (message : String) : String :=
  String.ofList (message.toList.takeWhile (· != ' '))

/-- What a statement calls its field in keys and at the start of messages. -/
def Statement.spoken : Statement → List String
  | .store _ lookup => [lookup.key]
  | .fetch lookup => [lookup.key]
  | .demand _ message => [firstWord message]
  | .convert _ key => [key]
  | .convertPresent _ key => [key]
  | .remark _ => []
  | .refuse _ message => [firstWord message]

section

variable {name : String} (hname : ' ' ∉ name.toList)

include hname

theorem firstWord_append {more : String} (hmore : more.toList.head? = some ' ') :
    firstWord (name ++ more) = name := by
  obtain ⟨cs, hcs⟩ := List.head?_eq_some_iff.mp hmore
  have hall : ∀ c ∈ name.toList, (c != ' ') = true := fun c hc => by
    simpa using ne_of_mem_of_not_mem hc hname
  rw [firstWord, String.toList_append, hcs, List.takeWhile_append_of_pos hall]
  simp

theorem firstWord_requiredMessage : firstWord (requiredMessage name) = name :=
  firstWord_append hname rfl

theorem firstWord_boundMessage (side : Side) (bound : Int64) :
    firstWord (boundMessage name side bound) = name := by
  simp only [boundMessage, String.append_assoc]
  exact firstWord_append hname (by simp)

end

section

variable {field : Field} (hname : ' ' ∉ field.name.toList)

include hname

theorem eq_of_mem_spoken_readStatements {statement : Statement}
    (hstatement : statement ∈ readStatements field) :
    ∀ name ∈ statement.spoken, name = field.name := by
  have hmessage := firstWord_requiredMessage hname
  unfold readStatements at hstatement
  cases hbind : field.bind with
  | none => simp [hbind] at hstatement
  | some bind =>
    cases hkind : field.kind with
    | string =>
      cases hrequired : bind.required <;> simp [hbind, hkind, hrequired] at hstatement
      · simp [hstatement, Statement.spoken]
      · rcases hstatement with rfl | rfl <;> simp [Statement.spoken, hmessage]
    | integer =>
      cases hrequired : bind.required <;> simp [hbind, hkind, hrequired] at hstatement
      · rcases hstatement with rfl | rfl <;> simp [Statement.spoken]
      · rcases hstatement with rfl | rfl | rfl <;> simp [Statement.spoken, hmessage]
    | other =>
      simp [hbind, hkind] at hstatement
      simp [hstatement, Statement.spoken]

theorem eq_of_mem_spoken_boundStatements {statement : Statement}
    (hstatement : statement ∈ boundStatements field) :
    ∀ name ∈ statement.spoken, name = field.name := by
  have hside {side : Side} {bound : Option Int64}
      (h : statement ∈ sideStatements field side bound) :
      ∀ name ∈ statement.spoken, name = field.name := by
    cases bound with
    | none => cases h
    | some n =>
      rw [List.mem_singleton.mp h]
      simp [Statement.spoken, firstWord_boundMessage hname]
  unfold boundStatements at hstatement
  split at hstatement
  · cases hstatement
  · rcases List.mem_append.mp hstatement with h | h
    · exact hside h
    · exact hside h

end

theorem space_not_mem_text (word : Word) : ' ' ∉ word.text.toList := fun h => by
  rcases Word.mem_text h with h | h | h <;> revert h <;> decide

/-- A field that is filled is called by its name in a statement. -/
theorem exists_mem_spoken {field : Field} (hbind : field.bind.isSome = true)
    (hkind : field.kind ≠ .other) :
    ∃ statement ∈ readStatements field, field.name ∈ statement.spoken := by
  obtain ⟨bind, hbind⟩ := Option.isSome_iff_exists.mp hbind
  cases hkind' : field.kind with
  | string =>
    exact ⟨.store field.name ⟨bind.source, field.name⟩, by simp [readStatements, hbind, hkind'],
      List.mem_singleton_self _⟩
  | integer =>
    exact ⟨.fetch ⟨bind.source, field.name⟩, by simp [readStatements, hbind, hkind'],
      List.mem_singleton_self _⟩
  | other => exact absurd hkind' hkind

/-! ## Names in the functions of a source -/

/-- **Words of a source are written into generated functions as they are written there.** The names
of a record's functions are identifiers exactly if none of the modules around it and not its own
name is written raw. In keys and messages a field is called as it is declared, which is its name
exactly if it is not written raw. -/
theorem generatedNames_iff {attr text : String} {found : List Record}
    (h : (Extraction.records attr text).1 = .ok found) {record : Record}
    (hrecord : record ∈ found) :
    ∃ all, declarations text = .ok all ∧ ∃ struct ∈ examined all, IsRecordOf struct record ∧
      (IsPlainName (bindName record) ↔ ∀ word ∈ struct.path, word.raw = false) ∧
      (IsPlainName (validateName record) ↔ ∀ word ∈ struct.path, word.raw = false) ∧
      ∀ field ∈ record.fields, ∃ declared ∈ struct.fields,
        field = Field.of declared.name.text (printTokens declared.type) field.bind field.bounds ∧
        (∀ statement ∈ readStatements field ++ boundStatements field,
          ∀ name ∈ statement.spoken, name = declared.name.text) ∧
        (field.bind.isSome = true → field.kind ≠ .other →
          ∃ statement ∈ readStatements field, declared.name.text ∈ statement.spoken) ∧
        (declared.name.text = declared.name.name ↔ declared.name.raw = false) := by
  obtain ⟨all, hall, struct, hstruct, hof⟩ := exists_isRecordOf h hrecord
  refine ⟨all, hall, struct, hstruct, hof, isPlainName_bindName_iff hof,
    isPlainName_validateName_iff hof, fun field hfield => ?_⟩
  obtain ⟨declared, hdeclared, hfieldOf⟩ := hof.fields field hfield
  have hname : field.name = declared.name.text := congrArg Field.name hfieldOf
  have hspace : ' ' ∉ field.name.toList := hname ▸ space_not_mem_text declared.name
  refine ⟨declared, hdeclared, hfieldOf, fun statement hstatement name hspoken => ?_,
    fun hbind hkind => hname ▸ exists_mem_spoken hbind hkind, Word.text_eq_name_iff _⟩
  rw [← hname]
  rcases List.mem_append.mp hstatement with hstatement | hstatement
  · exact eq_of_mem_spoken_readStatements hspace hstatement name hspoken
  · exact eq_of_mem_spoken_boundStatements hspace hstatement name hspoken

namespace Example

/-- A source in which no word is raw. -/
def plainSource : String :=
  "mod api \x7b struct Login \x7b #[tag = \"bind:\\\"query,required\\\"\"] name: String \x7d \x7d"

/-- The same with keywords for the module and the field, which are raw therefore. -/
def rawSource : String :=
  "mod r#async \x7b struct Item \x7b #[tag = \"bind:\\\"query,required\\\"\"] r#type: String "
    ++ "\x7d \x7d"

/-- A record with a text that is required. -/
def textRecord (module name field : String) : Record :=
  ⟨name, [module], [.of field "String" (some ⟨.query, true⟩) none]⟩

theorem records_plainSource :
    (Extraction.records "tag" plainSource).1 = .ok [textRecord "api" "Login" "name"] :=
  eq_ok_of_toOption (by decide +kernel)

theorem records_rawSource :
    (Extraction.records "tag" rawSource).1 = .ok [textRecord "r#async" "Item" "r#type"] :=
  eq_ok_of_toOption (by decide +kernel)

end Example

/-- The names in the functions of a record without raw words. -/
theorem generatedNames_iff_plain :
    ∃ all, declarations Example.plainSource = .ok all ∧
      ∃ struct ∈ examined all, IsRecordOf struct (Example.textRecord "api" "Login" "name") ∧
        (∀ word ∈ struct.path, word.raw = false) ∧
        IsPlainName (bindName (Example.textRecord "api" "Login" "name")) ∧
        IsPlainName (validateName (Example.textRecord "api" "Login" "name")) := by
  obtain ⟨all, hall, struct, hstruct, hof, hbind, hvalidate, -⟩ :=
    generatedNames_iff Example.records_plainSource List.mem_cons_self
  have hplain : ∀ word ∈ struct.path, word.raw = false := by
    have htexts := struct.map_text_path
    rw [← hof.modulePath, ← hof.name] at htexts
    intro word hword
    have hmem : word.text ∈ struct.path.map Word.text := List.mem_map_of_mem hword
    rw [htexts] at hmem
    refine Bool.eq_false_iff.mpr fun hraw => ?_
    have hhash := (Word.hash_mem_text_iff word).mpr hraw
    have hnone : ∀ text ∈ ["api", "Login"], '#' ∉ text.toList := by decide
    exact hnone _ hmem hhash
  exact ⟨all, hall, struct, hstruct, hof, hplain, hbind.mpr hplain, hvalidate.mpr hplain⟩

/-- A raw module makes the names of functions no identifiers, and a raw field is looked up and
reported with its marker. -/
theorem generatedNames_raw :
    ∃ record, (Extraction.records "tag" Example.rawSource).1 = .ok [record] ∧
      bindName record = "bind_r#async_item" ∧ ¬IsPlainName (bindName record) ∧
      validateName record = "validate_r#async_item" ∧ ¬IsPlainName (validateName record) ∧
      bodyText (bindBody record) = endLines [
        "    s.r#type = query_value(req, \"r#type\");",
        "    if s.r#type.is_empty() \x7b",
        "        return Err(\"r#type is required\".to_string());",
        "    \x7d",
        "    Ok(())"] := by
  have hbind : bindName (Example.textRecord "r#async" "Item" "r#type") = "bind_r#async_item" := by
    decide +kernel
  have hvalidate : validateName (Example.textRecord "r#async" "Item" "r#type") =
      "validate_r#async_item" := by decide +kernel
  refine ⟨_, Example.records_rawSource, hbind, fun h => ?_, hvalidate, fun h => ?_,
    by decide +kernel⟩
  · have hhash := hash_not_mem_of_isPlainName (hbind ▸ h)
    revert hhash
    decide
  · have hhash := hash_not_mem_of_isPlainName (hvalidate ▸ h)
    revert hhash
    decide

end Function

end RequestBinding
