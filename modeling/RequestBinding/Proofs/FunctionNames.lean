import RequestBinding.BindingsModule
import RequestBinding.Proofs.BindMeaning
import RequestBinding.Proofs.PathNames
import RequestBinding.Proofs.SnakeCase
import Mathlib.Data.List.Nodup

/-!
# The functions of a module

Which functions a module defines, read from the lines of its text, and when one is defined twice.
The names of a record's functions are the segments of its path in snake case, joined by underscores.
An underscore in a segment looks like one between segments, so what a name tells of the path is the
sequence of all words in it: `a_b::C` and `a::b::C` have the same words, and so the same functions.

## Main statements

* `suffix_eq_iff` — the names of functions are as different as the words in the paths.
* `definedNames_text` — the functions that a module defines.
* `definedNames_nodup_iff` — when a module defines no function twice.
-/

namespace RequestBinding

namespace Text

/-! ## Words -/

/-- The words of a name. -/
def words (name : String) : List (List Char) := pieces '_' (snake name.toList)

end Text

namespace Function

open Source

/-! ## Names of functions -/

/-- The words in the path of the modules. -/
def moduleWords (record : Record) : List (List Char) := record.modulePath.flatMap Text.words

/-- The words in the path of a record. -/
def pathWords (record : Record) : List (List Char) := moduleWords record ++ Text.words record.name

theorem toList_suffix (record : Record) :
    (suffix record).toList = ['_'].intercalate
      ((record.modulePath ++ [record.name]).map fun segment => Text.snake segment.toList) := by
  have hsnake : String.toList ∘ Text.toSnakeCase = fun segment => Text.snake segment.toList :=
    funext fun _ => String.toList_ofList
  rw [suffix, String.toList_intercalate, List.map_map, hsnake]
  rfl

/-- The words of a function's name are those of the record's path. -/
theorem pieces_suffix (record : Record) :
    Text.pieces '_' (suffix record).toList = pathWords record := by
  rw [toList_suffix, Text.pieces_intercalate (by simp), List.flatMap_map, List.flatMap_append,
    List.flatMap_singleton]
  rfl

variable {a b : Record}

/-- **Functions have the same name exactly if the paths of their records have the same words.** -/
theorem suffix_eq_iff : suffix a = suffix b ↔ pathWords a = pathWords b := by
  rw [← pieces_suffix, ← pieces_suffix, Text.pieces_inj, String.toList_inj]

theorem bindName_eq_iff : bindName a = bindName b ↔ pathWords a = pathWords b := by
  rw [bindName, bindName, String.append_right_inj, suffix_eq_iff]

theorem validateName_eq_iff : validateName a = validateName b ↔ pathWords a = pathWords b := by
  rw [validateName, validateName, String.append_right_inj, suffix_eq_iff]

theorem bindName_ne_validateName : bindName a ≠ validateName b := by
  intro h
  have hhead := congrArg (·.toList.head?) h
  simp [bindName, validateName] at hhead

/-- The functions of a record. -/
def functionNames (record : Record) : List String := [bindName record, validateName record]

theorem disjoint_functionNames :
    List.Disjoint (functionNames a) (functionNames b) ↔ pathWords a ≠ pathWords b := by
  have hother : validateName b ≠ bindName a := fun h => bindName_ne_validateName h.symm
  simp [functionNames, bindName_eq_iff, validateName_eq_iff, bindName_ne_validateName, hother,
    eq_comm]

/-- The helpers that every module defines. -/
def helperNames : List String := ["header_value", "query_value", "path_value", "parse_integer"]

theorem not_mem_of_mem_helperNames {name : String} (h : name ∈ helperNames) :
    name ∉ functionNames a := by
  intro hfunction
  have hhead : ∀ helper ∈ helperNames, helper.toList.head? ≠ some 'b' ∧
      helper.toList.head? ≠ some 'v' := by decide
  obtain rfl | rfl : name = bindName a ∨ name = validateName a := by
    simpa [functionNames] using hfunction
  · exact (hhead _ h).1 (by simp [bindName])
  · exact (hhead _ h).2 (by simp [validateName])

/-- No function of the records or helper is named twice exactly if no words are. -/
theorem nodup_names_iff {records : List Record} :
    (records.flatMap functionNames ++ helperNames).Nodup ↔ (records.map pathWords).Nodup := by
  have hself : ∀ record ∈ records, (functionNames record).Nodup := by
    intro record _
    simp [functionNames, bindName_ne_validateName]
  have hhelpers : List.Disjoint (records.flatMap functionNames) helperNames := by
    intro name hname hhelper
    obtain ⟨record, -, hname⟩ := List.mem_flatMap.mp hname
    exact not_mem_of_mem_helperNames hhelper hname
  have hwords : (records.map pathWords).Nodup ↔
      records.Pairwise fun a b => pathWords a ≠ pathWords b := List.pairwise_map
  rw [List.nodup_append', List.nodup_flatMap, hwords]
  constructor
  · rintro ⟨⟨-, hpairs⟩, -, -⟩
    exact hpairs.imp disjoint_functionNames.mp
  · intro hpairs
    exact ⟨⟨hself, hpairs.imp disjoint_functionNames.mpr⟩, by decide, hhelpers⟩

/-! ## Definitions in a text -/

/-- The name after the start of a definition, up to the type variable or the arguments. -/
def nameAt? (cs : List Char) : Option String :=
  ((after? "pub fn " cs).or (after? "fn " cs)).map fun rest =>
    String.ofList (rest.takeWhile fun c => c != '<' && c != '(')

/-- The name of the function whose definition starts on a line. What is indented starts none. -/
def definedName? (line : String) : Option String := nameAt? line.toList

/-- The names of the functions that a text defines, line by line. -/
def definedNames (text : String) : List String :=
  ((Text.pieces '\n' text.toList).map String.ofList).filterMap definedName?

theorem definedNames_endLines {lines : List String} (h : ∀ line ∈ lines, IsOneLine line) :
    definedNames (endLines lines) = lines.filterMap definedName? := by
  rw [definedNames, pieces_endLines h, List.map_append, List.filterMap_append, List.map_map]
  have hid : String.ofList ∘ String.toList = id := funext fun _ => String.ofList_toList
  rw [hid, List.map_id]
  exact List.append_nil _

/-- What starts like no definition is none. -/
theorem definedName?_of_apart {start : String} (hpub : apart "pub fn " start = true)
    (hfn : apart "fn " start = true) (more : String) : definedName? (start ++ more) = none := by
  rw [definedName?, nameAt?, String.toList_append, after?_of_apart hpub, after?_of_apart hfn]
  rfl

theorem definedName?_indented (more : String) : definedName? (Statement.indent ++ more) = none :=
  definedName?_of_apart (by decide) (by decide) more

/-- A definition is recognized by its name, which ends before the type variable or the arguments. -/
theorem definedName?_head {name : String} (hangle : '<' ∉ name.toList) (hround : '(' ∉ name.toList)
    {rest : String} (hrest : rest.toList.head?.any (fun c => c == '<' || c == '(') = true) :
    definedName? ("pub fn " ++ name ++ rest) = some name := by
  have hname : ∀ c ∈ name.toList, (c != '<' && c != '(') = true := by
    intro c hc
    have hc1 := ne_of_mem_of_not_mem hc hangle
    have hc2 := ne_of_mem_of_not_mem hc hround
    simp [hc1, hc2]
  have hstop : rest.toList.takeWhile (fun c => c != '<' && c != '(') = [] := by
    cases hlist : rest.toList with
    | nil => rfl
    | cons c cs =>
      rw [hlist] at hrest
      rcases Bool.or_eq_true_iff.mp hrest with hc | hc
      · simp [beq_iff_eq.mp hc]
      · simp [beq_iff_eq.mp hc]
  rw [definedName?, nameAt?, String.append_assoc, String.toList_append, after?_append,
    Option.some_or, Option.map_some, String.toList_append, List.takeWhile_append_of_pos hname,
    hstop, List.append_nil, String.ofList_toList]

/-! ## Lines of a module -/

/-- The lines of a function: those of its head, of its body and the last one. -/
def functionLines (head : List String) (body : List Statement) : List String :=
  head ++ (body.flatMap Statement.lines ++ [answerLine]) ++ ["\x7d"]

/-- The lines of the bind function up to its body. -/
def bindHeadLines (record : Record) : List String := [
  "pub fn " ++ bindName record ++ "<B>(",
  Statement.indent ++ "req: &Request<B>,",
  Statement.indent ++ "path_params: &HashMap<String, String>,",
  Statement.indent ++ "s: &mut " ++ record.typePath ++ ",",
  ") -> Result<(), String> \x7b"]

/-- The lines of the validate function up to its body. -/
def validateHeadLines (record : Record) : List String := [
  "pub fn " ++ validateName record ++ "(s: &" ++ record.typePath ++ ") -> Result<(), String> \x7b"]

/-- The lines of a record. -/
def definitionLines (record : Record) : List String :=
  "" :: functionLines (bindHeadLines record) (bindBody record)
    ++ "" :: functionLines (validateHeadLines record) (validateBody record)

theorem bindText_eq (record : Record) :
    bindText record = endLines (functionLines (bindHeadLines record) (bindBody record)) := by
  rw [functionLines, endLines_append, endLines_append]
  rfl

theorem validateText_eq (record : Record) :
    validateText record
      = endLines (functionLines (validateHeadLines record) (validateBody record)) := by
  rw [functionLines, endLines_append, endLines_append]
  rfl

/-- Trimming a function drops its last line end, which stands for the one after it. -/
theorem trimmed_functionLines {first : String} {more : List String}
    (hfirst : "pub fn ".toList <+: first.toList) (body : List Statement) :
    Text.trimmed (endLines (functionLines (first :: more) body)) ++ "\n"
      = endLines (functionLines (first :: more) body) := by
  obtain ⟨cs, hcs⟩ := hfirst
  obtain ⟨inner, hlist⟩ : ∃ inner, (endLines (functionLines (first :: more) body)).toList
      = ('p' :: (inner ++ ['\x7d'])) ++ ['\n'] := by
    refine ⟨"ub fn ".toList ++ cs ++ '\n' :: (endLines (more ++
      (body.flatMap Statement.lines ++ [answerLine]))).toList, ?_⟩
    simp [functionLines, toList_endLines, ← hcs]
  -- Neither the first letter nor the closing brace is trimmed.
  have hcore : Text.trim ('p' :: (inner ++ ['\x7d'])) = 'p' :: (inner ++ ['\x7d']) := by
    have hstart : Text.isBlank 'p' = false := by decide
    have hend : Text.isBlank '\x7d' = false := by decide
    simp [Text.trim, Text.trimStart, Text.trimEnd, hstart, hend]
  refine String.toList_injective ?_
  rw [String.toList_append, Text.trimmed, String.toList_ofList, hlist,
    Text.trim_append_blank (by decide), hcore]
  rfl

theorem trimmed_bindText (record : Record) :
    Text.trimmed (bindText record) ++ "\n" = bindText record := by
  rw [bindText_eq]
  exact trimmed_functionLines (by simp [String.append_assoc]) _

theorem trimmed_validateText (record : Record) :
    Text.trimmed (validateText record) ++ "\n" = validateText record := by
  rw [validateText_eq]
  exact trimmed_functionLines (by simp [String.append_assoc]) _

theorem endLines_recordLines (record : Record) :
    endLines (BindingsModule.recordLines record) = endLines (definitionLines record) := by
  have hlines : endLines (BindingsModule.recordLines record)
      = "\n" ++ ((Text.trimmed (bindText record) ++ "\n")
        ++ ("\n" ++ (Text.trimmed (validateText record) ++ "\n"))) := by
    simp [BindingsModule.recordLines, endLines, String.join_cons, String.append_assoc]
  have hdefinitions : endLines (definitionLines record)
      = "\n" ++ (bindText record ++ ("\n" ++ validateText record)) := by
    rw [bindText_eq, validateText_eq, definitionLines, endLines_append]
    simp [endLines, String.join_cons, String.append_assoc]
  rw [hlines, trimmed_bindText, trimmed_validateText, hdefinitions]

/-- The text of a module, line by line. -/
theorem text_eq (target : String) (records : List Record) :
    BindingsModule.text target records = endLines (BindingsModule.headerLines target
      ++ records.flatMap definitionLines ++ BindingsModule.helperLines) := by
  have hrecords : endLines (records.flatMap BindingsModule.recordLines)
      = endLines (records.flatMap definitionLines) := by
    induction records with
    | nil => rw [List.flatMap_nil, List.flatMap_nil]
    | cons record more ih =>
      rw [List.flatMap_cons, List.flatMap_cons, endLines_append, endLines_append,
        endLines_recordLines, ih]
  rw [BindingsModule.text, endLines_append, endLines_append, hrecords, endLines_append,
    endLines_append]

/-! ## Names and lines -/

/-- The record is as a source gives it, with words for its name and its modules. -/
structure IsNamed (record : Record) : Prop extends IsWritten record where
  name : IsFieldName record.name
  modules : ∀ segment ∈ record.modulePath, IsFieldName segment

/-- A line break, or what ends a name where its function is defined. -/
def isNameEnd (c : Char) : Bool := c == '\n' || c == '<' || c == '('

theorem mem_of_mem_intercalate {c : Char} {separator : List Char} {texts : List (List Char)}
    (h : c ∈ separator.intercalate texts) : c ∈ separator ∨ ∃ text ∈ texts, c ∈ text := by
  induction texts with
  | nil => cases h
  | cons text more ih =>
    cases more with
    | nil =>
      rw [List.intercalate_singleton] at h
      exact .inr ⟨text, List.mem_cons_self, h⟩
    | cons next more =>
      rw [List.intercalate_cons_cons] at h
      rcases List.mem_append.mp h with h | h
      · rcases List.mem_append.mp h with h | h
        · exact .inr ⟨text, List.mem_cons_self, h⟩
        · exact .inl h
      · rcases ih h with h | ⟨found, hfound, h⟩
        · exact .inl h
        · exact .inr ⟨found, List.mem_cons_of_mem _ hfound, h⟩

theorem not_mem_of_isNameEnd {name : String} (h : IsFieldName name) {c : Char}
    (hc : isNameEnd c = true) : c ∉ name.toList := by
  obtain ⟨word, hword⟩ := h
  rw [Word.text_of_take hword, List.append_nil]
  intro hm
  obtain (rfl | rfl) | rfl : (c = '\n' ∨ c = '<') ∨ c = '(' := by simpa [isNameEnd] using hc
  all_goals rcases Word.mem_text hm with h | h | h <;> revert h <;> decide

section

variable {record : Record} (hrecord : IsNamed record)

include hrecord

theorem not_mem_suffix {c : Char} (hc : isNameEnd c = true) : c ∉ (suffix record).toList := by
  have hbound : c.toNat ≠ 0 ∧ c.toNat ≤ 64 ∧ c ≠ '_' := by
    obtain (rfl | rfl) | rfl : (c = '\n' ∨ c = '<') ∨ c = '(' := by simpa [isNameEnd] using hc
    all_goals decide
  intro h
  rw [toList_suffix] at h
  rcases mem_of_mem_intercalate h with h | ⟨text, htext, h⟩
  · exact hbound.2.2 (List.mem_singleton.mp h)
  · obtain ⟨segment, hsegment, rfl⟩ := List.mem_map.mp htext
    have hword : IsFieldName segment := by
      rcases List.mem_append.mp hsegment with hsegment | hsegment
      · exact hrecord.modules segment hsegment
      · rw [List.mem_singleton.mp hsegment]
        exact hrecord.name
    exact not_mem_of_isNameEnd hword hc (Text.mem_of_mem_snakeFrom hbound.1 hbound.2.1 h)

theorem isOneLine_typePath : IsOneLine record.typePath := by
  have hpath : IsOneLine ("::".intercalate record.modulePath) := by
    intro h
    rw [String.toList_intercalate] at h
    rcases mem_of_mem_intercalate h with h | ⟨text, htext, h⟩
    · revert h
      decide
    · obtain ⟨segment, hsegment, rfl⟩ := List.mem_map.mp htext
      exact (hrecord.modules segment hsegment).isOneLine h
  rw [Record.typePath]
  split
  · exact hrecord.name.isOneLine
  · simp +decide only [isOneLine_append, hpath, hrecord.name.isOneLine]

/-- What ends a name stands in no name that a function of the record can have. -/
theorem not_mem_functionName {c : Char} (hc : isNameEnd c = true) {start : String}
    (hstart : c ∉ start.toList) : c ∉ (start ++ suffix record).toList := by
  rw [String.toList_append, List.mem_append]
  rintro (h | h)
  · exact hstart h
  · exact not_mem_suffix hrecord hc h

end

theorem isOneLine_functionLines {head : List String} {body : List Statement}
    (hhead : ∀ line ∈ head, IsOneLine line) (hbody : ∀ statement ∈ body, statement.IsReadable) :
    ∀ line ∈ functionLines head body, IsOneLine line := by
  have hlast : IsOneLine answerLine ∧ IsOneLine "\x7d" := by decide
  intro line hline
  simp only [functionLines, List.mem_append, List.mem_flatMap, List.mem_singleton] at hline
  rcases hline with (hline | ⟨statement, hstatement, hline⟩ | rfl) | rfl
  · exact hhead line hline
  · exact isOneLine_lines (hbody statement hstatement) line hline
  · exact hlast.1
  · exact hlast.2

theorem isReadable_validateBody {record : Record} (h : IsWritten record) :
    ∀ statement ∈ validateBody record, statement.IsReadable := by
  intro statement hm
  obtain ⟨field, hf, hm⟩ := List.mem_flatMap.mp hm
  exact isReadable_boundStatements (h.names field hf) statement hm

theorem isOneLine_definitionLines {record : Record} (h : IsNamed record) :
    ∀ line ∈ definitionLines record, IsOneLine line := by
  have hpath := isOneLine_typePath h
  have hbindName : IsOneLine (bindName record) := not_mem_functionName h rfl (by decide)
  have hvalidateName : IsOneLine (validateName record) := not_mem_functionName h rfl (by decide)
  have hbind : ∀ line ∈ bindHeadLines record, IsOneLine line := by
    simp +decide only [bindHeadLines, List.forall_mem_cons, isOneLine_append, hpath,
      hbindName]
  have hvalidate : ∀ line ∈ validateHeadLines record, IsOneLine line := by
    simp +decide only [validateHeadLines, List.forall_mem_cons, isOneLine_append, hpath,
      hvalidateName]
  have hempty : IsOneLine "" := by decide
  intro line hline
  rcases List.mem_append.mp hline with hline | hline
  · rcases List.mem_cons.mp hline with rfl | hline
    · exact hempty
    · exact isOneLine_functionLines hbind (isReadable_bindBody h.toIsWritten) line hline
  · rcases List.mem_cons.mp hline with rfl | hline
    · exact hempty
    · exact isOneLine_functionLines hvalidate (isReadable_validateBody h.toIsWritten) line hline

/-! ## Functions of a module -/

/-- Every line of a statement is indented. -/
theorem indent_isPrefix {statement : Statement} :
    ∀ line ∈ statement.lines, Statement.indent.toList <+: line.toList := by
  cases statement <;> simp [Statement.lines, Statement.failLine, String.toList_append]

/-- The lines of a statement start no function. -/
theorem definedName?_of_mem_lines {statement : Statement} {line : String}
    (h : line ∈ statement.lines) : definedName? line = none := by
  obtain ⟨more, hmore⟩ := indent_isPrefix line h
  have hline : line = Statement.indent ++ String.ofList more := by
    refine String.toList_injective ?_
    rw [String.toList_append, String.toList_ofList, hmore]
  rw [hline]
  exact definedName?_indented _

/-- A function defines what its head says. -/
theorem definedNames_functionLines (head : List String) (body : List Statement) :
    (functionLines head body).filterMap definedName? = head.filterMap definedName? := by
  have hbody : (body.flatMap Statement.lines).filterMap definedName? = [] := by
    rw [List.filterMap_eq_nil_iff]
    intro line hline
    obtain ⟨statement, -, hline⟩ := List.mem_flatMap.mp hline
    exact definedName?_of_mem_lines hline
  have hlast : [answerLine].filterMap definedName? = [] ∧ ["\x7d"].filterMap definedName? = [] := by
    decide
  simp only [functionLines, List.filterMap_append, hbody, hlast, List.append_nil]

theorem definedNames_definitionLines {record : Record} (h : IsNamed record) :
    (definitionLines record).filterMap definedName? = functionNames record := by
  have hbind : (bindHeadLines record).filterMap definedName? = [bindName record] := by
    have hfirst : definedName? ("pub fn " ++ bindName record ++ "<B>(") = some (bindName record) :=
      definedName?_head (not_mem_functionName h rfl (by decide))
        (not_mem_functionName h rfl (by decide)) rfl
    have hlast : definedName? ") -> Result<(), String> \x7b" = none := by decide
    simp only [bindHeadLines, String.append_assoc, List.filterMap_cons, List.filterMap_nil,
      definedName?_indented, hlast]
    rw [String.append_assoc] at hfirst
    rw [hfirst]
  have hvalidate : (validateHeadLines record).filterMap definedName? = [validateName record] := by
    have hfirst : definedName? ("pub fn " ++ validateName record
        ++ ("(s: &" ++ record.typePath ++ ") -> Result<(), String> \x7b"))
          = some (validateName record) :=
      definedName?_head (not_mem_functionName h rfl (by decide))
        (not_mem_functionName h rfl (by decide)) (by simp)
    simp only [String.append_assoc] at hfirst
    simp only [validateHeadLines, String.append_assoc, List.filterMap_cons, List.filterMap_nil,
      hfirst]
  have hempty : definedName? "" = none := by decide
  rw [definitionLines, List.filterMap_append, List.filterMap_cons, List.filterMap_cons,
    definedNames_functionLines, definedNames_functionLines, hbind, hvalidate, hempty]
  rfl

theorem isOneLine_headerLines {target : String} (h : IsOneLine target) :
    ∀ line ∈ BindingsModule.headerLines target, IsOneLine line := by
  simp +decide only [BindingsModule.headerLines, List.forall_mem_cons, isOneLine_append, h]

/-- The header defines no function. -/
theorem definedNames_headerLines (target : String) :
    (BindingsModule.headerLines target).filterMap definedName? = [] := by
  have htarget :
      definedName? ("//! Request binding and validation for `" ++ target ++ "`.") = none := by
    rw [String.append_assoc]
    exact definedName?_of_apart (by decide) (by decide) _
  simp +decide only [BindingsModule.headerLines, List.filterMap_cons, List.filterMap_nil, htarget]

/-- The helpers of a module, by their characters. -/
theorem helperLines_toList :
    (∀ cs ∈ BindingsModule.helperLines.map String.toList, '\n' ∉ cs) ∧
      (BindingsModule.helperLines.map String.toList).filterMap nameAt? = helperNames := by
  rw [BindingsModule.helperLines]
  repeat rw [List.map_cons]
  rw [List.map_nil]
  -- the literals become lists of characters, so that no encoded text is decided on
  repeat rw [String.toList_ofList]
  decide

theorem definedNames_helperLines :
    BindingsModule.helperLines.filterMap definedName? = helperNames := by
  rw [← helperLines_toList.2, List.filterMap_map]
  rfl

/-- A module defines the two functions of each record in order, then the helpers. -/
theorem definedNames_text {target : String} {records : List Record} (htarget : IsOneLine target)
    (hrecords : ∀ record ∈ records, IsNamed record) :
    definedNames (BindingsModule.text target records)
      = records.flatMap functionNames ++ helperNames := by
  have hlines : ∀ line ∈ BindingsModule.headerLines target ++ records.flatMap definitionLines
      ++ BindingsModule.helperLines, IsOneLine line := by
    have hhelpers : ∀ line ∈ BindingsModule.helperLines, IsOneLine line := fun line hline =>
      helperLines_toList.1 line.toList (List.mem_map_of_mem hline)
    intro line hline
    rcases List.mem_append.mp hline with hline | hline
    · rcases List.mem_append.mp hline with hline | hline
      · exact isOneLine_headerLines htarget line hline
      · obtain ⟨record, hrecord, hline⟩ := List.mem_flatMap.mp hline
        exact isOneLine_definitionLines (hrecords record hrecord) line hline
    · exact hhelpers line hline
  have hnames : (records.flatMap definitionLines).filterMap definedName?
      = records.flatMap functionNames := by
    rw [List.filterMap_flatMap]
    exact List.flatMap_congr fun record hrecord =>
      definedNames_definitionLines (hrecords record hrecord)
  rw [text_eq, definedNames_endLines hlines, List.filterMap_append, List.filterMap_append,
    definedNames_headerLines, hnames, definedNames_helperLines, List.nil_append]

/--
**When a module defines no function twice.** It defines the two functions of each record and the
helpers, and no two of them have the same name exactly if no two paths of records have the same
words. Records with the same name have the same functions exactly if the paths of their modules have
the same words.
-/
theorem definedNames_nodup_iff {target : String} {records : List Record}
    (htarget : IsOneLine target) (hrecords : ∀ record ∈ records, IsNamed record) :
    definedNames (BindingsModule.text target records)
      = records.flatMap functionNames ++ helperNames ∧
    ((definedNames (BindingsModule.text target records)).Nodup ↔ (records.map pathWords).Nodup) ∧
    ∀ a ∈ records, ∀ b ∈ records, a.name = b.name →
      (functionNames a = functionNames b ↔ moduleWords a = moduleWords b) ∧
      (moduleWords a ≠ moduleWords b → List.Disjoint (functionNames a) (functionNames b)) := by
  have hnames := definedNames_text htarget hrecords
  refine ⟨hnames, ?_, fun a _ b _ hname => ?_⟩
  · rw [hnames]
    exact nodup_names_iff
  · have hwords : pathWords a = pathWords b ↔ moduleWords a = moduleWords b := by
      rw [pathWords, pathWords, hname, List.append_left_inj]
    constructor
    · simp [functionNames, bindName_eq_iff, validateName_eq_iff, hwords]
    · intro hne
      exact disjoint_functionNames.mpr (mt hwords.mp hne)

namespace Example

/-- A record without fields. -/
def record (modulePath : List String) (name : String) : Record := ⟨name, modulePath, []⟩

theorem isNamed_record {modulePath : List String} {name : String} (hname : IsFieldName name)
    (hmodules : ∀ segment ∈ modulePath, IsFieldName segment) :
    IsNamed (record modulePath name) where
  names := by simp [record]
  types := by simp [record]
  name := hname
  modules := hmodules

theorem isFieldName_c : IsFieldName "C" := ⟨⟨false, "C", by decide⟩, rfl⟩

/-- Records of one name in modules that are called differently. -/
def apartRecords : List Record := [record ["api"] "C", record ["web"] "C"]

theorem isNamed_apartRecords : ∀ record ∈ apartRecords, IsNamed record := by
  simp only [apartRecords, List.forall_mem_cons]
  refine ⟨isNamed_record isFieldName_c ?_, isNamed_record isFieldName_c ?_, by simp⟩
  · exact List.forall_mem_singleton.mpr ⟨⟨false, "api", by decide⟩, rfl⟩
  · exact List.forall_mem_singleton.mpr ⟨⟨false, "web", by decide⟩, rfl⟩

/-- Records of one name, in a module and in one with two parts. -/
def sameRecords : List Record := [record ["a_b"] "C", record ["a", "b"] "C"]

theorem isNamed_sameRecords : ∀ record ∈ sameRecords, IsNamed record := by
  have ha : IsFieldName "a" := ⟨⟨false, "a", by decide⟩, rfl⟩
  have hb : IsFieldName "b" := ⟨⟨false, "b", by decide⟩, rfl⟩
  simp only [sameRecords, List.forall_mem_cons]
  refine ⟨isNamed_record isFieldName_c ?_, isNamed_record isFieldName_c ?_, by simp⟩
  · exact List.forall_mem_singleton.mpr ⟨⟨false, "a_b", by decide⟩, rfl⟩
  · simp [ha, hb]

end Example

/-- Records of one name in modules that are called differently share no function. -/
theorem definedNames_nodup_iff_apart :
    IsOneLine "bindings" ∧ (∀ record ∈ Example.apartRecords, IsNamed record) ∧
    (definedNames (BindingsModule.text "bindings" Example.apartRecords)).Nodup := by
  have htarget : IsOneLine "bindings" := by decide
  have hwords : (Example.apartRecords.map pathWords).Nodup := by decide +kernel
  exact ⟨htarget, Example.isNamed_apartRecords,
    (definedNames_nodup_iff htarget Example.isNamed_apartRecords).2.1.mpr hwords⟩

/--
The records `a_b::C` and `a::b::C` have different paths and one name, but their module defines
`bind_a_b_c` and `validate_a_b_c` twice.
-/
theorem definedNames_sameRecords :
    (∀ record ∈ Example.sameRecords, IsNamed record) ∧
    (Example.sameRecords.map Record.typePath) = ["a_b::C", "a::b::C"] ∧
    Example.sameRecords.map bindName = ["bind_a_b_c", "bind_a_b_c"] ∧
    Example.sameRecords.map validateName = ["validate_a_b_c", "validate_a_b_c"] ∧
    ¬(definedNames (BindingsModule.text "bindings" Example.sameRecords)).Nodup := by
  have hwords : ¬(Example.sameRecords.map pathWords).Nodup := by decide +kernel
  refine ⟨Example.isNamed_sameRecords, by decide +kernel, by decide +kernel, by decide +kernel, ?_⟩
  rw [definedNames_text (by decide) Example.isNamed_sameRecords, nodup_names_iff]
  exact hwords

end Function

end RequestBinding
