import RequestBinding.BindingsModule.Template
import RequestBinding.Proofs.FunctionNames

/-!
# The layout of a bindings module

A module is its header, for each record a blank line, the bind function, a blank line and the
validate function, and the helpers. The template of modules says this in another way: its values are
trimmed, and the line ends around its repeated part belong to the next line, not to the last one.
Trimming a function takes away its last line end and no more, as it starts with a letter and ends in
a brace; the marks take away as many line ends as the template has before them.

## Main statements

* `text_eq_append` — a module is its header, the functions of its records and the helpers.
* `filledText_eq_text` — the filled template is the module.
* `text_laid_out` — the layout of a module, and of the functions of more records.
-/

namespace RequestBinding

namespace Template

/-! ## Ends of texts -/

theorem toList_append_newline (text : String) : (text ++ "\n").toList = text.toList ++ ['\n'] :=
  String.toList_append

theorem withoutLineEnd_append (text : String) : withoutLineEnd (text ++ "\n") = text := by
  unfold withoutLineEnd
  rw [toList_append_newline, List.getLast?_concat, if_pos rfl, List.dropLast_concat,
    String.ofList_toList]

/-- Behind ink nothing but the line end is trimmed. -/
theorem trimmedEnd_append {text : String} {c : Char} (hlast : text.toList.getLast? = some c)
    (hc : Text.isBlank c = false) : trimmedEnd (text ++ "\n") = text := by
  obtain ⟨cs, hcs⟩ := List.getLast?_eq_some_iff.mp hlast
  have hink : Text.trimEnd (cs ++ [c]) = cs ++ [c] := by
    simp [Text.trimEnd, hc]
  unfold trimmedEnd
  rw [toList_append_newline, Text.trimEnd_append_blank (by decide), hcs, hink, ← hcs,
    String.ofList_toList]

theorem endLines_concat (lines : List String) (line : String) :
    Function.endLines (lines ++ [line]) = Function.endLines lines ++ line ++ "\n" := by
  rw [Function.endLines_append, String.append_assoc]
  simp [Function.endLines]

theorem withoutLineEnd_endLines {lines : List String} (h : lines ≠ []) (text : String) :
    withoutLineEnd (text ++ Function.endLines lines) ++ "\n" = text ++ Function.endLines lines := by
  obtain ⟨more, line, rfl⟩ := List.eq_nil_or_concat lines |>.resolve_left h
  rw [List.concat_eq_append, endLines_concat, ← String.append_assoc, ← String.append_assoc,
    withoutLineEnd_append]

theorem trimmedEnd_endLines (line : String) (c : Char) {lines : List String}
    (h : lines.getLast? = some line) (hlast : line.toList.getLast? = some c)
    (hc : Text.isBlank c = false) :
    trimmedEnd (Function.endLines lines) ++ "\n" = Function.endLines lines := by
  obtain ⟨more, rfl⟩ := List.getLast?_eq_some_iff.mp h
  have hend : (Function.endLines more ++ line).toList.getLast? = some c := by
    rw [String.toList_append, List.getLast?_append, hlast]
    rfl
  rw [endLines_concat, trimmedEnd_append hend hc]

end Template

namespace BindingsModule

open Template

/-! ## Parts of a module -/

/-- The header, which names the target. -/
def headerText (target : String) : String := Function.endLines (headerLines target)

/-- The helpers, which are the same in every module. -/
def helperText : String := Function.endLines helperLines

/-- The text of a record: its functions, each without its line end and on lines of its own after a
blank line. -/
def recordText (record : Record) : String :=
  Function.endLines ["", withoutLineEnd (Function.bindText record), "",
    withoutLineEnd (Function.validateText record)]

/-- The texts of the records in their order. -/
def recordsText (records : List Record) : String := String.join (records.map recordText)

/-- What stands between the header and the helpers. -/
def recordPart (target text : String) : String :=
  let rest := text.toList.drop (headerText target).length
  String.ofList (rest.take (rest.length - helperText.length))

theorem recordText_eq (record : Record) :
    recordText record = Function.endLines (recordLines record) := by
  have hbind : withoutLineEnd (Function.bindText record)
      = Text.trimmed (Function.bindText record) := by
    rw [← withoutLineEnd_append (Text.trimmed _), Function.trimmed_bindText]
  have hvalidate : withoutLineEnd (Function.validateText record)
      = Text.trimmed (Function.validateText record) := by
    rw [← withoutLineEnd_append (Text.trimmed _), Function.trimmed_validateText]
  rw [recordText, hbind, hvalidate, recordLines]

/-- **The layout of a module.** -/
theorem text_eq_append (target : String) (records : List Record) :
    text target records = headerText target ++ recordsText records ++ helperText := by
  have hrecords : Function.endLines (records.flatMap recordLines) = recordsText records := by
    induction records with
    | nil => rfl
    | cons record more ih =>
      rw [List.flatMap_cons, Function.endLines_append, ih, ← recordText_eq, recordsText,
        recordsText, List.map_cons, String.join_cons]
  rw [text, Function.endLines_append, Function.endLines_append, hrecords]
  rfl

theorem recordsText_append (records more : List Record) :
    recordsText (records ++ more) = recordsText records ++ recordsText more := by
  rw [recordsText, List.map_append, String.join_append]
  rfl

theorem recordPart_text (target : String) (records : List Record) :
    recordPart target (text target records) = recordsText records := by
  unfold recordPart
  rw [text_eq_append, String.append_assoc, String.toList_append, ← String.length_toList,
    List.drop_left, String.toList_append, ← String.length_toList]
  dsimp only
  rw [List.length_append, Nat.add_sub_cancel, List.take_left, String.ofList_toList]

/-! ## The filled template -/

/-- The header up to the mark is the one of the module, up to its last line end. -/
theorem fillAll_before (target : String) :
    TemplatePart.fillAll target (upToMark template.cutsBefore template.before) ++ "\n"
      = headerText target := by
  show TemplatePart.fillAll target [_, _, .literal (trimmedEnd _)] ++ "\n" = _
  simp only [TemplatePart.fillAll, TemplatePart.fill, List.map_cons, List.map_nil, String.join_cons,
    String.join_nil, String.append_assoc, String.append_empty]
  rw [trimmedEnd_endLines "use super::*;" ';' rfl (by decide) (by decide)]
  simp only [headerText, headerLines, Function.endLines, List.map_cons, List.map_nil,
    String.join_cons, String.join_nil, String.append_assoc, String.append_empty]

/-- Once for each record: the line end of the line before, and the record's text without its last
line end. -/
theorem fillAll_repeated (record : Record) :
    TemplatePart.fillAll record (upToMark template.cutsWithin template.repeated) ++ "\n"
      = "\n" ++ recordText record := by
  have hcut : trimmedEnd "\n" = "" := by decide
  have hlines : "\n\n" = "\n" ++ "\n" := by decide
  show TemplatePart.fillAll record [_, _, _, _, .literal (trimmedEnd "\n")] ++ "\n" = _
  rw [hcut, hlines, recordText_eq]
  simp only [TemplatePart.fillAll, TemplatePart.fill, recordLines, Function.endLines, List.map_cons,
    List.map_nil, String.join_cons, String.join_nil, String.append_assoc, String.append_empty,
    String.empty_append]

theorem fillAll_after (target : String) :
    TemplatePart.fillAll target (TemplatePart.mapLast withoutLineEnd template.after) ++ "\n"
      = "\n" ++ helperText := by
  show TemplatePart.fillAll target [.literal (withoutLineEnd _)] ++ "\n" = _
  simp only [TemplatePart.fillAll, TemplatePart.fill, List.map_cons, List.map_nil, String.join_cons,
    String.join_nil, String.append_empty]
  exact withoutLineEnd_endLines (by decide) "\n"

/-- The line end of the line before may stand in front of each record or behind the last one. -/
theorem join_repeated (records : List Record) :
    String.join (records.map fun record =>
        TemplatePart.fillAll record (upToMark template.cutsWithin template.repeated)) ++ "\n"
      = "\n" ++ recordsText records := by
  induction records with
  | nil => rfl
  | cons record more ih =>
    rw [List.map_cons, String.join_cons, String.append_assoc, ih, ← String.append_assoc,
      fillAll_repeated, recordsText, recordsText, List.map_cons, String.join_cons,
      String.append_assoc]

theorem fill_template (target : String) (records : List Record) :
    template.fill target records ++ "\n" = text target records := by
  have hbefore := fillAll_before target
  have hrepeated := join_repeated records
  have hafter := fillAll_after target
  rw [Template.fill, text_eq_append, String.append_assoc, hafter]
  calc _ = TemplatePart.fillAll target (upToMark template.cutsBefore template.before)
          ++ (String.join (records.map fun record =>
            TemplatePart.fillAll record (upToMark template.cutsWithin template.repeated)) ++ "\n")
          ++ helperText := by simp only [String.append_assoc]
    _ = TemplatePart.fillAll target (upToMark template.cutsBefore template.before) ++ "\n"
          ++ recordsText records ++ helperText := by rw [hrepeated]; simp only [String.append_assoc]
    _ = headerText target ++ recordsText records ++ helperText := by rw [hbefore]

/-- The text ends in a brace and one line end. -/
theorem text_ends (target : String) (records : List Record) :
    ∃ code, text target records = code ++ "\x7d\n" := by
  have hlines : helperLines = helperLines.dropLast ++ ["\x7d"] := rfl
  refine ⟨headerText target ++ recordsText records ++ Function.endLines helperLines.dropLast, ?_⟩
  rw [text_eq_append, helperText, hlines, endLines_concat]
  simp [String.append_assoc]

/-- **The template gives the module.** What is left of it without a line end gets one. -/
theorem filledText_eq_text (target : String) (records : List Record) :
    filledText target records = text target records := by
  have hfill := fill_template target records
  obtain ⟨code, hcode⟩ := text_ends target records
  have hend : template.fill target records = code ++ "\x7d" := by
    refine (String.append_left_inj "\n").mp (hfill.trans ?_)
    rw [hcode, String.append_assoc]
    rfl
  have hlast : (template.fill target records).toList.getLast? ≠ some '\n' := by
    have hbrace : "\x7d".toList.getLast? = some '\x7d' := by decide
    rw [hend, String.toList_append, List.getLast?_append, hbrace, Option.some_or]
    decide
  unfold filledText
  rw [if_neg hlast, hfill]

/-! ## The layout -/

/-- **The layout of a module.** It is what its template gives: the header, which depends on the
target only, the functions of each record in order, and the same helpers in every module. A function
stands there as it is, on lines of its own after a blank line. The module ends in one line end, and
more records add what stands between header and helpers. -/
theorem text_laid_out (target : String) (records more : List Record) :
    filledText target records = text target records ∧
    text target records
      = headerText target
        ++ String.join (records.map fun record => "\n"
          ++ withoutLineEnd (Function.bindText record) ++ "\n" ++ "\n"
          ++ withoutLineEnd (Function.validateText record) ++ "\n")
        ++ helperText ∧
    (∀ record, withoutLineEnd (Function.bindText record) ++ "\n" = Function.bindText record ∧
      withoutLineEnd (Function.validateText record) ++ "\n" = Function.validateText record) ∧
    (∃ code, text target records = code ++ "\x7d\n") ∧
    recordPart target (text target (records ++ more))
      = recordPart target (text target records) ++ recordPart target (text target more) := by
  refine ⟨filledText_eq_text target records, ?_, fun record => ⟨?_, ?_⟩,
    text_ends target records, ?_⟩
  · have hrecord (record : Record) : recordText record = "\n"
        ++ withoutLineEnd (Function.bindText record) ++ "\n" ++ "\n"
        ++ withoutLineEnd (Function.validateText record) ++ "\n" := by
      simp only [recordText, Function.endLines, List.map_cons, List.map_nil, String.join_cons,
        String.join_nil, String.append_assoc, String.append_empty, String.empty_append]
    rw [text_eq_append, recordsText, funext hrecord]
  · rw [← Function.trimmed_bindText, withoutLineEnd_append]
  · rw [← Function.trimmed_validateText, withoutLineEnd_append]
  · rw [recordPart_text, recordPart_text, recordPart_text, recordsText_append]

end BindingsModule

end RequestBinding
