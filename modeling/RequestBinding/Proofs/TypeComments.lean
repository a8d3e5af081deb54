import Mathlib.Algebra.Ring.Nat
import RequestBinding.Proofs.BodyText
import RequestBinding.Proofs.SourceWalk

/-!
# Types in comments

A field that is bound but has no type for it leaves a comment in the bind function, with the text of
its type. The text is printed from the tokens of the type, literals as they are written. Words,
marks, delimiters and the spaces between tokens end no line, so the comment is one line exactly if
no literal of the type goes over two, in whatever block or macro of the type it stands. What follows
a line end in a literal is no comment any more.

## Main statements

* `lineFeeds_printTokens` — the line ends in printed tokens are those in their literals.
* `bodyText_bindBody_of_other` — the lines of such a field, among those of the others.
* `isOneLine_skippedLine_iff` — when the comment is one line, for every field of a source.
-/

namespace RequestBinding

/-! ## Line ends in a text -/

namespace Text

/-- The number of line ends in a text. -/
def lineFeeds (text : String) : Nat := text.toList.count '\n'

@[simp] theorem lineFeeds_append (s t : String) :
    lineFeeds (s ++ t) = lineFeeds s + lineFeeds t := by
  rw [lineFeeds, String.toList_append, List.count_append]
  rfl

theorem lineFeeds_eq_zero_iff {text : String} :
    lineFeeds text = 0 ↔ Function.IsOneLine text :=
  List.count_eq_zero

end Text

/-! ## Line ends in printed tokens -/

namespace Source

open Text

mutual

/-- The literals of a token tree as they are written, those between delimiters included. -/
def TokenTree.literals : TokenTree → List String
  | .word _ _ => []
  | .mark _ _ _ => []
  | .literal _ text => [text]
  | .group _ _ inner _ => literalsOf inner

/-- The literals of token trees. -/
def literalsOf : List TokenTree → List String
  | [] => []
  | tree :: more => tree.literals ++ literalsOf more

end

theorem literalsOf_cons (tree : TokenTree) (more : List TokenTree) :
    literalsOf (tree :: more) = tree.literals ++ literalsOf more := by
  rw [literalsOf]

theorem lineFeeds_word (word : Word) : lineFeeds word.text = 0 :=
  lineFeeds_eq_zero_iff.mpr word.newline_not_mem_text

theorem lineFeeds_mark (mark : Mark) : lineFeeds (String.ofList [mark.val]) = 0 := by
  have hnot : '\n' ∉ punctuation := by decide
  have hne : '\n' ≠ mark.val := fun h => hnot (h ▸ mark.property)
  rw [lineFeeds_eq_zero_iff, Function.IsOneLine, String.toList_ofList, List.mem_singleton]
  exact hne

/-- What stands between two tokens, or before a closing brace, ends no line. -/
theorem lineFeeds_gap (closed : Bool) : lineFeeds (if closed then "" else " ") = 0 := by
  cases closed <;> rfl

/-- The delimiters around printed tokens end no line. -/
theorem lineFeeds_print_group (position : Position) (delimiter : Delimiter)
    (inner : List TokenTree) (close : Position) :
    lineFeeds (TokenTree.group position delimiter inner close).print
      = lineFeeds (printTokens inner) := by
  cases delimiter with
  | parenthesis =>
    have hends : lineFeeds "(" = 0 ∧ lineFeeds ")" = 0 := by decide
    rw [TokenTree.print, lineFeeds_append, lineFeeds_append, hends.1, hends.2]
    omega
  | bracket =>
    have hends : lineFeeds "[" = 0 ∧ lineFeeds "]" = 0 := by decide
    rw [TokenTree.print, lineFeeds_append, lineFeeds_append, hends.1, hends.2]
    omega
  | brace =>
    have hends : lineFeeds "\x7b " = 0 ∧ lineFeeds "\x7d" = 0 := by decide
    rw [TokenTree.print, lineFeeds_append, lineFeeds_append, lineFeeds_append, lineFeeds_gap,
      hends.1, hends.2]
    omega

mutual

theorem TokenTree.lineFeeds_print :
    ∀ tree : TokenTree, lineFeeds tree.print = (tree.literals.map lineFeeds).sum
  | .word _ word => lineFeeds_word word
  | .mark _ mark _ => lineFeeds_mark mark
  | .literal _ text => by simp [TokenTree.print, TokenTree.literals]
  | .group position delimiter inner close => by
    rw [lineFeeds_print_group, lineFeeds_printTokens inner, TokenTree.literals]

/-- **The line ends in printed tokens are those in their literals.** -/
theorem lineFeeds_printTokens :
    ∀ trees : List TokenTree,
      lineFeeds (printTokens trees) = ((literalsOf trees).map lineFeeds).sum
  | [] => rfl
  | [tree] => by
    rw [printTokens, tree.lineFeeds_print, literalsOf_cons, literalsOf, List.append_nil]
  | tree :: next :: more => by
    rw [printTokens, lineFeeds_append, lineFeeds_append, lineFeeds_gap, tree.lineFeeds_print,
      lineFeeds_printTokens (next :: more), literalsOf_cons tree, List.map_append, List.sum_append,
      Nat.add_zero]

end

end Source

namespace Function

open Source Text Extraction

/-! ## The comment of a field -/

/-- The comment for a field that is bound from a source but has no type for it. -/
def skippedLine (field : Field) (source : BindSource) : String :=
  Statement.indent ++ "// " ++ (field.name ++ ": " ++ source.word
    ++ " binding skipped for unsupported type `" ++ field.type ++ "`")

/-- The lines that a field has in the bind function. -/
def fieldLines (field : Field) : List String :=
  (readStatements field ++ boundStatements field).flatMap Statement.lines

theorem bodyText_bindBody (record : Record) :
    bodyText (bindBody record) = endLines (record.fields.flatMap fieldLines ++ [answerLine]) := by
  rw [bodyText, bindBody, List.flatMap_assoc]
  rfl

/-- Such a field has its comment and no check. -/
theorem fieldLines_of_other {field : Field} {bind : BindDirective} (hbind : field.bind = some bind)
    (hkind : field.kind = .other) : fieldLines field = [skippedLine field bind.source] := by
  have hbounds : boundStatements field = [] := by
    simp [boundStatements, Field.integerBounds?, hkind]
  have hread : readStatements field = [.remark (field.name ++ ": " ++ bind.source.word
      ++ " binding skipped for unsupported type `" ++ field.type ++ "`")] := by
    simp [readStatements, hbind, hkind]
  rw [fieldLines, hread, hbounds]
  rfl

/-- The comment stands after the lines of the fields before, and the others come after its end. -/
theorem bodyText_bindBody_of_other {record : Record} {before after : List Field} {field : Field}
    {bind : BindDirective} (hfields : record.fields = before ++ field :: after)
    (hbind : field.bind = some bind) (hkind : field.kind = .other) :
    bodyText (bindBody record) = endLines (before.flatMap fieldLines)
      ++ (skippedLine field bind.source ++ "\n")
      ++ endLines (after.flatMap fieldLines ++ [answerLine]) := by
  have hline :
      endLines [skippedLine field bind.source] = skippedLine field bind.source ++ "\n" := by
    simp [endLines]
  rw [bodyText_bindBody, hfields, List.flatMap_append, List.flatMap_cons,
    fieldLines_of_other hbind hkind, List.append_assoc, List.append_assoc, endLines_append,
    endLines_append, hline, ← String.append_assoc]

/-- The line ends in the comment are those in the type. -/
theorem lineFeeds_skippedLine {field : Field} (hname : IsOneLine field.name) (source : BindSource) :
    lineFeeds (skippedLine field source) = lineFeeds field.type := by
  have hsource : lineFeeds source.word = 0 := by cases source <;> rfl
  have hfixed : lineFeeds Statement.indent = 0 ∧ lineFeeds "// " = 0 ∧ lineFeeds ": " = 0 ∧
      lineFeeds " binding skipped for unsupported type `" = 0 ∧ lineFeeds "`" = 0 := by decide
  simp only [skippedLine, lineFeeds_append, lineFeeds_eq_zero_iff.mpr hname, hsource, hfixed]
  omega

/-- **The comment for a field is one line exactly if every literal of its type is on one line.**
In general it has as many line ends as the literals of the type together. -/
theorem isOneLine_skippedLine_iff {attr text : String} {found : List Record}
    (h : (Extraction.records attr text).1 = .ok found) {record : Record} (hrecord : record ∈ found)
    {before after : List Field} {field : Field} {bind : BindDirective}
    (hfields : record.fields = before ++ field :: after) (hbind : field.bind = some bind)
    (hkind : field.kind = .other) :
    ∃ all, declarations text = .ok all ∧ ∃ struct ∈ examined all, IsRecordOf struct record ∧
      ∃ declared ∈ struct.fields,
        field = Field.of declared.name.text (printTokens declared.type) field.bind field.bounds ∧
        bodyText (bindBody record) = endLines (before.flatMap fieldLines)
          ++ (skippedLine field bind.source ++ "\n")
          ++ endLines (after.flatMap fieldLines ++ [answerLine]) ∧
        lineFeeds (skippedLine field bind.source)
          = ((literalsOf declared.type).map lineFeeds).sum ∧
        (IsOneLine (skippedLine field bind.source) ↔
          ∀ literal ∈ literalsOf declared.type, IsOneLine literal) := by
  obtain ⟨all, hall, struct, hstruct, hof⟩ := exists_isRecordOf h hrecord
  obtain ⟨declared, hdeclared, hfieldOf⟩ := hof.fields field (by simp [hfields])
  have hname : IsOneLine field.name := by
    rw [hfieldOf]
    exact declared.name.newline_not_mem_text
  have htype : field.type = printTokens declared.type := congrArg Field.type hfieldOf
  have hcount : lineFeeds (skippedLine field bind.source)
      = ((literalsOf declared.type).map lineFeeds).sum := by
    rw [lineFeeds_skippedLine hname, htype, lineFeeds_printTokens]
  refine ⟨all, hall, struct, hstruct, hof, declared, hdeclared, hfieldOf,
    bodyText_bindBody_of_other hfields hbind hkind, hcount, ?_⟩
  -- a sum of numbers is zero exactly if each of them is
  rw [← lineFeeds_eq_zero_iff, hcount, List.sum_eq_zero_iff_forall_eq_nat, List.forall_mem_map]
  exact forall₂_congr fun literal _ => lineFeeds_eq_zero_iff

namespace Example

/-- A source with a literal in the type of a field. -/
def blockSource (literal : String) : String :=
  "struct Item \x7b #[tag = \"bind:\\\"query\\\"\"] data: [u8; \x7b \"" ++ literal
    ++ "\"; 0 \x7d] \x7d"

/-- The field of the source, with the type as it is printed. -/
def blockField (literal : String) : Field :=
  .of "data" ("[u8 ; \x7b \"" ++ literal ++ "\" ; 0 \x7d]") (some ⟨.query, false⟩) none

theorem records_blockSource :
    (Extraction.records "tag" (blockSource "a")).1 = .ok [⟨"Item", [], [blockField "a"]⟩] :=
  eq_ok_of_toOption (by decide +kernel)

/-- A literal over three lines, the second of which is no comment. -/
def threeLines : String := "\nreturn Err(String::new());\n//"

theorem records_threeLines :
    (Extraction.records "tag" (blockSource threeLines)).1
      = .ok [⟨"Item", [], [blockField threeLines]⟩] :=
  eq_ok_of_toOption (by decide +kernel)

end Example

/-- The comment for a field with a literal on one line in its type. -/
theorem isOneLine_skippedLine_iff_block :
    ∃ all, declarations (Example.blockSource "a") = .ok all ∧ ∃ struct ∈ examined all,
      ∃ declared ∈ struct.fields,
        bodyText (bindBody ⟨"Item", [], [Example.blockField "a"]⟩) = endLines []
          ++ (skippedLine (Example.blockField "a") .query ++ "\n") ++ endLines [answerLine] ∧
        IsOneLine (skippedLine (Example.blockField "a") .query) ∧
        ∀ literal ∈ literalsOf declared.type, IsOneLine literal := by
  have hfields : (Record.mk "Item" [] [Example.blockField "a"]).fields
      = [] ++ Example.blockField "a" :: [] := rfl
  obtain ⟨all, hall, struct, hstruct, -, declared, hdeclared, -, hbody, -, hiff⟩ :=
    isOneLine_skippedLine_iff Example.records_blockSource List.mem_cons_self hfields rfl
      (by decide +kernel)
  have hline : IsOneLine (skippedLine (Example.blockField "a") .query) := by decide +kernel
  exact ⟨all, hall, struct, hstruct, declared, hdeclared, hbody, hline, hiff.mp hline⟩

/-- A literal over several lines in the type of a field puts a statement into the function. -/
theorem skippedLine_threeLines :
    ∃ record, (Extraction.records "tag" (Example.blockSource Example.threeLines)).1 = .ok [record] ∧
      (∃ field bind, record.fields = [field] ∧ field.bind = some bind ∧ field.kind = .other ∧
        ¬IsOneLine (skippedLine field bind.source)) ∧
      bodyText (bindBody record) = endLines [
        "    // data: query binding skipped for unsupported type `[u8 ; \x7b \"",
        "return Err(String::new());",
        "//\" ; 0 \x7d]`",
        "    Ok(())"] := by
  refine ⟨_, Example.records_threeLines, ⟨_, _, rfl, rfl, ?_, ?_⟩, ?_⟩ <;> decide +kernel

end Function

end RequestBinding
