import RequestBinding.Function.Reading
import RequestBinding.Source.Lexeme.QuotedString

/-!
# Written bodies are read back

`readBody` inverts `bodyText` on every body whose names are words of a source and whose remarks stand
on one line (`Statement.IsReadable`). So such a body means what its text means (`runText_bodyText`).

## Layers

* **Parts of a line.** A name, a literal or a number is taken back whatever text follows, if that
  does not go on with it.
* **Lines.** The alternatives of a line start with different texts (`apart`), so the one that wrote
  the line is the first that reads it.
* **Bodies.** A statement takes its own lines, so the lines after it can be any
  (`readLines_lines`).
-/

namespace RequestBinding.Function

open Source

variable {pointer : PointerWidth}

/-! ## Parts of a line are read back -/

theorem after?_append (start : String) (cs : List Char) : after? start (start.toList ++ cs) = some cs := by
  have hlist : ∀ l : List Char, l.isPrefixOf? (l ++ cs) = some cs := by
    intro l
    induction l with
    | nil => cases cs <;> rfl
    | cons c l ih =>
      show (if c == c then l.isPrefixOf? (l ++ cs) else none) = some cs
      rw [beq_self_eq_true, if_pos rfl, ih]
  exact hlist start.toList

/-- The two texts differ at a position that both have. -/
def apart (s t : String) : Bool := (s.toList.zip t.toList).any fun pair => pair.1 != pair.2

theorem after?_of_apart {start other : String} (h : apart start other = true) (cs : List Char) :
    after? start (other.toList ++ cs) = none := by
  have hlist : ∀ l m : List Char, (l.zip m).any (fun pair => pair.1 != pair.2) = true →
      l.isPrefixOf? (m ++ cs) = none := by
    intro l
    induction l with
    | nil => intro m h; simp at h
    | cons c l ih =>
      intro m h
      cases m with
      | nil => simp at h
      | cons d m =>
        show (if c == d then l.isPrefixOf? (m ++ cs) else none) = none
        by_cases hcd : c = d
        · rw [hcd, beq_self_eq_true, if_pos rfl]
          exact ih m (by simpa [hcd] using h)
        · rw [if_neg (by simpa using hcd)]
  exact hlist start.toList other.toList h

theorem ending_self (tail : String) (found : α) : ending tail found tail.toList = some found := by
  have h := after?_append tail []
  rw [List.append_nil] at h
  rw [ending, h]

theorem ending_of_apart {tail other : String} (h : apart tail other = true) (found : α)
    (cs : List Char) : ending tail found (other.toList ++ cs) = none := by
  rw [ending, after?_of_apart h]

/-- The text is a word of a source, so it may name a field. -/
def IsFieldName (name : String) : Prop := ∃ word, Word.take name.toList = some (word, [])

theorem takeField_append {name : String} (h : IsFieldName name) (tail : String)
    (htail : tail.toList.head?.any Word.isStop = true) (cs : List Char) :
    takeField (name.toList ++ (tail.toList ++ cs)) = some (name, tail.toList ++ cs) := by
  obtain ⟨word, hword⟩ := h
  have hname : word.text = name := by
    rw [← String.toList_inj, Word.text_of_take hword, List.append_nil]
  cases hlist : tail.toList with
  | nil => rw [hlist] at htail; cases htail
  | cons c more =>
    rw [hlist] at htail
    rw [takeField, List.cons_append, Word.take_before hword htail, Option.map_some, hname]

theorem takeText_quoted (text : String) (cs : List Char) :
    takeText ((Text.quoted text).toList ++ cs) = some (text, cs) := by
  rw [takeText, Text.toList_quoted, Lexeme.takeString_quote, Option.map_some,
    Lexeme.stringValue_quote, String.ofList_toList]

theorem isNumeralChar_of_mem_toString {n : Int} : ∀ c ∈ (toString n).toList, isNumeralChar c = true := by
  have hdigits : ∀ (m : Nat), ∀ c ∈ Nat.toDigits 10 m, isNumeralChar c = true := by
    intro m c hc
    rw [isNumeralChar, Nat.isDigit_of_mem_toDigits (by decide) (by decide) hc, Bool.true_or]
  intro c hc
  rw [Text.toList_toString_int] at hc
  split at hc
  · exact hdigits _ c hc
  · rcases List.mem_cons.mp hc with rfl | hc
    · rfl
    · exact hdigits _ c hc

theorem takeBound_toString (n : Int64) (tail : String)
    (htail : tail.toList.head?.any (fun c => !isNumeralChar c) = true) (cs : List Char) :
    takeBound ((toString n.toInt).toList ++ (tail.toList ++ cs)) = some (n, tail.toList ++ cs) := by
  have hall := isNumeralChar_of_mem_toString (n := n.toInt)
  cases hlist : tail.toList with
  | nil => rw [hlist] at htail; cases htail
  | cons c more =>
    have hc : isNumeralChar c = false := by
      rw [hlist] at htail
      simpa using htail
    -- the number ends where the tail starts
    rw [takeBound, List.takeWhile_append_of_pos hall, List.dropWhile_append_of_pos hall,
      List.cons_append, List.takeWhile_cons_of_neg (by simp [hc]),
      List.dropWhile_cons_of_neg (by simp [hc]), List.append_nil, Text.readInt64_toString,
      Option.map_some]

theorem takeOperand_operand (c : Comparison) (tail : String)
    (htail : tail.toList.head?.any (fun c => !isNumeralChar c) = true) (cs : List Char) :
    takeOperand (c.operand.toList ++ (tail.toList ++ cs))
      = some (c.side, c.bound, tail.toList ++ cs) := by
  have hside : ∀ more, takeSide (c.side.symbol.toList ++ more) = some (c.side, more) := by
    intro more
    cases c.side <;> rfl
  simp only [Comparison.operand, String.toList_append, List.append_assoc, takeOperand, hside,
    after?_append, takeBound_toString c.bound tail htail, Option.bind_eq_bind, Option.bind_some,
    Option.pure_def]

theorem takeCall_text (l : Lookup) (cs : List Char) :
    takeCall l.source (l.text.toList ++ cs) = some (l, cs) := by
  simp only [Lookup.text, String.toList_append, List.append_assoc, takeCall, after?_append,
    takeText_quoted, Option.bind_eq_bind, Option.bind_some, Option.pure_def]

/-- The call of another helper is none of this one. -/
theorem takeCall_of_apart {source other : BindSource}
    (h : apart (helperCall source) (helperCall other) = true) (key : String) (cs : List Char) :
    takeCall source ((Lookup.mk other key).text.toList ++ cs) = none := by
  simp only [Lookup.text, String.toList_append, List.append_assoc, takeCall, after?_of_apart h,
    Option.bind_eq_bind, Option.bind_none]

theorem takeLookup_text (l : Lookup) (cs : List Char) :
    takeLookup (l.text.toList ++ cs) = some (l, cs) := by
  obtain ⟨source, key⟩ := l
  have htake := takeCall_text ⟨source, key⟩ cs
  cases source with
  | header =>
    rw [takeLookup, htake]
    rfl
  | query =>
    rw [takeLookup, takeCall_of_apart (by decide), htake]
    rfl
  | path =>
    rw [takeLookup, takeCall_of_apart (by decide), takeCall_of_apart (by decide), htake]
    rfl

/-! ## Lines are read back -/

theorem readAssignment_store {field : String} (h : IsFieldName field) (l : Lookup) :
    readAssignment (field ++ " = " ++ l.text ++ ";").toList = some (.store field l) := by
  have hend := ending_self ";" (Statement.store field l)
  simp only [String.toList_append, List.append_assoc, readAssignment,
    takeField_append h " = " (by decide), after?_append, takeLookup_text, hend,
    Option.bind_eq_bind, Option.bind_some]
  rfl

/-- No call of a helper for a source is one of that for integers. -/
theorem takeLookup_parse (cs : List Char) :
    takeLookup ("parse_integer(&raw, ".toList ++ cs) = none := by
  have hcall : ∀ source, takeCall source ("parse_integer(&raw, ".toList ++ cs) = none := by
    intro source
    have hapart : apart (helperCall source) "parse_integer(&raw, " = true := by
      cases source <;> decide
    simp only [takeCall, after?_of_apart hapart, Option.bind_eq_bind, Option.bind_none]
  rw [takeLookup, hcall, hcall, hcall]
  rfl

theorem readAssignment_convert {field : String} (h : IsFieldName field) (key : String) :
    readAssignment (field ++ " = parse_integer(&raw, " ++ Text.quoted key ++ ")?;").toList
      = some (.convert field key) := by
  have hend := ending_self ")?;" (Statement.convert field key)
  have hsplit : " = parse_integer(&raw, " = " = " ++ "parse_integer(&raw, " := rfl
  rw [hsplit]
  simp only [String.toList_append, List.append_assoc, readAssignment,
    takeField_append h " = " (by decide), after?_append, takeLookup_parse, takeText_quoted, hend,
    Option.bind_eq_bind, Option.bind_some, Option.bind_none]
  rfl

theorem readSimple_store {field : String} (h : IsFieldName field) (l : Lookup) :
    readSimple (Statement.indent ++ "s." ++ field ++ " = " ++ l.text ++ ";").toList
      = some (.store field l) := by
  have hassign := readAssignment_store h l
  simp only [String.toList_append, List.append_assoc] at hassign
  have hcomment : apart "// " "s." = true := by decide
  have hfetch : apart "let raw = " "s." = true := by decide
  simp only [String.toList_append, List.append_assoc, readSimple, after?_append,
    after?_of_apart hcomment, after?_of_apart hfetch, hassign, Option.bind_eq_bind,
    Option.bind_some, Option.bind_none, Option.map_none]
  rfl

theorem readSimple_fetch (l : Lookup) :
    readSimple (Statement.indent ++ "let raw = " ++ l.text ++ ";").toList = some (.fetch l) := by
  have hcomment : apart "// " "let raw = " = true := by decide
  have hend := ending_self ";" (Statement.fetch l)
  simp only [String.toList_append, List.append_assoc, readSimple, after?_append,
    after?_of_apart hcomment, takeLookup_text, hend, Option.bind_eq_bind, Option.bind_some,
    Option.map_none]
  rfl

theorem readSimple_convert {field : String} (h : IsFieldName field) (key : String) :
    readSimple (Statement.indent ++ Statement.convertText field key).toList
      = some (.convert field key) := by
  have hassign := readAssignment_convert h key
  simp only [String.toList_append, List.append_assoc] at hassign
  have hcomment : apart "// " "s." = true := by decide
  have hfetch : apart "let raw = " "s." = true := by decide
  simp only [Statement.convertText, String.toList_append, List.append_assoc, readSimple,
    after?_append, after?_of_apart hcomment, after?_of_apart hfetch, hassign, Option.bind_eq_bind,
    Option.bind_some, Option.bind_none, Option.map_none]
  rfl

theorem readSimple_remark (text : String) :
    readSimple (Statement.indent ++ "// " ++ text).toList = some (.remark text) := by
  simp only [String.toList_append, List.append_assoc, readSimple, after?_append,
    Option.bind_eq_bind, Option.bind_some, Option.map_some, String.ofList_toList]
  rfl

/-- The first line of a guard is no statement by itself. -/
theorem readSimple_guard (test : String) :
    readSimple (Statement.indent ++ "if " ++ test).toList = none := by
  have hcomment : apart "// " "if " = true := by decide
  have hfetch : apart "let raw = " "if " = true := by decide
  have hassign : apart "s." "if " = true := by decide
  simp only [String.toList_append, List.append_assoc, readSimple, after?_append,
    after?_of_apart hcomment, after?_of_apart hfetch, after?_of_apart hassign,
    Option.bind_eq_bind, Option.bind_some, Option.bind_none, Option.map_none]
  rfl

/-! ## Guards are read back -/

/-- A comparison starts with what the others do not start with. -/
theorem readComparison_of_apart {before other : String} (h : apart before other = true)
    (widening : Widening) (after : String) (cs : List Char) :
    readComparison widening before after (other.toList ++ cs) = none := by
  simp only [readComparison, after?_of_apart h, Option.bind_eq_bind, Option.bind_none]

theorem readComparison_text {c : Comparison} (h : IsFieldName c.field) (before after : String)
    (hafter : after.toList.head?.any Word.isStop = true) :
    readComparison c.widening before after
      (before.toList ++ (c.field.toList ++ (after.toList ++ (c.operand.toList ++ " \x7b".toList))))
      = some (.compares c) := by
  have hend := ending_self " \x7b" (Guard.compares c)
  have hoperand := takeOperand_operand c " \x7b" (by decide) []
  rw [List.append_nil] at hoperand
  simp only [readComparison, after?_append, takeField_append h after hafter, hoperand, hend,
    Option.bind_eq_bind, Option.bind_some]

theorem readAttempt_text {c : Comparison} (h : IsFieldName c.field) (otherwise : Bool)
    (hwidening : c.widening = .attempt otherwise) (word : String) :
    readAttempt otherwise word
      ("i128::try_from(s.".toList ++ (c.field.toList ++ ((").map_or(" ++ word ++ ", |v| v ").toList
        ++ (c.operand.toList ++ (")".toList ++ " \x7b".toList)))))
      = some (.compares c) := by
  have hstop : (").map_or(" ++ word ++ ", |v| v ").toList.head?.any Word.isStop = true := by
    rw [String.toList_append, String.toList_append]
    rfl
  have hcomparison : (⟨c.field, .attempt otherwise, c.side, c.bound⟩ : Comparison) = c := by
    rw [← hwidening]
  have hend := ending_self " \x7b" (Guard.compares c)
  have hoperand := takeOperand_operand c ")" (by decide) " \x7b".toList
  simp only [readAttempt, after?_append, takeField_append h _ hstop, hoperand, hcomparison, hend,
    Option.bind_eq_bind, Option.bind_some]

/-- An attempt with the other word is none of this one. -/
theorem readAttempt_of_apart {field : String} (h : IsFieldName field) (otherwise : Bool)
    (word other : String)
    (hstop : (").map_or(" ++ other ++ ", |v| v ").toList.head?.any Word.isStop = true)
    (hword : apart (").map_or(" ++ word ++ ", |v| v ") (").map_or(" ++ other ++ ", |v| v ") = true)
    (cs : List Char) :
    readAttempt otherwise word ("i128::try_from(s.".toList ++ (field.toList
      ++ ((").map_or(" ++ other ++ ", |v| v ").toList ++ cs))) = none := by
  simp only [readAttempt, after?_append, takeField_append h _ hstop, after?_of_apart hword,
    Option.bind_eq_bind, Option.bind_some, Option.bind_none]

theorem readGuard_absentField {field : String} (h : IsFieldName field) :
    readGuard (Statement.indent ++ "if " ++ ("s." ++ field ++ ".is_empty() \x7b")).toList
      = some (.absent (.field field)) := by
  have hpresent : apart "!raw.is_empty() \x7b" "s." = true := by decide
  have hraw : apart "raw.is_empty() \x7b" "s." = true := by decide
  have hend := ending_self ".is_empty() \x7b" (Guard.absent (.field field))
  have hfield := takeField_append h ".is_empty() \x7b" (by decide) []
  rw [List.append_nil] at hfield
  simp only [String.toList_append, List.append_assoc, readGuard, after?_append,
    ending_of_apart hpresent, ending_of_apart hraw, hfield, hend, Option.bind_eq_bind,
    Option.bind_some]
  rfl

/-- What does not start with a field or with `raw` is a comparison with a widening. -/
theorem readGuard_of_apart {lead : String} (hpresent : apart "!raw.is_empty() \x7b" lead = true)
    (hraw : apart "raw.is_empty() \x7b" lead = true) (hfield : apart "s." lead = true)
    (cs : List Char) :
    readGuard (Statement.indent.toList ++ ("if ".toList ++ (lead.toList ++ cs)))
      = (readComparison .cast "(s." " as i128) " (lead.toList ++ cs)
        <|> readComparison .exact "i128::from(s." ") " (lead.toList ++ cs)
        <|> readAttempt true "true" (lead.toList ++ cs)
        <|> readAttempt false "false" (lead.toList ++ cs)) := by
  simp only [readGuard, after?_append, ending_of_apart hpresent, ending_of_apart hraw,
    after?_of_apart hfield, readComparison_of_apart hfield, Option.bind_eq_bind, Option.bind_some,
    Option.bind_none]
  rfl

theorem readGuard_bare {c : Comparison} (h : IsFieldName c.field) (hw : c.widening = .none) :
    readGuard (Statement.indent ++ "if " ++ (c.text ++ " \x7b")).toList = some (.compares c) := by
  have hpresent : apart "!raw.is_empty() \x7b" "s." = true := by decide
  have hraw : apart "raw.is_empty() \x7b" "s." = true := by decide
  have habsent : apart ".is_empty() \x7b" " " = true := by decide
  -- the name is followed by a space, not by the test for emptiness
  have hfield := takeField_append h " " (by decide) (c.operand.toList ++ " \x7b".toList)
  have hread := readComparison_text h "s." " " (by decide)
  rw [hw] at hread
  simp only [Comparison.text, hw, String.toList_append, List.append_assoc, readGuard,
    after?_append, ending_of_apart hpresent, ending_of_apart hraw, hfield, ending_of_apart habsent,
    hread, Option.bind_eq_bind, Option.bind_some]
  rfl

theorem readGuard_cast {c : Comparison} (h : IsFieldName c.field) (hw : c.widening = .cast) :
    readGuard (Statement.indent ++ "if " ++ (c.text ++ " \x7b")).toList = some (.compares c) := by
  have hread := readComparison_text h "(s." " as i128) " (by decide)
  rw [hw] at hread
  simp only [Comparison.text, hw, String.toList_append, List.append_assoc]
  rw [readGuard_of_apart (by decide) (by decide) (by decide), hread]
  rfl

theorem readGuard_exact {c : Comparison} (h : IsFieldName c.field) (hw : c.widening = .exact) :
    readGuard (Statement.indent ++ "if " ++ (c.text ++ " \x7b")).toList = some (.compares c) := by
  have hcast : apart "(s." "i128::from(s." = true := by decide
  have hread := readComparison_text h "i128::from(s." ") " (by decide)
  rw [hw] at hread
  simp only [Comparison.text, hw, String.toList_append, List.append_assoc]
  rw [readGuard_of_apart (by decide) (by decide) (by decide), readComparison_of_apart hcast, hread]
  rfl

theorem readGuard_attempt {c : Comparison} (h : IsFieldName c.field) {otherwise : Bool}
    (hw : c.widening = .attempt otherwise) :
    readGuard (Statement.indent ++ "if " ++ (c.text ++ " \x7b")).toList = some (.compares c) := by
  have hcast : apart "(s." "i128::try_from(s." = true := by decide
  have hexact : apart "i128::from(s." "i128::try_from(s." = true := by decide
  simp only [Comparison.text, hw, String.toList_append, List.append_assoc]
  rw [readGuard_of_apart (by decide) (by decide) (by decide), readComparison_of_apart hcast,
    readComparison_of_apart hexact]
  cases otherwise with
  | true =>
    have hread := readAttempt_text h true hw "true"
    simp only [String.toList_append, List.append_assoc] at hread
    simp only [if_true, hread]
    rfl
  | false =>
    -- the first attempt fails at the word
    have hother := readAttempt_of_apart h true "true" "false" rfl (by decide)
      (c.operand.toList ++ (")".toList ++ " \x7b".toList))
    have hread := readAttempt_text h false hw "false"
    simp only [String.toList_append, List.append_assoc] at hread hother
    simp only [Bool.false_eq_true, if_false, hread, hother]
    rfl

theorem readGuard_comparison {c : Comparison} (h : IsFieldName c.field) :
    readGuard (Statement.indent ++ "if " ++ (c.text ++ " \x7b")).toList = some (.compares c) := by
  cases hw : c.widening with
  | none => exact readGuard_bare h hw
  | cast => exact readGuard_cast h hw
  | exact => exact readGuard_exact h hw
  | attempt otherwise => exact readGuard_attempt h hw

/-! ## What stands in a guard is read back -/

theorem readFailure_text (message : String) :
    readFailure ("return Err(".toList ++ ((Text.quoted message).toList ++ ".to_string());".toList))
      = some message := by
  have hend := ending_self ".to_string());" message
  simp only [readFailure, after?_append, takeText_quoted, hend, Option.bind_eq_bind,
    Option.bind_some]

theorem readGuarded_absent (tested : Tested) (message : String) :
    readGuarded (.absent tested) (Statement.failLine message).toList
      = some (.demand tested message) := by
  simp only [Statement.failLine, String.toList_append, List.append_assoc, readGuarded,
    after?_append, readFailure_text, Option.bind_eq_bind, Option.bind_some, Option.map_some]

theorem readGuarded_compares (comparison : Comparison) (message : String) :
    readGuarded (.compares comparison) (Statement.failLine message).toList
      = some (.refuse comparison message) := by
  simp only [Statement.failLine, String.toList_append, List.append_assoc, readGuarded,
    after?_append, readFailure_text, Option.bind_eq_bind, Option.bind_some, Option.map_some]

theorem readGuarded_present {field : String} (h : IsFieldName field) (key : String) :
    readGuarded .present
        (Statement.indent ++ Statement.indent ++ Statement.convertText field key).toList
      = some (.convertPresent field key) := by
  have hassign := readAssignment_convert h key
  simp only [String.toList_append, List.append_assoc] at hassign
  simp only [Statement.convertText, String.toList_append, List.append_assoc, readGuarded,
    after?_append, hassign, Option.bind_eq_bind, Option.bind_some]

/-! ## Statements are read back -/

/-- The text holds no line feed. -/
def IsOneLine (text : String) : Prop := '\n' ∉ text.toList

instance (text : String) : Decidable (IsOneLine text) :=
  inferInstanceAs (Decidable ('\n' ∉ text.toList))

/-- The statement can be read where it is written: its names are words, its remark is on one line. -/
def Statement.IsReadable : Statement → Prop
  | store field _ => IsFieldName field
  | fetch _ => True
  | demand .raw _ => True
  | demand (.field field) _ => IsFieldName field
  | convert field _ => IsFieldName field
  | convertPresent field _ => IsFieldName field
  | remark text => IsOneLine text
  | refuse comparison _ => IsFieldName comparison.field

theorem readLines_simple {line : String} {statement : Statement}
    (h : readSimple line.toList = some statement) (more : List (List Char)) :
    readLines (line.toList :: more) = (readLines more).map (statement :: ·) := by
  rw [readLines.eq_def]
  simp only [h]

theorem readLines_guard {test inner : String} {guard : Guard} {statement : Statement}
    (hguard : readGuard (Statement.indent ++ "if " ++ test).toList = some guard)
    (hinner : readGuarded guard inner.toList = some statement) (more : List (List Char)) :
    readLines ((Statement.indent ++ "if " ++ test).toList :: inner.toList
        :: (Statement.indent ++ "\x7d").toList :: more)
      = (readLines more).map (statement :: ·) := by
  rw [readLines.eq_def]
  simp only [readSimple_guard, hguard, if_true, hinner, Option.bind_eq_bind, Option.bind_some]

/-- The lines of a statement are read as the statement, whatever lines follow. -/
theorem readLines_lines {statement : Statement} (h : statement.IsReadable)
    (more : List (List Char)) :
    readLines (statement.lines.map (·.toList) ++ more)
      = (readLines more).map (statement :: ·) := by
  cases statement with
  | store field lookup => exact readLines_simple (readSimple_store h lookup) more
  | fetch lookup => exact readLines_simple (readSimple_fetch lookup) more
  | convert field key => exact readLines_simple (readSimple_convert h key) more
  | remark text => exact readLines_simple (readSimple_remark text) more
  | demand tested message =>
    cases tested with
    | raw =>
      have hguard : readGuard (Statement.indent ++ "if " ++ "raw.is_empty() \x7b").toList
          = some (.absent .raw) := rfl
      exact readLines_guard hguard (readGuarded_absent .raw message) more
    | field field =>
      rw [← readLines_guard (readGuard_absentField h) (readGuarded_absent (.field field) message)]
      simp [Statement.lines, Tested.text]
  | convertPresent field key =>
    have hguard : readGuard (Statement.indent ++ "if " ++ "!raw.is_empty() \x7b").toList
        = some .present := rfl
    exact readLines_guard hguard (readGuarded_present h key) more
  | refuse comparison message =>
    rw [← readLines_guard (readGuard_comparison h) (readGuarded_compares comparison message)]
    simp [Statement.lines]

/-! ## Lines -/

theorem isOneLine_append {s t : String} : IsOneLine (s ++ t) ↔ IsOneLine s ∧ IsOneLine t := by
  simp only [IsOneLine, String.toList_append, List.mem_append, not_or]

theorem isOneLine_quoted (text : String) : IsOneLine (Text.quoted text) := by
  rw [IsOneLine, Text.toList_quoted]
  exact Text.newline_not_mem_quote _

theorem IsFieldName.isOneLine {name : String} (h : IsFieldName name) : IsOneLine name := by
  obtain ⟨word, hword⟩ := h
  rw [IsOneLine, Word.text_of_take hword, List.append_nil]
  exact word.newline_not_mem_text

theorem isOneLine_lookup (l : Lookup) : IsOneLine l.text := by
  have hcall : ∀ source, IsOneLine (helperCall source) := by
    intro source
    cases source <;> decide
  have hend : IsOneLine ")" := by decide
  exact isOneLine_append.mpr ⟨isOneLine_append.mpr ⟨hcall l.source, isOneLine_quoted l.key⟩, hend⟩

theorem isOneLine_operand (c : Comparison) : IsOneLine c.operand := by
  have hside : IsOneLine (c.side.symbol ++ " ") := by cases c.side <;> decide
  have hbound : IsOneLine (toString c.bound.toInt) := fun hm =>
    absurd (isNumeralChar_of_mem_toString _ hm) (by decide)
  exact isOneLine_append.mpr ⟨hside, hbound⟩

theorem isOneLine_comparison {c : Comparison} (h : IsFieldName c.field) : IsOneLine c.text := by
  unfold Comparison.text
  split <;> simp +decide only [isOneLine_append, h.isOneLine, isOneLine_operand]
  split <;> decide

theorem isOneLine_failLine (message : String) : IsOneLine (Statement.failLine message) := by
  simp +decide only [Statement.failLine, isOneLine_append, isOneLine_quoted]

theorem isOneLine_convertText {field : String} (h : IsFieldName field) (key : String) :
    IsOneLine (Statement.convertText field key) := by
  simp +decide only [Statement.convertText, isOneLine_append, h.isOneLine, isOneLine_quoted]

/-- Every line of a statement that can be read is one line. -/
theorem isOneLine_lines {statement : Statement} (h : statement.IsReadable) :
    ∀ line ∈ statement.lines, IsOneLine line := by
  cases statement with
  | store field lookup =>
    simp +decide only [Statement.lines, List.forall_mem_singleton, isOneLine_append,
      IsFieldName.isOneLine h, isOneLine_lookup]
  | fetch lookup =>
    simp +decide only [Statement.lines, List.forall_mem_singleton, isOneLine_append,
      isOneLine_lookup]
  | convert field key =>
    simp +decide only [Statement.lines, List.forall_mem_singleton, isOneLine_append,
      isOneLine_convertText h]
  | remark text =>
    have htext : IsOneLine text := h
    simp +decide only [Statement.lines, List.forall_mem_singleton, isOneLine_append, htext]
  | demand tested message =>
    cases tested with
    | raw =>
      simp +decide only [Statement.lines, Tested.text, List.forall_mem_cons, isOneLine_failLine]
    | field field =>
      simp +decide only [Statement.lines, Tested.text, List.forall_mem_cons, isOneLine_append,
        isOneLine_failLine, IsFieldName.isOneLine h]
  | convertPresent field key =>
    simp +decide only [Statement.lines, List.forall_mem_cons, isOneLine_append,
      isOneLine_convertText h]
  | refuse comparison message =>
    simp +decide only [Statement.lines, List.forall_mem_cons, isOneLine_append,
      isOneLine_failLine, isOneLine_comparison h]

theorem toList_endLines_cons (line : String) (lines : List String) :
    (endLines (line :: lines)).toList = line.toList ++ '\n' :: (endLines lines).toList := by
  simp [toList_endLines]

theorem pieces_endLines_cons {line : String} (h : IsOneLine line) (lines : List String) :
    Text.pieces '\n' (endLines (line :: lines)).toList =
      line.toList :: Text.pieces '\n' (endLines lines).toList := by
  rw [toList_endLines_cons, Text.pieces_append h]

/-- A text of lines is cut into these lines, and nothing after the last line end. -/
theorem pieces_endLines {lines : List String} (h : ∀ line ∈ lines, IsOneLine line) :
    Text.pieces '\n' (endLines lines).toList = lines.map (·.toList) ++ [[]] := by
  induction lines with
  | nil => rfl
  | cons line lines ih =>
    rw [pieces_endLines_cons (h line List.mem_cons_self),
      ih fun l hl => h l (List.mem_cons_of_mem _ hl)]
    rfl

/-! ## Bodies are read back -/

theorem readLines_body {body : List Statement} (h : ∀ statement ∈ body, statement.IsReadable) :
    readLines ((body.flatMap Statement.lines).map (·.toList) ++ [answerLine.toList, []])
      = some body := by
  induction body with
  | nil => rfl
  | cons statement body ih =>
    rw [List.flatMap_cons, List.map_append, List.append_assoc,
      readLines_lines (h statement List.mem_cons_self),
      ih fun s hs => h s (List.mem_cons_of_mem _ hs)]
    rfl

/-- **A body whose statements can be read is read back from its text.** -/
theorem readBody_bodyText {body : List Statement} (h : ∀ statement ∈ body, statement.IsReadable) :
    readBody (bodyText body) = some body := by
  have hlines : ∀ line ∈ body.flatMap Statement.lines ++ [answerLine], IsOneLine line := by
    intro line hl
    rcases List.mem_append.mp hl with hl | hl
    · obtain ⟨statement, hs, hl⟩ := List.mem_flatMap.mp hl
      exact isOneLine_lines (h statement hs) line hl
    · rw [List.mem_singleton.mp hl]
      decide
  -- no line is cut in two, so the pieces of the text are the lines that were written
  rw [readBody, bodyText, pieces_endLines hlines, List.map_append, List.append_assoc]
  exact readLines_body h

/-- The text of such a body does what the body does. -/
theorem runText_bodyText {body : List Statement} (h : ∀ statement ∈ body, statement.IsReadable)
    (request : Request) (s : Struct pointer) :
    runText request s (bodyText body)
      = (runBody request ⟨s, none⟩ body).map fun outcome => (outcome.1.fields, outcome.2) := by
  rw [runText, readBody_bodyText h]
  rfl

end RequestBinding.Function
