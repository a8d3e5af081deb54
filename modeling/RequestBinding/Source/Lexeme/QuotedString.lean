import RequestBinding.Source.Lexeme.StringValue
import RequestBinding.Text.Quoted

/-!
# Quoted texts as string literals

`Text.quote` writes a text as a string literal: `takeString` takes exactly what was written, whatever
follows, and the value of that literal is the text.
-/

namespace RequestBinding.Source.Lexeme

open Text

/-! ## Characters by their number -/

theorem hexValue?_digitChar {d : Nat} (h : d < 16) : hexValue? d.digitChar = some d := by
  revert d
  decide

/-- A hexadecimal digit counts as the last digit of the value. -/
theorem takeCode_digitChar {digits d : Nat} (hdigits : digits < 6) (hd : d < 16) (value : Nat)
    (cs : List Char) :
    takeCode digits value (d.digitChar :: cs)
      = (takeCode (digits + 1) (value * 16 + d) cs).map fun found =>
          (found.1, found.2.cons [d.digitChar]) := by
  simp only [takeCode, hexValue?_digitChar hd, if_pos hdigits]

/-- The digits of a number make its value. -/
theorem takeCode_toDigits (n digits : Nat) (cs : List Char)
    (h : digits + (Nat.toDigits 16 n).length ≤ 6) :
    takeCode digits 0 (Nat.toDigits 16 n ++ cs)
      = (takeCode (digits + (Nat.toDigits 16 n).length) n cs).map fun found =>
          (found.1, found.2.cons (Nat.toDigits 16 n)) := by
  induction n using Nat.strongRecOn generalizing cs with
  | ind n ih =>
    by_cases hn : n < 16
    · rw [Nat.toDigits_of_lt_base hn] at h ⊢
      have hdigit := takeCode_digitChar (Nat.lt_of_succ_le h) hn 0 cs
      rwa [Nat.zero_mul, Nat.zero_add] at hdigit
    · have hsplit := Nat.toDigits_of_base_le (b := 16) (n := n) (by decide) (by omega)
      have hmod : n % 16 < 16 := Nat.mod_lt n (by decide)
      have hvalue : n / 16 * 16 + n % 16 = n := by omega
      rw [hsplit] at h ⊢
      simp only [List.length_append, List.length_singleton] at h ⊢
      rw [List.append_assoc, List.singleton_append, ih (n / 16) (by omega) _ (by omega),
        takeCode_digitChar (by omega) hmod, hvalue, Option.map_map, Nat.add_assoc]
      congr 1
      funext found
      simp [Cut.cons]

theorem charOfCode?_toNat (c : Char) : charOfCode? c.toNat = some c := by
  have h : c.toNat.isValidChar := c.valid
  have hc := Char.ofNat_toNat c
  rw [Char.ofNat, dif_pos h] at hc
  rw [charOfCode?, dif_pos h, hc]

/-- A number in braces is read as the character it is the number of. -/
theorem takeCode_hexDigits (c : Char) (cs : List Char) :
    takeCode 0 0 (hexDigits c.toNat ++ '\x7d' :: cs)
      = some (c, hexDigits c.toNat ++ ['\x7d'], cs) := by
  have hbound : c.toNat < 16 ^ 6 := by
    have hvalid : c.toNat.isValidChar := c.valid
    unfold Nat.isValidChar at hvalid
    omega
  have hlength : (Nat.toDigits 16 c.toNat).length ≤ 6 :=
    (Nat.length_toDigits_le_iff (by decide) (by decide)).mpr hbound
  have hpos : (Nat.toDigits 16 c.toNat).length ≠ 0 := by simp
  have hvalue : hexValue? '\x7d' = none := by decide
  have hunderscore : ¬('\x7d' = '_') := by decide
  rw [hexDigits, takeCode_toDigits _ _ _ (by omega), takeCode]
  simp only [hvalue, Nat.zero_add, if_neg hpos, if_neg hunderscore, if_true,
    charOfCode?_toNat, Option.map_some, Cut.cons]

/-! ## Quoted characters -/

/-- The character stands for itself in a cooked string, whatever follows it. -/
structure IsPlain (c : Char) : Prop where
  not_quote : c ≠ '"'
  not_backslash : c ≠ '\\'
  not_return : c ≠ '\r'

theorem takeCooked_plain {c : Char} (h : IsPlain c) (cs : List Char) :
    takeCooked .anything (c :: cs) = (takeCooked .anything cs).map (Cut.cons [c]) := by
  rw [takeCooked]
  · rfl
  · exact h.not_quote
  · exact fun _ h1 _ => h.not_return h1
  · exact h.not_return
  · exact fun _ h1 _ => h.not_backslash h1
  · exact fun _ h1 _ => h.not_backslash h1
  · exact fun _ _ h1 _ => h.not_backslash h1

theorem cookedValue_plain {c : Char} (h : IsPlain c) (cs : List Char) :
    cookedValue (c :: cs) = c :: cookedValue cs := by
  rw [cookedValue]
  · exact h.not_quote
  · exact fun _ h1 _ => h.not_return h1
  · exact fun _ _ h1 _ => h.not_backslash h1

theorem takeCooked_plain_append {plain : List Char} (h : ∀ c ∈ plain, IsPlain c) (cs : List Char) :
    takeCooked .anything (plain ++ cs) = (takeCooked .anything cs).map (Cut.cons plain) := by
  induction plain with
  | nil =>
    rw [List.nil_append]
    cases takeCooked .anything cs <;> rfl
  | cons c plain ih =>
    rw [List.cons_append, takeCooked_plain (h c List.mem_cons_self),
      ih fun d hd => h d (List.mem_cons_of_mem _ hd), Option.map_map]
    rfl

theorem isPlain_of_mem_hexDigits {n : Nat} {c : Char} (h : c ∈ hexDigits n) : IsPlain c := by
  have hdigit : ∀ d < 16, d.digitChar ≠ '"' ∧ d.digitChar ≠ '\\' ∧ d.digitChar ≠ '\r' := by
    decide
  obtain ⟨d, hd, rfl⟩ := mem_hexDigits h
  obtain ⟨h1, h2, h3⟩ := hdigit d hd
  exact ⟨h1, h2, h3⟩

/--
The form of a character is read as the character: it is the character itself, or an escape that
stands for it.
-/
inductive IsFormOf (c : Char) : List Char → Prop
  | plain : IsPlain c → IsFormOf c [c]
  | escape {letter : Char} {digits : List Char} :
    letter ≠ '\n' → letter ≠ '\r' → (∀ d ∈ digits, IsPlain d) →
    (∀ cs, takeEscape .anything (letter :: digits ++ cs) = some (c, letter :: digits, cs)) →
      IsFormOf c ('\\' :: letter :: digits)

theorem isFormOf_numbered (c : Char) : IsFormOf c (numbered c) := by
  have hplain : ∀ d ∈ '\x7b' :: hexDigits c.toNat ++ ['\x7d'], IsPlain d := by
    intro d hd
    rcases List.mem_append.mp hd with hd | hd
    · rcases List.mem_cons.mp hd with rfl | hd
      · exact ⟨by decide, by decide, by decide⟩
      · exact isPlain_of_mem_hexDigits hd
    · rw [List.mem_singleton.mp hd]
      exact ⟨by decide, by decide, by decide⟩
  refine .escape (by decide) (by decide) hplain fun cs => ?_
  show takeEscape .anything ('u' :: '\x7b' :: (hexDigits c.toNat ++ ['\x7d'] ++ cs)) = _
  rw [List.append_assoc, List.singleton_append, takeEscape, takeCode_hexDigits]
  rfl

theorem isFormOf_simple {c letter : Char} (h1 : letter ≠ '\n') (h2 : letter ≠ '\r')
    (h : ∀ cs, takeEscape .anything (letter :: cs) = some (c, [letter], cs)) :
    IsFormOf c ['\\', letter] :=
  .escape h1 h2 (fun _ hd => absurd hd List.not_mem_nil) h

theorem isFormOf_quoteChar (c : Char) : IsFormOf c (quoteChar c) := by
  unfold quoteChar
  split
  · exact isFormOf_simple (by decide) (by decide) fun _ => rfl
  · exact isFormOf_simple (by decide) (by decide) fun _ => rfl
  · exact isFormOf_simple (by decide) (by decide) fun _ => rfl
  · exact isFormOf_simple (by decide) (by decide) fun _ => rfl
  · exact isFormOf_simple (by decide) (by decide) fun _ => rfl
  · exact isFormOf_simple (by decide) (by decide) fun _ => rfl
  · next h1 h2 h3 h4 h5 h6 =>
    split
    · exact isFormOf_numbered c
    · exact .plain ⟨h5, h6, h3⟩

/-! ## Quoted texts -/

/-- A form is taken from a cooked string as a whole. -/
theorem takeCooked_form {c : Char} {form : List Char} (h : IsFormOf c form) (cs : List Char) :
    takeCooked .anything (form ++ cs) = (takeCooked .anything cs).map (Cut.cons form) := by
  cases h with
  | plain h => exact takeCooked_plain h cs
  | @escape letter digits h1 h2 hplain hread =>
    rw [List.cons_append, List.cons_append, takeCooked]
    · have hsome : (takeEscape .anything (letter :: (digits ++ cs))).isSome = true := by
        rw [← List.cons_append, hread]
        rfl
      rw [if_pos hsome, takeCooked_plain_append hplain, Option.map_map]
      rfl
    · exact h1
    · exact fun _ h _ => h2 h

/-- A form has the value of its character. -/
theorem cookedValue_form {c : Char} {form : List Char} (h : IsFormOf c form) (cs : List Char) :
    cookedValue (form ++ cs) = c :: cookedValue cs := by
  cases h with
  | plain h => exact cookedValue_plain h cs
  | @escape letter digits h1 h2 _ hread =>
    have hletter : ¬(letter = '\n' || letter = '\r') = true := by simp [h1, h2]
    rw [List.cons_append, List.cons_append, cookedValue, if_neg hletter, ← List.cons_append, hread]
    simp

theorem takeCooked_quoted (cs rest : List Char) :
    takeCooked .anything (cs.flatMap quoteChar ++ '"' :: rest)
      = some (cs.flatMap quoteChar ++ ['"'], rest) := by
  induction cs with
  | nil => rfl
  | cons c cs ih =>
    rw [List.flatMap_cons, List.append_assoc, takeCooked_form (isFormOf_quoteChar c), ih,
      List.append_assoc]
    rfl

theorem cookedValue_quoted (cs rest : List Char) :
    cookedValue (cs.flatMap quoteChar ++ '"' :: rest) = cs := by
  induction cs with
  | nil => simp [cookedValue]
  | cons c cs ih =>
    rw [List.flatMap_cons, List.append_assoc, cookedValue_form (isFormOf_quoteChar c), ih]

/-- A quoted text is taken as one string literal, whatever follows its closing quote. -/
theorem takeString_quote (cs rest : List Char) :
    takeString (quote cs ++ rest) = some (quote cs, rest) := by
  have htext : quote cs ++ rest = '"' :: (cs.flatMap quoteChar ++ '"' :: rest) := by simp [quote]
  rw [htext, takeString, takeCooked_quoted]
  simp [quote, Cut.cons]

/-- **The value of a quoted text is the text.** -/
theorem stringValue_quote (cs : List Char) : stringValue (quote cs) = cs := by
  have htext : quote cs = '"' :: (cs.flatMap quoteChar ++ ['"']) := rfl
  rw [htext, stringValue, cookedValue_quoted]

end RequestBinding.Source.Lexeme
