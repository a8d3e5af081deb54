import RequestBinding.Text.CodePoints
import RequestBinding.Text.Table.Hidden

/-!
# Quoted texts

A text in double quotes: the quote, the backslash, tab, carriage return, line feed and NUL have a
two-character form, and a character that does not show by itself is written by its number,
`\u{301}`. A single quote stands as it is.
-/

namespace RequestBinding.Text

/-- The lowercase hexadecimal digits of a number. -/
def hexDigits (n : Nat) : List Char := Nat.toDigits 16 n

/-- The character does not show by itself: a control, an unassigned code point, a combining mark. -/
def isHidden (c : Char) : Bool :=
  if c.toNat < 0x80 then c.toNat < 0x20 || c.toNat == 0x7F else Table.hidden.has c.toNat

/-- The number form of a character. -/
def numbered (c : Char) : List Char := '\\' :: 'u' :: '\x7b' :: hexDigits c.toNat ++ ['\x7d']

/-- The form of a character between double quotes. -/
def quoteChar (c : Char) : List Char :=
  match c with
  | '\x00' => ['\\', '0']
  | '\t' => ['\\', 't']
  | '\r' => ['\\', 'r']
  | '\n' => ['\\', 'n']
  | '"' => ['\\', '"']
  | '\\' => ['\\', '\\']
  | c => if isHidden c then numbered c else [c]

/-- The text between double quotes. -/
def quote (cs : List Char) : List Char := '"' :: cs.flatMap quoteChar ++ ['"']

/-- `quote` on strings. -/
def quoted (s : String) : String := String.ofList (quote s.toList)

theorem toList_quoted (s : String) : (quoted s).toList = quote s.toList := by
  simp [quoted]

theorem mem_hexDigits {n : Nat} {c : Char} (h : c ∈ hexDigits n) : ∃ d < 16, c = d.digitChar := by
  induction n using Nat.strongRecOn with
  | ind n ih =>
    rw [hexDigits, Nat.toDigits_eq_if (by decide)] at h
    split at h
    · next hn => exact ⟨n, hn, List.mem_singleton.mp h⟩
    · next hn =>
      rcases List.mem_append.mp h with h | h
      · exact ih (n / 16) (by omega) h
      · exact ⟨n % 16, Nat.mod_lt n (by decide), List.mem_singleton.mp h⟩

/-- No form of a character holds a line feed. -/
theorem newline_not_mem_quoteChar (c : Char) : '\n' ∉ quoteChar c := by
  have hnumbered : '\n' ∉ numbered c := by
    have hdigit : ∀ d < 16, '\n' ≠ d.digitChar := by decide
    intro hm
    simp only [numbered, List.cons_append, List.mem_cons, List.mem_append, List.not_mem_nil] at hm
    rcases hm with hm | hm | hm | hm | hm | hm
    · exact absurd hm (by decide)
    · exact absurd hm (by decide)
    · exact absurd hm (by decide)
    · obtain ⟨d, hd, he⟩ := mem_hexDigits hm
      exact hdigit d hd he
    · exact absurd hm (by decide)
    · exact hm
  unfold quoteChar
  split
  · decide
  · decide
  · decide
  · decide
  · decide
  · decide
  · next _ _ _ h _ _ =>
    split
    · exact hnumbered
    · exact fun hm => h (List.mem_singleton.mp hm).symm

/-- A quoted text stands on one line. -/
theorem newline_not_mem_quote (cs : List Char) : '\n' ∉ quote cs := by
  intro hm
  simp only [quote, List.cons_append, List.mem_cons, List.mem_append, List.not_mem_nil,
    or_false] at hm
  rcases hm with hm | hm | hm
  · exact absurd hm (by decide)
  · obtain ⟨c, -, hc⟩ := List.mem_flatMap.mp hm
    exact newline_not_mem_quoteChar c hc
  · exact absurd hm (by decide)

end RequestBinding.Text
