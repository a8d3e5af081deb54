import RequestBinding.Text.CodePoints
import RequestBinding.Text.LetterCase
import RequestBinding.Text.Table.IdentifierStart
import RequestBinding.Text.Table.IdentifierContinue

/-!
# Characters of an identifier

An identifier starts with an underscore or a character of `XID_Start`; characters of `XID_Continue`
follow. ASCII is decided without the tables.
-/

namespace RequestBinding.Text

/-- The character may start an identifier. -/
def isIdentStart (c : Char) : Bool :=
  if c.toNat < 0x80 then isAsciiLetter c || c == '_' else Table.identifierStart.has c.toNat

/-- The character may stand in an identifier after its start. -/
def isIdentContinue (c : Char) : Bool :=
  if c.toNat < 0x80 then isAsciiAlphanumeric c || c == '_' else Table.identifierContinue.has c.toNat

/-- The text is an identifier. -/
def isIdent : List Char → Bool
  | [] => false
  | c :: cs => isIdentStart c && cs.all isIdentContinue

/-- The longest identifier at the start of a text, and the text after it. -/
def takeIdent : List Char → Option (List Char × List Char)
  | [] => none
  | c :: cs =>
    if isIdentStart c then some (c :: cs.takeWhile isIdentContinue, cs.dropWhile isIdentContinue)
    else none

theorem takeIdent_append {cs name rest : List Char} (h : takeIdent cs = some (name, rest)) :
    cs = name ++ rest := by
  cases cs with
  | nil => simp [takeIdent] at h
  | cons c cs =>
    simp only [takeIdent] at h
    split at h
    · simp only [Option.some.injEq, Prod.mk.injEq] at h
      rw [← h.1, ← h.2, List.cons_append, List.takeWhile_append_dropWhile]
    · simp at h

/-- What is taken is an identifier. -/
theorem isIdent_of_takeIdent {cs name rest : List Char} (h : takeIdent cs = some (name, rest)) :
    isIdent name = true := by
  cases cs with
  | nil => simp [takeIdent] at h
  | cons c cs =>
    simp only [takeIdent] at h
    split at h
    · next hc =>
      simp only [Option.some.injEq, Prod.mk.injEq] at h
      simp [← h.1, isIdent, hc]
    · simp at h

/-- An identifier ends before a character that none holds. -/
theorem takeIdent_before {cs name rest : List Char} (h : takeIdent cs = some (name, []))
    (hrest : ∀ c ∈ rest.head?, isIdentContinue c = false) :
    takeIdent (cs ++ rest) = some (name, rest) := by
  cases cs with
  | nil => simp [takeIdent] at h
  | cons c cs =>
    rw [takeIdent] at h
    split at h
    · next hc =>
      obtain ⟨hname, hnil⟩ := Prod.mk.inj (Option.some.inj h)
      have hall : cs.takeWhile isIdentContinue = cs := by
        have hsplit := List.takeWhile_append_dropWhile (p := isIdentContinue) (l := cs)
        rwa [hnil, List.append_nil] at hsplit
      have hstop : rest.takeWhile isIdentContinue = [] ∧ rest.dropWhile isIdentContinue = rest := by
        cases rest with
        | nil => exact ⟨rfl, rfl⟩
        | cons d rest => simp [hrest d rfl]
      rw [hall] at hname
      rw [List.cons_append, takeIdent, if_pos hc, List.takeWhile_append, List.dropWhile_append,
        hall, hnil, hstop.1, hstop.2, if_pos rfl, List.append_nil, hname]
      rfl
    · cases h

end RequestBinding.Text
