import RequestBinding.Text.Identifier

/-!
# Words

A word of a source is an identifier in the lexical sense, so also a keyword. A raw word is written
after `r#` and is a name even where the plain word is a keyword.

`Word.take` reads a word from the start of a text. That its name is an identifier is part of the
type, so whatever names a declaration can name something else as well.
-/

namespace RequestBinding.Source

open Text

structure Word where
  raw : Bool
  name : String
  isIdent : isIdent name.toList = true
deriving Repr, DecidableEq

namespace Word

/-- The word as written. -/
def text (word : Word) : String := if word.raw then "r#" ++ word.name else word.name

/-- It is this plain word. -/
def isPlain (word : Word) (text : String) : Bool := !word.raw && word.name == text

def underscore : Word := ⟨false, "_", by decide⟩

def doc : Word := ⟨false, "doc", by decide⟩

/-! ## Names -/

/-- The words that are no names, unless they are raw. -/
def keywords : List String := [
  "_", "abstract", "as", "async", "await", "become", "box", "break", "const", "continue", "crate",
  "do", "dyn", "else", "enum", "extern", "false", "final", "fn", "for", "if", "impl", "in", "let",
  "loop", "macro", "match", "mod", "move", "mut", "override", "priv", "pub", "ref", "return",
  "Self", "self", "static", "struct", "super", "trait", "true", "try", "type", "typeof", "unsafe",
  "unsized", "use", "virtual", "where", "while", "yield"]

/-- The word is a name. -/
def isName (word : Word) : Bool := word.raw || !keywords.contains word.name

/-! ## Reading -/

/-- Words that have no raw form. -/
def neverRaw : List String := ["_", "super", "self", "Self", "crate"]

/-- The longest identifier as a word, and what follows. -/
def takeName (raw : Bool) (cs : List Char) : Option (Word × List Char) :=
  match h : takeIdent cs with
  | none => none
  | some (name, rest) =>
    some (⟨raw, String.ofList name, by simpa using isIdent_of_takeIdent h⟩, rest)

/-- The word at the start of a text, and what follows. -/
def take : List Char → Option (Word × List Char)
  | 'r' :: '#' :: cs => (takeName true cs).filter fun found => !neverRaw.contains found.1.name
  | cs => takeName false cs

theorem takeName_append {raw : Bool} {cs rest : List Char} {word : Word}
    (h : takeName raw cs = some (word, rest)) :
    cs = word.name.toList ++ rest ∧ word.raw = raw := by
  unfold takeName at h
  split at h
  · cases h
  · next name rest' htake =>
    cases h
    exact ⟨by rw [String.toList_ofList, ← takeIdent_append htake], rfl⟩

theorem takeName_before {raw : Bool} {cs rest : List Char} {word : Word}
    (h : takeName raw cs = some (word, []))
    (hrest : ∀ c ∈ rest.head?, isIdentContinue c = false) :
    takeName raw (cs ++ rest) = some (word, rest) := by
  unfold takeName at h
  split at h
  · cases h
  · next name rest' htake =>
    cases h
    have hbefore := takeIdent_before htake hrest
    unfold takeName
    split
    · next hnone => rw [hbefore] at hnone; cases hnone
    · next hsome => rw [hbefore] at hsome; cases hsome; rfl

/-- A word is taken as it is written. -/
theorem text_of_take {cs rest : List Char} {word : Word} (h : take cs = some (word, rest)) :
    cs = word.text.toList ++ rest := by
  unfold take at h
  split at h
  · next more =>
    obtain ⟨h, -⟩ := Option.filter_eq_some_iff.mp h
    obtain ⟨hmore, hraw⟩ := takeName_append h
    rw [hmore, text, hraw, if_pos rfl, String.toList_append]
    rfl
  · obtain ⟨hcs, hraw⟩ := takeName_append h
    rw [text, hraw, if_neg (by decide)]
    exact hcs

/-- The character ends a word before it. -/
def isStop (c : Char) : Bool := !isIdentContinue c && c != '#'

/-- A word ends before a character that stops it. -/
theorem take_before {cs : List Char} {c : Char} {word : Word} (h : take cs = some (word, []))
    (hc : isStop c = true) (rest : List Char) : take (cs ++ c :: rest) = some (word, c :: rest) := by
  obtain ⟨hcontinue, hhash⟩ : isIdentContinue c = false ∧ c ≠ '#' := by
    simpa [isStop] using hc
  have hstop : ∀ d ∈ (c :: rest).head?, isIdentContinue d = false := by
    rintro d ⟨⟩
    exact hcontinue
  unfold take at h
  split at h
  · next more =>
    obtain ⟨h, hraw⟩ := Option.filter_eq_some_iff.mp h
    show (takeName true (more ++ c :: rest)).filter _ = _
    rw [takeName_before h hstop]
    exact Option.filter_eq_some_iff.mpr ⟨rfl, hraw⟩
  · next hplain =>
    rw [take, takeName_before h hstop]
    -- the text after an `r` does not start with the stop
    intro more hmore
    match cs with
    | [] => cases h
    | [_] => exact hhash (List.cons.inj (List.cons.inj hmore).2).1
    | a :: b :: cs =>
      obtain ⟨rfl, htail⟩ := List.cons.inj hmore
      obtain ⟨rfl, -⟩ := List.cons.inj htail
      exact hplain cs rfl

/-- A word is written with the characters of identifiers, and with `#` if it is raw. -/
theorem mem_text {word : Word} {c : Char} (h : c ∈ word.text.toList) :
    c = '#' ∨ isIdentStart c = true ∨ isIdentContinue c = true := by
  have hname : c ∈ word.name.toList → isIdentStart c = true ∨ isIdentContinue c = true := by
    have hident := word.isIdent
    intro hm
    cases hlist : word.name.toList with
    | nil => rw [hlist] at hm; cases hm
    | cons d cs =>
      rw [hlist] at hm hident
      obtain ⟨hstart, hcontinue⟩ := Bool.and_eq_true_iff.mp hident
      rcases List.mem_cons.mp hm with rfl | hm
      · exact .inl hstart
      · exact .inr (List.all_eq_true.mp hcontinue _ hm)
  rw [text] at h
  split at h
  · rw [String.toList_append] at h
    rcases List.mem_append.mp h with h | h
    · obtain rfl | rfl : c = 'r' ∨ c = '#' := by simpa using h
      · exact .inr (.inl (by decide))
      · exact .inl rfl
    · exact .inr (hname h)
  · exact .inr (hname h)

/-- A word stands on one line. -/
theorem newline_not_mem_text (word : Word) : '\n' ∉ word.text.toList := fun h => by
  rcases mem_text h with h | h | h <;> revert h <;> decide

end Word

end RequestBinding.Source
