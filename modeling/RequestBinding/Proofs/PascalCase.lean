import RequestBinding.Proofs.SnakeCase
import RequestBinding.Text.Pieces

/-!
# Snake case of names in Pascal case

A name in Pascal case is made of words whose first letters are capital. Snake case finds the words
again: inside a name, a capital letter follows a lowercase letter or a digit, as no word has one
character only. So no two such names have the same snake case form.

## Main statements

* `snakeFrom_capitalized` — one word, behind the last character of the word before it.
* `snake_flatMap_capitalized` — all words of a name.
* `toSnakeCase_pascalCase` — a name is read back by its words, and is told from all others.
-/

namespace RequestBinding.Text

/-! ## Words -/

/-- What may follow the first letter of a word. -/
def IsWordTail (c : Char) : Prop := 'a' ≤ c ∧ c ≤ 'z' ∨ '0' ≤ c ∧ c ≤ '9'

/-- A word in lowercase: a letter of ASCII, then one or more letters and digits of ASCII. -/
structure IsLowerWord (word : List Char) : Prop where
  two_le : 2 ≤ word.length
  first : ∀ c ∈ word.head?, 'a' ≤ c ∧ c ≤ 'z'
  more : ∀ c ∈ word.tail, IsWordTail c

/-- The word with a capital letter at its start. -/
def capitalized : List Char → List Char
  | [] => []
  | c :: cs => c.toUpper :: cs

theorem IsLowerWord.exists_cons {word : List Char} (h : IsLowerWord word) :
    ∃ c tail, word = c :: tail ∧ ('a' ≤ c ∧ c ≤ 'z') ∧ tail ≠ [] ∧ ∀ d ∈ tail, IsWordTail d := by
  obtain ⟨htwo, hfirst, hmore⟩ := h
  cases word with
  | nil => simp at htwo
  | cons c tail =>
    refine ⟨c, tail, rfl, hfirst c rfl, ?_, hmore⟩
    rintro rfl
    simp at htwo

/-! ## Characters -/

/-- A fact about the letters from `a` to `z` is one about their 26 codes. -/
theorem of_forall_lower {P : Char → Prop} (hall : ∀ n ∈ List.range 26, P (Char.ofNat (97 + n)))
    {c : Char} (h : 'a' ≤ c ∧ c ≤ 'z') : P c := by
  have hlow : 97 ≤ c.toNat := h.1
  have hhigh : c.toNat ≤ 122 := h.2
  exact of_forall_code 97 26 hall hlow (by omega)

theorem isUpper_toUpper {c : Char} (h : 'a' ≤ c ∧ c ≤ 'z') : isUpper c.toUpper = true :=
  of_forall_lower (P := fun c => isUpper c.toUpper = true) (by decide) h

theorem lowercase_toUpper {c : Char} (h : 'a' ≤ c ∧ c ≤ 'z') : lowercase c.toUpper = [c] :=
  of_forall_lower (P := fun c => lowercase c.toUpper = [c]) (by decide) h

/-- What follows the first letter of a word has no capital letter and no separator in it, and is
what a word can start behind. -/
theorem IsWordTail.facts {c : Char} (h : IsWordTail c) :
    IsSettled c ∧ c ≠ '_' ∧ (isLower c || isAsciiDigit c) = true := by
  rcases h with hlower | ⟨hlow, hhigh⟩
  · exact of_forall_lower (P := fun c => IsSettled c ∧ c ≠ '_' ∧
      (isLower c || isAsciiDigit c) = true) (by decide) hlower
  · have hlow : 48 ≤ c.toNat := hlow
    have hhigh : c.toNat ≤ 57 := hhigh
    exact of_forall_code (P := fun c => IsSettled c ∧ c ≠ '_' ∧
      (isLower c || isAsciiDigit c) = true) 48 10 (by decide) hlow (by omega)

theorem startsWord_of_isWordTail {p : Char} (h : IsWordTail p) (next : Option Char) :
    startsWord (some p) next = true := by
  show (isLower p || isAsciiDigit p || isUpper p && next.any isLower) = true
  rw [h.facts.2.2, Bool.true_or]

theorem IsLowerWord.underscore_not_mem {word : List Char} (h : IsLowerWord word) : '_' ∉ word := by
  obtain ⟨c, tail, rfl, hc, -, htail⟩ := h.exists_cons
  intro hmem
  rcases List.mem_cons.mp hmem with rfl | hmem
  · exact absurd hc (by decide)
  · exact (htail _ hmem).facts.2.1 rfl

/-! ## Names -/

/-- What follows the first letter stays as it is, and its last character is remembered. -/
theorem snakeFrom_tail {tail : List Char} (hne : tail ≠ []) (h : ∀ c ∈ tail, IsWordTail c)
    (previous written : Option Char) (rest : List Char) :
    snakeFrom previous written (tail ++ rest)
      = tail ++ snakeFrom (some (tail.getLast hne)) (some (tail.getLast hne)) rest := by
  induction tail generalizing previous written with
  | nil => exact absurd rfl hne
  | cons c cs ih =>
    rw [List.cons_append, snakeFrom, snakePiece_of_settled (h c List.mem_cons_self).facts.1]
    show c :: snakeFrom (some c) (some c) (cs ++ rest) = _
    cases cs with
    | nil => rfl
    | cons d ds =>
      rw [ih (List.cons_ne_nil d ds) fun e he => h e (List.mem_cons_of_mem _ he),
        List.getLast_cons (List.cons_ne_nil d ds)]
      rfl

/-- **One word.** At the start of a name the word is written, behind another word it is set off by
an underscore; in both cases its last character is what the next word has before it. -/
theorem snakeFrom_capitalized {word : List Char} (h : IsLowerWord word) (rest : List Char) :
    ∃ last, IsWordTail last ∧
      snakeFrom none none (capitalized word ++ rest)
        = word ++ snakeFrom (some last) (some last) rest ∧
      ∀ p, IsWordTail p → snakeFrom (some p) (some p) (capitalized word ++ rest)
        = '_' :: word ++ snakeFrom (some last) (some last) rest := by
  obtain ⟨c, tail, rfl, hc, hne, htail⟩ := h.exists_cons
  refine ⟨tail.getLast hne, htail _ (List.getLast_mem hne), ?_, fun p hp => ?_⟩
  · have hpiece (next : Option Char) : snakePiece none none c.toUpper next = [c] := by
      simp [snakePiece, isUpper_toUpper hc, lowercase_toUpper hc, startsWord]
    rw [capitalized, List.cons_append, snakeFrom, hpiece]
    show c :: snakeFrom _ _ (tail ++ rest) = _
    rw [snakeFrom_tail hne htail]
    rfl
  · have hpiece (next : Option Char) : snakePiece (some p) (some p) c.toUpper next = ['_', c] := by
      simp [snakePiece, isUpper_toUpper hc, lowercase_toUpper hc, startsWord_of_isWordTail hp next,
        hp.facts.2.1]
    rw [capitalized, List.cons_append, snakeFrom, hpiece]
    show '_' :: c :: snakeFrom _ _ (tail ++ rest) = _
    rw [snakeFrom_tail hne htail]
    rfl

theorem snakeFrom_flatMap_capitalized {words : List (List Char)}
    (h : ∀ word ∈ words, IsLowerWord word) {p : Char} (hp : IsWordTail p) :
    snakeFrom (some p) (some p) (words.flatMap capitalized) = words.flatMap ('_' :: ·) := by
  induction words generalizing p with
  | nil => rfl
  | cons word more ih =>
    obtain ⟨last, hlast, -, hword⟩ :=
      snakeFrom_capitalized (h word List.mem_cons_self) (more.flatMap capitalized)
    rw [List.flatMap_cons, hword p hp, ih (fun w hw => h w (List.mem_cons_of_mem _ hw)) hlast,
      List.flatMap_cons]

theorem intercalate_underscore (word : List Char) (more : List (List Char)) :
    ['_'].intercalate (word :: more) = word ++ more.flatMap ('_' :: ·) := by
  induction more generalizing word with
  | nil => simp
  | cons next more ih =>
    rw [List.intercalate_cons_cons, ih, List.flatMap_cons, List.append_assoc]
    rfl

/-- **All words.** Snake case of a name in Pascal case is its words, joined by underscores. -/
theorem snake_flatMap_capitalized {words : List (List Char)} (hne : words ≠ [])
    (h : ∀ word ∈ words, IsLowerWord word) :
    snake (words.flatMap capitalized) = ['_'].intercalate words := by
  obtain ⟨word, more, rfl⟩ := List.exists_cons_of_ne_nil hne
  obtain ⟨last, hlast, hword, -⟩ :=
    snakeFrom_capitalized (h word List.mem_cons_self) (more.flatMap capitalized)
  rw [snake, List.flatMap_cons, hword,
    snakeFrom_flatMap_capitalized (fun w hw => h w (List.mem_cons_of_mem _ hw)) hlast,
    intercalate_underscore]

/-- Words joined by underscores are found again. -/
theorem pieces_intercalate_words {words : List (List Char)} (hne : words ≠ [])
    (h : ∀ word ∈ words, IsLowerWord word) : pieces '_' (['_'].intercalate words) = words := by
  rw [pieces_intercalate hne]
  clear hne
  induction words with
  | nil => rfl
  | cons word more ih =>
    rw [List.flatMap_cons, pieces_of_not_mem (h word List.mem_cons_self).underscore_not_mem,
      ih fun w hw => h w (List.mem_cons_of_mem _ hw)]
    rfl

/-- The name in Pascal case that has these words. -/
def pascalCase (words : List String) : String :=
  String.ofList ((words.map String.toList).flatMap capitalized)

theorem toList_toSnakeCase_pascalCase {words : List String} (hne : words ≠ [])
    (h : ∀ word ∈ words, IsLowerWord word.toList) :
    (toSnakeCase (pascalCase words)).toList = ['_'].intercalate (words.map String.toList) := by
  rw [toSnakeCase, pascalCase, String.toList_ofList, String.toList_ofList]
  exact snake_flatMap_capitalized (by simpa using hne) (by simpa using h)

/-- The words stand between the underscores of the form. -/
theorem pieces_toSnakeCase_pascalCase {words : List String} (hne : words ≠ [])
    (h : ∀ word ∈ words, IsLowerWord word.toList) :
    pieces '_' (toSnakeCase (pascalCase words)).toList = words.map String.toList := by
  rw [toList_toSnakeCase_pascalCase hne h]
  exact pieces_intercalate_words (by simpa using hne) (by simpa using h)

/-- **Snake case undoes Pascal case.** The form of a name that is made of words is these words,
joined by underscores, and it is the form of no other such name. -/
theorem toSnakeCase_pascalCase {words : List String} (hwords : words ≠ [])
    (hw : ∀ word ∈ words, IsLowerWord word.toList) :
    toSnakeCase (pascalCase words) = "_".intercalate words ∧
    ∀ others : List String, others ≠ [] → (∀ word ∈ others, IsLowerWord word.toList) →
      toSnakeCase (pascalCase words) = toSnakeCase (pascalCase others) →
      pascalCase words = pascalCase others := by
  constructor
  · refine String.toList_injective ?_
    rw [toList_toSnakeCase_pascalCase hwords hw, String.toList_intercalate]
    rfl
  · intro others hothers ho hsame
    have hpieces := pieces_toSnakeCase_pascalCase hwords hw
    rw [hsame, pieces_toSnakeCase_pascalCase hothers ho] at hpieces
    rw [pascalCase, pascalCase, hpieces]

/-- Words of two characters and words that end in digits are found again, and set this name apart
from the one that has a word less. -/
theorem toSnakeCase_pascalCase_digits :
    (∀ word ∈ ["go", "h2", "v10", "id"], IsLowerWord word.toList) ∧
    toSnakeCase (pascalCase ["go", "h2", "v10", "id"]) = "go_h2_v10_id" ∧
    toSnakeCase (pascalCase ["go", "h2", "v10", "id"])
      ≠ toSnakeCase (pascalCase ["go", "h2", "id"]) := by
  have hw : ∀ word ∈ ["go", "h2", "v10", "id"], IsLowerWord word.toList := by
    simp only [List.forall_mem_cons]
    refine ⟨⟨?_, ?_, ?_⟩, ⟨?_, ?_, ?_⟩, ⟨?_, ?_, ?_⟩, ⟨?_, ?_, ?_⟩, by simp⟩ <;>
      simp [IsWordTail]
  have hsubset : ["go", "h2", "id"] ⊆ ["go", "h2", "v10", "id"] := by simp
  have hless : ∀ word ∈ ["go", "h2", "id"], IsLowerWord word.toList := fun word hword =>
    hw word (hsubset hword)
  obtain ⟨hform, hothers⟩ := toSnakeCase_pascalCase (List.cons_ne_nil _ _) hw
  refine ⟨hw, hform, fun hsame => ?_⟩
  have hnames := hothers ["go", "h2", "id"] (List.cons_ne_nil _ _) hless hsame
  exact absurd hnames (by decide)

end RequestBinding.Text
