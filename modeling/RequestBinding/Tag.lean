/-!
# Tags

The tag of a field is a text of pairs `key:"value"`. `Tag.pairs` reads the pairs from
the start of a text until no further pair can be read; `Tag.lookup` is the value of the first
pair with a key.

## The form of a pair

Zero or more spaces, a key of at least one character, `:"`, a body, and a closing quote. A body is a
sequence of units: a backslash with the character after it, or a single character that is neither a
backslash nor a quote. The value is the body with every backslash unit replaced by its second
character. `PairForm` says this as data, apart from the readers; `readPair_form` reads it back.

## Termination

No fuel: a step with a pair takes at least its key from the text (`readPair_length`, `next_length`).
-/

namespace RequestBinding

/-- A pair of a tag. -/
structure Pair where
  key : List Char
  value : List Char
deriving Repr, DecidableEq

namespace Tag

/-! ## Keys -/

/-- A character that may stand in a key: above the space, and no colon, quote or delete. -/
def isKeyChar (c : Char) : Bool := ' ' < c && c != ':' && c != '"' && c != '\x7f'

/-- The key at the start of a text and the text after it. -/
def splitKey (cs : List Char) : List Char × List Char :=
  (cs.takeWhile isKeyChar, cs.dropWhile isKeyChar)

/-! ## Bodies -/

/-- The body up to the next quote that no backslash precedes, and the text after that quote. -/
def takeBody : List Char → Option (List Char × List Char)
  | [] => none
  | '"' :: rest => some ([], rest)
  | ['\\'] => none
  | '\\' :: c :: rest => (takeBody rest).map fun r => ('\\' :: c :: r.1, r.2)
  | c :: rest => (takeBody rest).map fun r => (c :: r.1, r.2)

/-- The value of a body: each backslash gives way to the character after it. -/
def unescape : List Char → List Char
  | [] => []
  | ['\\'] => []
  | '\\' :: c :: rest => c :: unescape rest
  | c :: rest => c :: unescape rest

/-- A body and its closing quote are taken from the text. -/
theorem takeBody_length {cs : List Char} {r : List Char × List Char} (h : takeBody cs = some r) :
    r.2.length < cs.length := by
  fun_induction takeBody cs generalizing r with
  | case1 => simp at h
  | case2 rest => simp at h; simp [← h]
  | case3 => simp at h
  | case4 c rest ih =>
    obtain ⟨s, hs, rfl⟩ := Option.map_eq_some_iff.mp h
    have := ih hs
    simp only [List.length_cons]; omega
  | case5 c rest _ _ _ ih =>
    obtain ⟨s, hs, rfl⟩ := Option.map_eq_some_iff.mp h
    have := ih hs
    simp only [List.length_cons]; omega

/-! ## Pairs -/

/-- The text without the spaces at its start. -/
def skipSpaces (cs : List Char) : List Char := cs.dropWhile (· == ' ')

/-- The pair at the start of a text and the text after it. -/
def readPair (cs : List Char) : Option (Pair × List Char) :=
  match splitKey (skipSpaces cs) with
  | (c :: key, ':' :: '"' :: rest) =>
    (takeBody rest).map fun r => (⟨c :: key, unescape r.1⟩, r.2)
  | _ => none

/-- A pair is taken from the text. -/
theorem readPair_length {cs : List Char} {r : Pair × List Char} (h : readPair cs = some r) :
    r.2.length < cs.length := by
  unfold readPair at h
  split at h
  · next c key rest hk =>
    obtain ⟨s, hs, rfl⟩ := Option.map_eq_some_iff.mp h
    have h1 := takeBody_length hs
    have h2 : ((skipSpaces cs).dropWhile isKeyChar).length ≤ (skipSpaces cs).length :=
      (List.dropWhile_suffix _).length_le
    have h3 : (skipSpaces cs).length ≤ cs.length := (List.dropWhile_suffix _).length_le
    have h4 : (skipSpaces cs).dropWhile isKeyChar = ':' :: '"' :: rest := (Prod.mk.inj hk).2
    rw [h4] at h2
    simp only [List.length_cons] at h2
    simp only
    omega
  · simp at h

/-- One step of a scan: the pair at the start of a text, and the text that is left for the next
step. Where no pair can be read, nothing is left. -/
def next (cs : List Char) : Option Pair × List Char :=
  match readPair cs with
  | some (pair, rest) => (some pair, rest)
  | none => (none, [])

theorem next_of_none {cs : List Char} (h : readPair cs = none) : next cs = (none, []) := by
  rw [next, h]

theorem next_of_some {cs rest : List Char} {pair : Pair} (h : readPair cs = some (pair, rest)) :
    next cs = (some pair, rest) := by
  rw [next, h]

/-- A step with a pair takes it from the text. -/
theorem next_length {cs rest : List Char} {pair : Pair} (h : next cs = (some pair, rest)) :
    rest.length < cs.length := by
  cases hread : readPair cs with
  | none => simp [next_of_none hread] at h
  | some r =>
    rw [next_of_some hread] at h
    cases h
    exact readPair_length hread

/-- The pairs of a text, step by step until no further pair can be read. -/
def pairs (cs : List Char) : List Pair :=
  match _h : next cs with
  | (none, _) => []
  | (some pair, rest) => pair :: pairs rest
termination_by cs.length
decreasing_by exact next_length _h

theorem pairs_of_none {cs : List Char} (h : readPair cs = none) : pairs cs = [] := by
  rw [pairs]
  split
  · rfl
  · next h' => rw [next_of_none h] at h'; exact absurd h' (by simp)

theorem pairs_of_some {cs rest : List Char} {pair : Pair} (h : readPair cs = some (pair, rest)) :
    pairs cs = pair :: pairs rest := by
  rw [pairs]
  split
  · next h' => rw [next_of_some h] at h'; exact absurd h' (by simp)
  · next h' => rw [next_of_some h] at h'; cases h'; rfl

/-- The value of the first pair with this key. -/
def lookup (tag key : List Char) : Option (List Char) :=
  ((pairs tag).find? (·.key == key)).map (·.value)

/-! ## Forms of pairs -/

/-- A unit of a body: a character that stands for itself, or a character after a backslash. -/
inductive BodyUnit where
  | plain (c : Char) (bare : c ≠ '"' ∧ c ≠ '\\')
  | escaped (c : Char)

namespace BodyUnit

/-- What a unit is written as. -/
def text : BodyUnit → List Char
  | plain c _ => [c]
  | escaped c => ['\\', c]

/-- The character of the value that a unit stands for. -/
def char : BodyUnit → Char
  | plain c _ => c
  | escaped c => c

/-- The unit that is written for a character. -/
def ofChar (c : Char) : BodyUnit :=
  if bare : c ≠ '"' ∧ c ≠ '\\' then plain c bare else escaped c

@[simp] theorem char_ofChar (c : Char) : (ofChar c).char = c := by
  unfold ofChar
  split <;> rfl

end BodyUnit

/-- The text may be a key. -/
structure IsKey (key : List Char) : Prop where
  ne_nil : key ≠ []
  chars : ∀ c ∈ key, isKeyChar c = true

theorem isKey_of_all {key : List Char} (hne : key ≠ []) (h : key.all isKeyChar = true) :
    IsKey key :=
  ⟨hne, List.all_eq_true.mp h⟩

/-- A form in which a pair may be written. -/
structure PairForm where
  spaces : Nat
  key : List Char
  isKey : IsKey key
  units : List BodyUnit

namespace PairForm

/-- What a form is written as. -/
def text (form : PairForm) : List Char :=
  List.replicate form.spaces ' ' ++ form.key
    ++ ':' :: '"' :: form.units.flatMap BodyUnit.text ++ ['"']

/-- The pair that a form writes. -/
def pair (form : PairForm) : Pair := ⟨form.key, form.units.map BodyUnit.char⟩

end PairForm

/-- A body is read up to the quote after its units, whatever follows. -/
theorem takeBody_units (units : List BodyUnit) (rest : List Char) :
    takeBody (units.flatMap BodyUnit.text ++ '"' :: rest)
      = some (units.flatMap BodyUnit.text, rest) := by
  induction units with
  | nil => simp [takeBody]
  | cons unit units ih =>
    rw [List.flatMap_cons, List.append_assoc]
    cases unit with
    | plain c bare =>
      rw [BodyUnit.text, List.singleton_append, takeBody, ih]
      · rfl
      · exact bare.1
      · exact fun h _ => bare.2 h
      · exact fun _ _ h _ => bare.2 h
    | escaped c =>
      show takeBody ('\\' :: c :: (units.flatMap BodyUnit.text ++ '"' :: rest)) = _
      rw [takeBody, ih]
      rfl

/-- The value of a body has one character for each unit. -/
theorem unescape_units (units : List BodyUnit) :
    unescape (units.flatMap BodyUnit.text) = units.map BodyUnit.char := by
  induction units with
  | nil => rfl
  | cons unit units ih =>
    rw [List.flatMap_cons, List.map_cons, ← ih]
    cases unit with
    | plain c bare =>
      rw [BodyUnit.text, List.singleton_append, unescape]
      · rfl
      · exact fun h _ => bare.2 h
      · exact fun _ _ h _ => bare.2 h
    | escaped c => rfl

/-- A key ends at the colon after it. -/
theorem splitKey_append {key : List Char} (h : ∀ c ∈ key, isKeyChar c = true) (rest : List Char) :
    splitKey (key ++ ':' :: rest) = (key, ':' :: rest) := by
  have hcolon : isKeyChar ':' = false := by decide
  simp only [splitKey, List.takeWhile_append_of_pos h, List.dropWhile_append_of_pos h,
    List.takeWhile_cons, List.dropWhile_cons, hcolon, Bool.false_eq_true, if_false, List.append_nil]

/-- Spaces before what does not start with one are skipped. -/
theorem skipSpaces_replicate (n : Nat) {c : Char} (hc : c ≠ ' ') (cs : List Char) :
    skipSpaces (List.replicate n ' ' ++ c :: cs) = c :: cs := by
  induction n with
  | zero => simp [skipSpaces, hc]
  | succ n ih => simpa [skipSpaces, List.replicate_succ] using ih

/-- **A pair is read back in whatever form it is written**, and what follows it is left. -/
theorem readPair_form (form : PairForm) (rest : List Char) :
    readPair (form.text ++ rest) = some (form.pair, rest) := by
  obtain ⟨spaces, key, hkey, units⟩ := form
  obtain ⟨c, cs, rfl⟩ := List.exists_cons_of_ne_nil hkey.ne_nil
  have hc : c ≠ ' ' := by
    rintro rfl
    exact absurd (hkey.chars ' ' List.mem_cons_self) (by decide)
  have htext : PairForm.text ⟨spaces, c :: cs, hkey, units⟩ ++ rest
      = List.replicate spaces ' ' ++
        c :: (cs ++ ':' :: '"' :: (units.flatMap BodyUnit.text ++ '"' :: rest)) := by
    simp [PairForm.text]
  rw [readPair, htext, skipSpaces_replicate spaces hc, ← List.cons_append,
    splitKey_append hkey.chars]
  simp only [takeBody_units, unescape_units, Option.map_some, PairForm.pair]

/-! ## Writing -/

/-- A value as a body: each quote and each backslash after a backslash. -/
def escape : List Char → List Char
  | [] => []
  | c :: cs => if c = '"' || c = '\\' then '\\' :: c :: escape cs else c :: escape cs

/-- The written form of a pair, after a number of spaces. -/
def writePair (spaces : Nat) (pair : Pair) : List Char :=
  List.replicate spaces ' ' ++ pair.key ++ ':' :: '"' :: escape pair.value ++ ['"']

/-- Written pairs one after the other, each after its number of spaces. -/
def writePairs (items : List (Nat × Pair)) : List Char :=
  items.flatMap fun item => writePair item.1 item.2

theorem escape_eq_units (value : List Char) :
    escape value = (value.map BodyUnit.ofChar).flatMap BodyUnit.text := by
  induction value with
  | nil => rfl
  | cons c cs ih =>
    rw [List.map_cons, List.flatMap_cons, ← ih, escape, BodyUnit.ofChar]
    by_cases h : c = '"' ∨ c = '\\'
    · rw [if_pos (by simpa using h), dif_neg fun bare => h.elim bare.1 bare.2]
      rfl
    · rw [if_neg (by simpa using h), dif_pos (not_or.mp h)]
      rfl

/-- A written pair is read back, whatever follows it. -/
theorem readPair_writePair (spaces : Nat) {pair : Pair} (hkey : IsKey pair.key)
    (rest : List Char) : readPair (writePair spaces pair ++ rest) = some (pair, rest) := by
  let form : PairForm := ⟨spaces, pair.key, hkey, pair.value.map BodyUnit.ofChar⟩
  have htext : writePair spaces pair = form.text := by
    rw [writePair, escape_eq_units]
    rfl
  have hpair : form.pair = pair := by
    simp [PairForm.pair, form, Function.comp_def]
  rw [htext, readPair_form, hpair]

/-- Written pairs are read back, and then what follows them. -/
theorem pairs_writePairs_append {items : List (Nat × Pair)}
    (hkeys : ∀ item ∈ items, IsKey item.2.key) (rest : List Char) :
    pairs (writePairs items ++ rest) = items.map (·.2) ++ pairs rest := by
  induction items with
  | nil => rfl
  | cons item items ih =>
    rw [writePairs, List.flatMap_cons, List.append_assoc,
      pairs_of_some (readPair_writePair item.1 (hkeys item List.mem_cons_self) _),
      ← writePairs, ih fun i hi => hkeys i (List.mem_cons_of_mem _ hi)]
    rfl

theorem pairs_writePairs {items : List (Nat × Pair)} (hkeys : ∀ item ∈ items, IsKey item.2.key) :
    pairs (writePairs items) = items.map (·.2) := by
  have hnil : pairs [] = [] := pairs_of_none rfl
  have h := pairs_writePairs_append hkeys []
  rwa [hnil, List.append_nil, List.append_nil] at h

end Tag

end RequestBinding
