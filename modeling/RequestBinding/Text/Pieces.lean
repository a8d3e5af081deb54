/-!
# Pieces of a text

A text cut at every occurrence of a character, and the part of a path after its last `::`.

## Main statements

* `pieces_ne_nil` — there is always a first piece.
* `pieces_append_cons` — a separator between two texts joins their pieces.
* `intercalate_pieces`, `pieces_intercalate` — cutting and joining invert each other.
* `lastSegment_append` — what follows the last `::` is the last segment.
* `lastSegment_eq_iff` — which texts have a name as their last segment.
-/

namespace RequestBinding.Text

/-- The parts of a text between the occurrences of a separator; one part if there is none. -/
def pieces (separator : Char) : List Char → List (List Char)
  | [] => [[]]
  | c :: cs =>
    if c = separator then [] :: pieces separator cs
    else
      match pieces separator cs with
      | [] => [[c]]
      | piece :: more => (c :: piece) :: more

theorem pieces_ne_nil (separator : Char) (cs : List Char) : pieces separator cs ≠ [] := by
  cases cs with
  | nil => simp [pieces]
  | cons c cs =>
    unfold pieces
    split
    · simp
    · split <;> simp

/-- A text without the separator is its only piece. -/
theorem pieces_of_not_mem {separator : Char} :
    ∀ {cs : List Char}, separator ∉ cs → pieces separator cs = [cs]
  | [], _ => rfl
  | c :: cs, h => by
    have hc : ¬c = separator := fun he => h (by simp [he])
    have hcs : separator ∉ cs := fun hm => h (List.mem_cons_of_mem _ hm)
    rw [pieces, if_neg hc, pieces_of_not_mem hcs]

/-- The pieces of a text that has a separator somewhere are those before it and those after it. -/
theorem pieces_append_cons (separator : Char) (cs ds : List Char) :
    pieces separator (cs ++ separator :: ds) = pieces separator cs ++ pieces separator ds := by
  induction cs with
  | nil => simp [pieces]
  | cons c cs ih =>
    by_cases hc : c = separator
    · simp [pieces, hc, ih]
    · rw [List.cons_append, pieces, if_neg hc, ih, pieces, if_neg hc]
      cases h : pieces separator cs with
      | nil => exact absurd h (pieces_ne_nil separator cs)
      | cons piece more => rfl

/-- A text without the separator is the first piece of what follows it behind one. -/
theorem pieces_append {separator : Char} {cs : List Char} (h : separator ∉ cs) (ds : List Char) :
    pieces separator (cs ++ separator :: ds) = cs :: pieces separator ds := by
  rw [pieces_append_cons, pieces_of_not_mem h, List.singleton_append]

/-- No piece has the separator in it. -/
theorem not_mem_of_mem_pieces {separator : Char} :
    ∀ {cs piece : List Char}, piece ∈ pieces separator cs → separator ∉ piece
  | [], piece, h => by simp_all [pieces]
  | c :: cs, piece, h => by
    rw [pieces] at h
    split at h
    · rcases List.mem_cons.mp h with rfl | h
      · exact List.not_mem_nil
      · exact not_mem_of_mem_pieces h
    · next hc =>
      cases hp : pieces separator cs with
      | nil => exact absurd hp (pieces_ne_nil separator cs)
      | cons first more =>
        have hfirst : separator ∉ first :=
          not_mem_of_mem_pieces (show first ∈ pieces separator cs by simp [hp])
        simp only [hp] at h
        rcases List.mem_cons.mp h with rfl | h
        · simpa [hfirst] using fun he => hc he.symm
        · exact not_mem_of_mem_pieces (show piece ∈ pieces separator cs by simp [hp, h])

/-- The first piece is the text before the first separator. -/
theorem head?_pieces (separator : Char) (cs : List Char) :
    (pieces separator cs).head? = some (cs.takeWhile (· ≠ separator)) := by
  induction cs with
  | nil => rfl
  | cons c cs ih =>
    by_cases hc : c = separator
    · simp [pieces, hc]
    · obtain ⟨piece, more, hpieces⟩ := List.exists_cons_of_ne_nil (pieces_ne_nil separator cs)
      rw [hpieces] at ih
      simpa [pieces, hc, hpieces] using ih

/-! ## Joining -/

/-- Pieces with the separator between them are the text. -/
theorem intercalate_pieces (separator : Char) (cs : List Char) :
    [separator].intercalate (pieces separator cs) = cs := by
  induction cs with
  | nil => rfl
  | cons c cs ih =>
    obtain ⟨piece, more, hpieces⟩ := List.exists_cons_of_ne_nil (pieces_ne_nil separator cs)
    rw [hpieces] at ih
    by_cases hc : c = separator
    · rw [pieces, if_pos hc, hpieces, List.intercalate_cons_cons, ih, hc]
      rfl
    · rw [pieces, if_neg hc, hpieces]
      cases more with
      | nil => rw [List.intercalate_singleton] at ih ⊢; rw [ih]
      | cons next more => rw [List.intercalate_cons_cons] at ih ⊢; rw [← ih]; rfl

/-- Different texts have different pieces. -/
theorem pieces_inj {separator : Char} {cs ds : List Char} :
    pieces separator cs = pieces separator ds ↔ cs = ds := by
  refine ⟨fun h => ?_, fun h => by rw [h]⟩
  rw [← intercalate_pieces separator cs, h, intercalate_pieces]

/-- Texts joined by a separator have the pieces of the texts. -/
theorem pieces_intercalate {separator : Char} {texts : List (List Char)} (hne : texts ≠ []) :
    pieces separator ([separator].intercalate texts) = texts.flatMap (pieces separator) := by
  induction texts with
  | nil => exact absurd rfl hne
  | cons text more ih =>
    cases more with
    | nil => simp
    | cons next more =>
      rw [List.intercalate_cons_cons, List.append_assoc, List.singleton_append,
        pieces_append_cons, ih (List.cons_ne_nil next more)]
      rfl

/-! ## Paths with `::` -/

/-- The text after the last `::`, if there is one. -/
def afterLastColons : List Char → Option (List Char)
  | [] => none
  | c :: cs =>
    match afterLastColons cs with
    | some rest => some rest
    | none => if c = ':' && cs.head? = some ':' then some cs.tail else none

/-- The text after the last `::`, the whole text if there is none. -/
def lastSegment (cs : List Char) : List Char := (afterLastColons cs).getD cs

theorem afterLastColons_of_not_mem : ∀ {cs : List Char}, ':' ∉ cs → afterLastColons cs = none
  | [], _ => rfl
  | c :: cs, h => by
    have hc : ¬c = ':' := fun he => h (by simp [he])
    have hcs : ':' ∉ cs := fun hm => h (List.mem_cons_of_mem _ hm)
    simp [afterLastColons, afterLastColons_of_not_mem hcs, hc]

theorem afterLastColons_append {cs : List Char} (h : ':' ∉ cs) (pre : List Char) :
    afterLastColons (pre ++ ':' :: ':' :: cs) = some cs := by
  induction pre with
  | nil =>
    have hhead : cs.head? ≠ some ':' := fun he => h (List.mem_of_mem_head? he)
    simp [afterLastColons, afterLastColons_of_not_mem h, hhead]
  | cons c pre ih => rw [List.cons_append, afterLastColons, ih]

theorem lastSegment_of_not_mem {cs : List Char} (h : ':' ∉ cs) : lastSegment cs = cs := by
  rw [lastSegment, afterLastColons_of_not_mem h, Option.getD_none]

theorem lastSegment_append {cs : List Char} (h : ':' ∉ cs) (pre : List Char) :
    lastSegment (pre ++ ':' :: ':' :: cs) = cs := by
  rw [lastSegment, afterLastColons_append h, Option.getD_some]

theorem suffix_of_afterLastColons {cs rest : List Char} (h : afterLastColons cs = some rest) :
    ':' :: ':' :: rest <:+ cs := by
  induction cs with
  | nil => cases h
  | cons c cs ih =>
    rw [afterLastColons] at h
    split at h
    · next more hmore =>
      obtain rfl := Option.some.inj h
      exact (ih hmore).trans (List.suffix_cons c cs)
    · split at h
      · next hcolons =>
        obtain ⟨rfl, hhead⟩ : c = ':' ∧ cs.head? = some ':' := by simpa using hcolons
        obtain ⟨tail, rfl⟩ := List.head?_eq_some_iff.mp hhead
        obtain rfl := Option.some.inj h
        exact List.suffix_refl _
      · cases h

/-- A name is the last segment of itself and of what ends in it after two colons. -/
theorem lastSegment_eq_iff {cs name : List Char} (h : ':' ∉ name) :
    lastSegment cs = name ↔ cs = name ∨ ':' :: ':' :: name <:+ cs := by
  constructor
  · rintro rfl
    unfold lastSegment
    cases hlast : afterLastColons cs with
    | none => exact .inl rfl
    | some rest => exact .inr (suffix_of_afterLastColons hlast)
  · rintro (rfl | ⟨pre, rfl⟩)
    · exact lastSegment_of_not_mem h
    · exact lastSegment_append h pre

end RequestBinding.Text
