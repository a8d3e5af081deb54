import RequestBinding.Tag

/-!
# The grammar of tags

The scan of a tag reads pairs in their forms as long as the text begins with one. A form is known
by its text: two forms that begin one text are the same up to the quote that ends them. So nothing
has to be tried, and what stands behind a form does not change how it is read.

## Two layers

* **One pair.** What `readPair` takes from a text is a form, and a text that begins with a form is
  read (`readPair_eq_some_iff`).
* **The scan.** The forms at the start of a text are its pairs (`pairs_forms_append`), and the text
  at which the scan stops begins with no form (`exists_forms`). A text behind it is read from there
  on (`pairs_append_eq`).

## Main statements

* `pairs_grammar` — which texts have which pairs, and what the steps of the scan give.
* `pairs_append` — a text behind a tag changes no pair of the tag.
-/

namespace RequestBinding.Tag

/-! ## Bodies -/

/-- What is taken as a body is written in units, and a quote ends it. -/
theorem units_of_takeBody {cs body rest : List Char} (h : takeBody cs = some (body, rest)) :
    ∃ units : List BodyUnit,
      body = units.flatMap BodyUnit.text ∧ cs = units.flatMap BodyUnit.text ++ '"' :: rest := by
  fun_induction takeBody cs generalizing body with
  | case1 => cases h
  | case2 =>
    cases h
    exact ⟨[], rfl, rfl⟩
  | case3 => cases h
  | case4 c more ih =>
    obtain ⟨⟨inner, after⟩, htake, hr⟩ := Option.map_eq_some_iff.mp h
    cases hr
    obtain ⟨units, rfl, rfl⟩ := ih htake
    exact ⟨.escaped c :: units, rfl, rfl⟩
  | case5 c more hquote hend hescape ih =>
    obtain ⟨⟨inner, after⟩, htake, hr⟩ := Option.map_eq_some_iff.mp h
    cases hr
    obtain ⟨units, rfl, rfl⟩ := ih htake
    -- a backslash is taken with what follows it, be that the closing quote or a unit
    have hbackslash : c ≠ '\\' := by
      rintro rfl
      cases units with
      | nil => exact hescape '"' after rfl rfl
      | cons unit units => cases unit <;> exact hescape _ _ rfl rfl
    exact ⟨.plain c ⟨hquote, hbackslash⟩ :: units, rfl, rfl⟩

/-- Units are not followed by a backslash that ends the body: unit for unit, it would be half of
one. -/
theorem units_ne_dangling : ∀ units before : List BodyUnit,
    units.flatMap BodyUnit.text ≠ before.flatMap BodyUnit.text ++ ['\\']
  | [], _ => by simp
  | .plain c bare :: units, [] => by simp [BodyUnit.text, bare.2]
  | .escaped c :: units, [] => by simp [BodyUnit.text]
  | .plain c _ :: units, .plain d _ :: before => by
    have ih := units_ne_dangling units before
    simp [BodyUnit.text, ih]
  | .plain c bare :: units, .escaped d :: before => by simp [BodyUnit.text, bare.2]
  | .escaped c :: units, .plain d bare :: before => by
    have hne : '\\' ≠ d := fun he => bare.2 he.symm
    simp [BodyUnit.text, hne]
  | .escaped c :: units, .escaped d :: before => by
    have ih := units_ne_dangling units before
    simp [BodyUnit.text, ih]

/-! ## One pair -/

/-- A text is its spaces and what stands behind them. -/
theorem replicate_append_skipSpaces (cs : List Char) :
    ∃ n, cs = List.replicate n ' ' ++ skipSpaces cs := by
  refine ⟨(cs.takeWhile (· == ' ')).length, ?_⟩
  have hspaces : cs.takeWhile (· == ' ')
      = List.replicate (cs.takeWhile (· == ' ')).length ' ' := by
    rw [List.eq_replicate_iff]
    exact ⟨rfl, fun c hc => by simpa using List.all_eq_true.mp List.all_takeWhile c hc⟩
  rw [← hspaces, skipSpaces, List.takeWhile_append_dropWhile]

/-- What is read as a pair is written in a form. -/
theorem form_of_readPair {cs rest : List Char} {pair : Pair} (h : readPair cs = some (pair, rest)) :
    ∃ form : PairForm, form.pair = pair ∧ cs = form.text ++ rest := by
  obtain ⟨spaces, hcs⟩ := replicate_append_skipSpaces cs
  unfold readPair at h
  split at h
  · next c key after hkey =>
    obtain ⟨⟨body, left⟩, hbody, hr⟩ := Option.map_eq_some_iff.mp h
    cases hr
    obtain ⟨units, rfl, rfl⟩ := units_of_takeBody hbody
    obtain ⟨htake, hdrop⟩ := Prod.mk.inj hkey
    have hchars : ∀ d ∈ c :: key, isKeyChar d = true :=
      List.all_eq_true.mp (htake ▸ List.all_takeWhile)
    have hskip : skipSpaces cs
        = c :: key ++ ':' :: '"' :: (units.flatMap BodyUnit.text ++ '"' :: left) := by
      rw [← htake, ← hdrop, List.takeWhile_append_dropWhile]
    refine ⟨⟨spaces, c :: key, ⟨List.cons_ne_nil c key, hchars⟩, units⟩, ?_, ?_⟩
    · rw [PairForm.pair, unescape_units]
    · rw [hcs, hskip]
      simp [PairForm.text]
  · cases h

/-- A text is read as a pair exactly if it begins with a form of the pair. -/
theorem readPair_eq_some_iff {cs rest : List Char} {pair : Pair} :
    readPair cs = some (pair, rest)
      ↔ ∃ form : PairForm, form.pair = pair ∧ cs = form.text ++ rest := by
  refine ⟨form_of_readPair, ?_⟩
  rintro ⟨form, rfl, rfl⟩
  exact readPair_form form rest

theorem readPair_eq_none_iff {cs : List Char} :
    readPair cs = none ↔ ∀ form : PairForm, ¬form.text <+: cs := by
  constructor
  · rintro hnone form ⟨rest, rfl⟩
    rw [readPair_form] at hnone
    cases hnone
  · intro hform
    cases hread : readPair cs with
    | none => rfl
    | some r =>
      obtain ⟨form, -, hcs⟩ := form_of_readPair hread
      exact absurd ⟨r.2, hcs.symm⟩ (hform form)

/-- A form has at least a character of its key, a colon and two quotes. -/
theorem PairForm.four_le_length (form : PairForm) : 4 ≤ form.text.length := by
  have hkey := List.length_pos_iff.mpr form.isKey.ne_nil
  simp only [PairForm.text, List.length_append, List.length_cons, List.length_nil]
  omega

theorem four_mul_length_le : ∀ forms : List PairForm,
    4 * forms.length ≤ (forms.flatMap PairForm.text).length
  | [] => Nat.le_refl 0
  | form :: forms => by
    have hform := form.four_le_length
    have ih := four_mul_length_le forms
    rw [List.flatMap_cons, List.length_append, List.length_cons]
    omega

/-! ## Steps of the scan -/

/-- The text that is left after a number of steps. -/
def restAfter : Nat → List Char → List Char
  | 0, cs => cs
  | n + 1, cs => restAfter n (next cs).2

/-- The text at which the scan finds no further pair. -/
def unread (cs : List Char) : List Char := restAfter (pairs cs).length cs

theorem unread_of_none {cs : List Char} (h : readPair cs = none) : unread cs = cs := by
  rw [unread, pairs_of_none h]
  rfl

theorem unread_of_some {cs rest : List Char} {pair : Pair} (h : readPair cs = some (pair, rest)) :
    unread cs = unread rest := by
  rw [unread, pairs_of_some h, List.length_cons, restAfter, next_of_some h]
  rfl

/-- The steps give the pairs in turn, and then none. -/
theorem next_restAfter (n : Nat) (cs : List Char) :
    (next (restAfter n cs)).1 = (pairs cs)[n]? := by
  induction n generalizing cs with
  | zero =>
    cases hread : readPair cs with
    | none => rw [restAfter, next_of_none hread, pairs_of_none hread]; rfl
    | some r => rw [restAfter, next_of_some hread, pairs_of_some hread]; rfl
  | succ n ih =>
    rw [restAfter, ih]
    cases hread : readPair cs with
    | none => rw [next_of_none hread, pairs_of_none hread, pairs_of_none (by rfl)]; rfl
    | some r => rw [next_of_some hread, pairs_of_some hread]; rfl

/-- A scan reads the pairs of forms that stand one behind the other, and goes on behind them. -/
theorem pairs_forms_append (forms : List PairForm) (rest : List Char) :
    pairs (forms.flatMap PairForm.text ++ rest) = forms.map PairForm.pair ++ pairs rest := by
  induction forms with
  | nil => rfl
  | cons form forms ih =>
    rw [List.flatMap_cons, List.append_assoc, pairs_of_some (readPair_form form _), ih]
    rfl

/-- A text is the forms of its pairs and the text at which the scan stops, which begins with no
form. -/
theorem exists_forms (cs : List Char) :
    ∃ forms : List PairForm, cs = forms.flatMap PairForm.text ++ unread cs ∧
      forms.map PairForm.pair = pairs cs ∧ readPair (unread cs) = none := by
  cases hread : readPair cs with
  | none =>
    rw [unread_of_none hread, pairs_of_none hread]
    exact ⟨[], rfl, rfl, hread⟩
  | some r =>
    obtain ⟨pair, rest⟩ := r
    obtain ⟨form, hpair, hcs⟩ := form_of_readPair hread
    obtain ⟨forms, hrest, hpairs, hstop⟩ := exists_forms rest
    rw [unread_of_some hread, pairs_of_some hread]
    refine ⟨form :: forms, ?_, ?_, hstop⟩
    · rw [List.flatMap_cons, List.append_assoc, ← hrest, hcs]
    · rw [List.map_cons, hpair, hpairs]
termination_by cs.length
decreasing_by exact readPair_length hread

/-- **The scan reads exactly its grammar, and as far as it goes.** The pairs of a text are those of
the forms at its start, up to a rest that begins with no form. The steps give these pairs in turn,
one for each four characters at most, and after them nothing for good. Each body is read in whole
units: no backslash is left over at its end, and its value has the character of every unit. -/
theorem pairs_grammar (cs : List Char) :
    (∀ found : List Pair, pairs cs = found ↔
      ∃ (forms : List PairForm) (rest : List Char),
        cs = forms.flatMap PairForm.text ++ rest ∧ forms.map PairForm.pair = found ∧
          ∀ form : PairForm, ¬form.text <+: rest) ∧
    (∀ n, (next (restAfter n cs)).1 = (pairs cs)[n]?) ∧
    4 * (pairs cs).length ≤ cs.length ∧
    (∀ m n, m ≤ n → (next (restAfter m cs)).1 = none → (next (restAfter n cs)).1 = none) ∧
    ∀ text body rest, takeBody text = some (body, rest) →
      (∃ units : List BodyUnit,
        body = units.flatMap BodyUnit.text ∧ unescape body = units.map BodyUnit.char) ∧
      ∀ before : List BodyUnit, body ≠ before.flatMap BodyUnit.text ++ ['\\'] := by
  obtain ⟨forms, hforms, hpairs, hstop⟩ := exists_forms cs
  refine ⟨fun found => ⟨?_, ?_⟩, fun n => next_restAfter n cs, ?_, ?_, ?_⟩
  · rintro rfl
    exact ⟨forms, unread cs, hforms, hpairs, readPair_eq_none_iff.mp hstop⟩
  · rintro ⟨written, rest, rfl, rfl, hrest⟩
    rw [pairs_forms_append, pairs_of_none (readPair_eq_none_iff.mpr hrest), List.append_nil]
  · have hlength : 4 * forms.length ≤ (forms.flatMap PairForm.text).length :=
      four_mul_length_le forms
    rw [← hpairs, List.length_map]
    calc 4 * forms.length ≤ (forms.flatMap PairForm.text).length := hlength
      _ ≤ cs.length := by rw [hforms, List.length_append]; exact Nat.le_add_right _ _
  · intro m n hle hnone
    rw [next_restAfter, List.getElem?_eq_none_iff] at hnone ⊢
    exact Nat.le_trans hnone hle
  · intro text body rest hbody
    obtain ⟨units, rfl, -⟩ := units_of_takeBody hbody
    exact ⟨⟨units, rfl, unescape_units units⟩, units_ne_dangling units⟩

/-- Behind a pair whose value is a quote, a body that ends in a backslash: the scan stops for good,
and the body that was read has no such end. -/
theorem pairs_grammar_cut_off :
    pairs "a:\"\\\"\" b:\"\\".toList = [⟨['a'], ['"']⟩] ∧
      (∀ n, 1 ≤ n → (next (restAfter n "a:\"\\\"\" b:\"\\".toList)).1 = none) ∧
      ∀ before : List BodyUnit, "\\\"".toList ≠ before.flatMap BodyUnit.text ++ ['\\'] := by
  obtain ⟨-, -, -, hstop, hbody⟩ := pairs_grammar "a:\"\\\"\" b:\"\\".toList
  have hread : readPair "a:\"\\\"\" b:\"\\".toList
      = some (⟨['a'], ['"']⟩, " b:\"\\".toList) := rfl
  have hnone : readPair " b:\"\\".toList = none := rfl
  have hpairs : pairs "a:\"\\\"\" b:\"\\".toList = [⟨['a'], ['"']⟩] := by
    rw [pairs_of_some hread, pairs_of_none hnone]
  refine ⟨hpairs, fun n hn => hstop 1 n hn rfl, ?_⟩
  exact (hbody "\\\"\" b:\"\\".toList _ " b:\"\\".toList rfl).2

/-! ## A text behind a tag -/

/-- A scan that goes on behind a text reads its pairs, and then from where it would have stopped. -/
theorem pairs_append_eq (cs more : List Char) :
    pairs (cs ++ more) = pairs cs ++ pairs (unread cs ++ more) := by
  obtain ⟨forms, hforms, hpairs, -⟩ := exists_forms cs
  calc pairs (cs ++ more)
      = pairs (forms.flatMap PairForm.text ++ (unread cs ++ more)) := by
        rw [← List.append_assoc, ← hforms]
    _ = pairs cs ++ pairs (unread cs ++ more) := by rw [pairs_forms_append, hpairs]

/-- Spaces before a text give it no further pair. -/
theorem pairs_spaces_append {spaces : List Char} (h : ∀ c ∈ spaces, c = ' ') (cs : List Char) :
    pairs (spaces ++ cs) = pairs cs := by
  have hskip : skipSpaces (spaces ++ cs) = skipSpaces cs :=
    List.dropWhile_append_of_pos fun c hc => by simp [h c hc]
  have hread : readPair (spaces ++ cs) = readPair cs := by
    rw [readPair, hskip, readPair]
  cases hpair : readPair cs with
  | none => rw [pairs_of_none hpair, pairs_of_none (hread.trans hpair)]
  | some r => rw [pairs_of_some hpair, pairs_of_some (hread.trans hpair)]

/-- What is looked up in a text whose pairs are those of two texts. -/
theorem lookup_of_pairs_append {tag first second : List Char}
    (h : pairs tag = pairs first ++ pairs second) (key : List Char) :
    lookup tag key = (lookup first key).or (lookup second key) := by
  rw [lookup, lookup, lookup, h, List.find?_append]
  cases (pairs first).find? (·.key == key) <;> rfl

/-- **A text behind a tag changes no pair of the tag**, so what is looked up stays. Behind a tag
that has only spaces left, the text is scanned as if it stood alone. -/
theorem pairs_append (cs more : List Char) :
    pairs cs <+: pairs (cs ++ more) ∧
    (∀ key value, lookup cs key = some value → lookup (cs ++ more) key = some value) ∧
    ((∀ c ∈ unread cs, c = ' ') →
      pairs (cs ++ more) = pairs cs ++ pairs more ∧
      ∀ key, lookup (cs ++ more) key = (lookup cs key).or (lookup more key)) := by
  have happend := pairs_append_eq cs more
  refine ⟨⟨_, happend.symm⟩, fun key value hvalue => ?_, fun hspaces => ?_⟩
  · rw [lookup_of_pairs_append happend, hvalue, Option.some_or]
  · rw [pairs_spaces_append hspaces] at happend
    exact ⟨happend, lookup_of_pairs_append happend⟩

/-- Two spaces are left of the first tag, and the key of its pair stands in the second as well. -/
theorem pairs_append_after_spaces :
    unread "k:\"v\"  ".toList = [' ', ' '] ∧
      pairs ("k:\"v\"  ".toList ++ "k:\"w\" x:\"y\"".toList)
        = pairs "k:\"v\"  ".toList ++ pairs "k:\"w\" x:\"y\"".toList ∧
      lookup ("k:\"v\"  ".toList ++ "k:\"w\" x:\"y\"".toList) ['k'] = some ['v'] := by
  have hread : readPair "k:\"v\"  ".toList = some (⟨['k'], ['v']⟩, [' ', ' ']) := rfl
  have hstop : readPair [' ', ' '] = none := rfl
  have hunread : unread "k:\"v\"  ".toList = [' ', ' '] := by
    rw [unread_of_some hread, unread_of_none hstop]
  have honly : ∀ c ∈ unread "k:\"v\"  ".toList, c = ' ' := by
    rw [hunread]
    exact fun c hc => List.eq_of_mem_replicate (show c ∈ List.replicate 2 ' ' from hc)
  have hfound : lookup "k:\"v\"  ".toList ['k'] = some ['v'] := by
    rw [lookup, pairs_of_some hread, pairs_of_none hstop]
    rfl
  obtain ⟨-, hlookup, hspaces⟩ := pairs_append "k:\"v\"  ".toList "k:\"w\" x:\"y\"".toList
  exact ⟨hunread, (hspaces honly).1, hlookup ['k'] ['v'] hfound⟩

end RequestBinding.Tag
