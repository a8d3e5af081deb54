import RequestBinding.Text.SnakeCase

/-!
# What snake case does to a name

Snake case changes letters and separators of a name and adds underscores, each for a reason that the
name itself gives: `wordStartsAt` reads it off the characters around a position. The test against
doubled underscores, which looks at what is written so far, never changes anything, since the
character before the start of a word is no underscore and none is written for it.

## Main statements

* `snake_eq_snakeBefore` — the snake case form, position by position, without that test.
* `filter_snakeFrom` — apart from underscores, the form has the letters of the name in lowercase.
* `snakeFrom_of_settled` — a name without uppercase characters, hyphens and spaces is its own form.
* `toSnakeCase_exact` — all of this for a name, with the underscores that are added and those that
  are not.
-/

namespace RequestBinding.Text

/-! ## Characters of snake case -/

/-- What holds of every code in a short range holds of every character there. -/
theorem of_forall_code {P : Char → Prop} (first count : Nat)
    (hall : ∀ n ∈ List.range count, P (Char.ofNat (first + n))) {c : Char} (hlow : first ≤ c.toNat)
    (hhigh : c.toNat < first + count) : P c := by
  have hc := hall (c.toNat - first) (List.mem_range.mpr (by omega))
  rwa [Nat.add_sub_cancel' hlow, Char.ofNat_toNat] at hc

/-- A code point that is none of a character becomes the character of zero. -/
theorem toNat_ofNat_cases (n : Nat) : (Char.ofNat n).toNat = n ∨ (Char.ofNat n).toNat = 0 := by
  by_cases hvalid : n.isValidChar
  · rw [Char.ofNat, dif_pos hvalid]
    exact .inl rfl
  · rw [Char.ofNat, dif_neg hvalid]
    exact .inr rfl

/-- No run maps to what comes before the lowercase letters. -/
theorem lt_mapCode_lowercaseRuns {n : Nat} (h : 96 < n) : 96 < mapCode Table.lowercaseRuns n := by
  have hruns : ∀ run ∈ Table.lowercaseRuns, 96 < (run.first : Int) + run.distance := by
    decide +kernel
  rw [mapCode]
  split
  · next run hrun =>
    have hfirst := hruns run (List.mem_of_find?_eq_some hrun)
    have hcovers := List.find?_some hrun
    simp only [MappingRun.covers, Bool.and_eq_true, decide_eq_true_eq] at hcovers
    omega
  · exact h

/-- The lowercase text of an uppercase character has nothing in it that comes before the lowercase
letters. -/
theorem lt_of_mem_lowercase {c d : Char} (hupper : isUpper c = true) (h : d ∈ lowercase c) :
    96 < d.toNat ∨ d.toNat = 0 := by
  have hof : ∀ {n}, 96 < n → d = Char.ofNat n → 96 < d.toNat ∨ d.toNat = 0 := by
    rintro n hn rfl
    have hcases := toNat_ofNat_cases n
    omega
  rw [lowercase] at h
  split at h
  · next hascii =>
    have hletter : ('A' ≤ c && c ≤ 'Z') = true := by simpa [isUpper, hascii] using hupper
    have hlow : 65 ≤ c.toNat := (Bool.and_eq_true_iff.mp hletter).1 |> of_decide_eq_true
    rw [if_pos hletter, List.mem_singleton] at h
    exact hof (by omega) h
  · split at h
    · rcases List.mem_cons.mp h with rfl | h
      · exact .inl (by decide)
      · exact hof (by decide) (List.mem_singleton.mp h)
    · exact hof (lt_mapCode_lowercaseRuns (by omega)) (List.mem_singleton.mp h)

/-- What stands in a name in snake case and comes before the letters stands in the name. -/
theorem mem_of_mem_snakeFrom {c : Char} (hpos : c.toNat ≠ 0) (hlow : c.toNat ≤ 64)
    {cs : List Char} :
    ∀ {previous written : Option Char}, c ∈ snakeFrom previous written cs → c ∈ cs := by
  have hunderscore : c ≠ '_' := by
    rintro rfl
    exact absurd hlow (by decide)
  induction cs with
  | nil =>
    intro previous written h
    cases h
  | cons d cs ih =>
    intro previous written h
    rw [snakeFrom] at h
    rcases List.mem_append.mp h with h | h
    · rw [snakePiece] at h
      split at h
      · next hupper =>
        rcases List.mem_append.mp h with h | h
        · split at h
          · exact absurd (List.mem_singleton.mp h) hunderscore
          · cases h
        · have hbound := lt_of_mem_lowercase hupper h
          omega
      · split at h
        · exact absurd (List.mem_singleton.mp h) hunderscore
        · rw [List.mem_singleton.mp h]
          exact List.mem_cons_self
    · exact List.mem_cons_of_mem _ (ih h)

/-! ## One character -/

/-- What a character becomes by itself. -/
def snakeChar (c : Char) : List Char :=
  if isUpper c then lowercase c else if c == '-' || c == ' ' then ['_'] else [c]

theorem snakePiece_eq (previous written : Option Char) (c : Char) (next : Option Char) :
    snakePiece previous written c next
      = (if isUpper c && startsWord previous next && written != some '_' then ['_'] else [])
        ++ snakeChar c := by
  unfold snakePiece snakeChar
  cases hupper : isUpper c with
  | true => simp
  | false => simp

theorem snakeChar_ne_nil (c : Char) : snakeChar c ≠ [] := by
  unfold snakeChar
  split
  · exact lowercase_ne_nil c
  · split <;> simp

/-- What is written last is written for the last character. -/
theorem getLast?_append_snakeChar (cs : List Char) (c : Char) :
    (cs ++ snakeChar c).getLast? = (snakeChar c).getLast? := by
  rw [List.getLast?_append]
  cases hlast : (snakeChar c).getLast? with
  | none => exact absurd (List.getLast?_eq_none_iff.mp hlast) (snakeChar_ne_nil c)
  | some d => rfl

/-- The lowercase text of an uppercase character has no separator in it. -/
theorem not_separator_of_mem_lowercase {c d : Char} (hupper : isUpper c = true)
    (h : d ∈ lowercase c) : d ≠ '_' ∧ d ≠ '-' ∧ d ≠ ' ' := by
  have hcode := lt_of_mem_lowercase hupper h
  refine ⟨?_, ?_, ?_⟩ <;> (rintro rfl; exact absurd hcode (by decide))

/-- After a character that becomes an underscore no word starts. -/
theorem startsWord_eq_false {c : Char} (h : (snakeChar c).getLast? = some '_')
    (next : Option Char) : startsWord (some c) next = false := by
  unfold snakeChar at h
  split at h
  · next hupper =>
    exact absurd rfl (not_separator_of_mem_lowercase hupper (List.mem_of_getLast? h)).1
  · split at h
    · next hseparator =>
      rcases Bool.or_eq_true_iff.mp hseparator with hc | hc
      · rw [beq_iff_eq.mp hc]
        rfl
      · rw [beq_iff_eq.mp hc]
        rfl
    · obtain rfl : c = '_' := by simpa using h
      rfl

/-! ## Words by their positions -/

/-- A word starts at this position inside a name: the character there is uppercase, and the one
before it is lowercase or an ASCII digit, or is uppercase while the one after it is lowercase. -/
def wordStartsAt (cs : List Char) (i : Nat) : Bool :=
  0 < i && cs[i]?.any isUpper &&
    (cs[i - 1]?.any isLower || cs[i - 1]?.any isAsciiDigit ||
      cs[i - 1]?.any isUpper && cs[i + 1]?.any isLower)

/-- What is written for a position: an underscore if a word starts there, then what the character
becomes. -/
def snakeAt (cs : List Char) (i : Nat) : List Char :=
  (if wordStartsAt cs i then ['_'] else []) ++ cs[i]?.elim [] snakeChar

/-- What is written before a position. -/
def snakeBefore (cs : List Char) (i : Nat) : List Char := (List.range i).flatMap (snakeAt cs)

theorem wordStartsAt_append_cons (before : List Char) (c : Char) (after : List Char) :
    wordStartsAt (before ++ c :: after) before.length
      = (isUpper c && startsWord before.getLast? after.head?) := by
  have hhere : (before ++ c :: after)[before.length]? = some c := by simp
  have hnext : (before ++ c :: after)[before.length + 1]? = after.head? := by
    rw [List.getElem?_append_right (Nat.le_add_right _ _), Nat.add_sub_cancel_left,
      List.getElem?_cons_succ, List.head?_eq_getElem?]
  unfold wordStartsAt
  rw [hhere, hnext]
  rcases List.eq_nil_or_concat before with rfl | ⟨more, p, rfl⟩
  · simp [startsWord]
  · have hprevious : (more ++ [p] ++ c :: after)[(more ++ [p]).length - 1]? = some p := by
      rw [List.length_append, List.length_singleton, Nat.add_sub_cancel, List.append_assoc,
        List.getElem?_append_right (Nat.le_refl _), Nat.sub_self]
      rfl
    rw [List.concat_eq_append, hprevious]
    simp [startsWord]

theorem snakeAt_append_cons (before : List Char) (c : Char) (after : List Char) :
    snakeAt (before ++ c :: after) before.length
      = (if wordStartsAt (before ++ c :: after) before.length then ['_'] else [])
        ++ snakeChar c := by
  have hhere : (before ++ c :: after)[before.length]? = some c := by simp
  rw [snakeAt, hhere, Option.elim_some]

theorem getLast?_snakeAt (before : List Char) (c : Char) (after : List Char) :
    (snakeAt (before ++ c :: after) before.length).getLast? = (snakeChar c).getLast? := by
  rw [snakeAt_append_cons, getLast?_append_snakeChar]

/-- One step: whatever is written before, the piece of a character is what its position gives. -/
theorem snakePiece_eq_snakeAt (before : List Char) {written : Option Char} (c : Char)
    (after : List Char)
    (hwritten : written = some '_' → startsWord before.getLast? after.head? = false) :
    snakePiece before.getLast? written c after.head?
      = snakeAt (before ++ c :: after) before.length := by
  rw [snakePiece_eq, snakeAt_append_cons, wordStartsAt_append_cons]
  by_cases hunderscore : written = some '_'
  · simp [hwritten hunderscore]
  · simp [hunderscore]

/-- The whole run: the rest of a name is written by its positions, as what is written before it ends
in an underscore only where no word can start. -/
theorem snakeFrom_eq {before rest : List Char} {written : Option Char}
    (hwritten : written = some '_' → ∀ next, startsWord before.getLast? next = false) :
    snakeFrom before.getLast? written rest
      = (List.range' before.length rest.length).flatMap (snakeAt (before ++ rest)) := by
  induction rest generalizing before written with
  | nil => rfl
  | cons c rest ih =>
    have hpiece := snakePiece_eq_snakeAt before c rest fun h => hwritten h rest.head?
    have hlast : (before ++ [c]).getLast? = some c := List.getLast?_concat
    -- what is written for a character ends as the character does, with or without an underscore
    have hnext := @ih (before ++ [c]) (snakeChar c).getLast?
      fun h next => hlast ▸ startsWord_eq_false h next
    rw [hlast, List.append_assoc, List.singleton_append, List.length_append,
      List.length_singleton] at hnext
    rw [snakeFrom, hpiece, List.length_cons, List.range'_succ, List.flatMap_cons]
    show snakeAt _ _ ++ snakeFrom (some c) (snakeAt _ _).getLast? rest = _
    rw [getLast?_snakeAt, hnext]

/-- **The snake case form is written position by position.** -/
theorem snake_eq_snakeBefore (cs : List Char) : snake cs = snakeBefore cs cs.length := by
  have h := @snakeFrom_eq [] cs none (by simp)
  rwa [List.length_nil, ← List.range_eq_range'] at h

/-- Where a word starts, what is written before it does not end in an underscore. -/
theorem getLast?_snakeBefore_ne {cs : List Char} {i : Nat} (h : wordStartsAt cs i = true) :
    (snakeBefore cs i).getLast? ≠ some '_' := by
  have hi : i < cs.length := by
    refine Nat.lt_of_not_le fun hlength => ?_
    simp [wordStartsAt, List.getElem?_eq_none hlength] at h
  obtain ⟨before, c, after, rfl, rfl⟩ : ∃ before c after, cs = before ++ c :: after ∧
      before.length = i :=
    ⟨cs.take i, cs[i], cs.drop (i + 1), by simp, by simp [Nat.le_of_lt hi]⟩
  rw [wordStartsAt_append_cons, Bool.and_eq_true] at h
  rcases List.eq_nil_or_concat before with rfl | ⟨more, p, rfl⟩
  · simp [startsWord] at h
  · intro hlast
    rw [List.concat_eq_append] at h hlast
    rw [List.length_append, List.length_singleton, snakeBefore, List.range_succ,
      List.flatMap_append, List.flatMap_singleton, List.append_assoc, List.singleton_append,
      snakeAt_append_cons, ← List.append_assoc, getLast?_append_snakeChar] at hlast
    rw [List.getLast?_concat, startsWord_eq_false hlast] at h
    exact absurd h.2 (by decide)

/-! ## Letters -/

/-- The character separates words: it is an underscore or becomes one. -/
def isSeparator (c : Char) : Bool := c == '_' || c == '-' || c == ' '

/-- The character in lowercase, if it is uppercase. -/
def lowered (c : Char) : List Char := if isUpper c then lowercase c else [c]

theorem filter_snakePiece (previous written : Option Char) (c : Char) (next : Option Char) :
    (snakePiece previous written c next).filter (· != '_')
      = if isSeparator c then [] else lowered c := by
  have hadded (b : Bool) : (if b then ['_'] else []).filter (· != '_') = [] := by
    cases b <;> rfl
  rw [snakePiece_eq, List.filter_append, hadded, List.nil_append]
  unfold snakeChar lowered isSeparator
  split
  · next hupper =>
    have hkept : (lowercase c).filter (· != '_') = lowercase c := by
      rw [List.filter_eq_self]
      intro d hd
      simpa using (not_separator_of_mem_lowercase hupper hd).1
    have hletter : (c == '_' || c == '-' || c == ' ') = false := by
      simp only [Bool.or_eq_false_iff, beq_eq_false_iff_ne]
      refine ⟨⟨?_, ?_⟩, ?_⟩ <;> (rintro rfl; exact absurd hupper (by decide))
    rw [hkept, hletter]
    rfl
  · by_cases hseparator : (c == '-' || c == ' ') = true
    · rw [if_pos hseparator, Bool.or_assoc, hseparator, Bool.or_true]
      rfl
    · rw [if_neg hseparator, Bool.or_assoc, Bool.eq_false_iff.mpr hseparator, Bool.or_false]
      cases hunderscore : c == '_' <;> simp [hunderscore, bne]

/-- **Snake case keeps the letters.** Apart from underscores there are those of the name, in
lowercase and in the same order. -/
theorem filter_snakeFrom (previous written : Option Char) (cs : List Char) :
    (snakeFrom previous written cs).filter (· != '_')
      = (cs.filter fun c => !isSeparator c).flatMap lowered := by
  induction cs generalizing previous written with
  | nil => rfl
  | cons c cs ih =>
    rw [snakeFrom, List.filter_append, filter_snakePiece, ih, List.filter_cons]
    cases isSeparator c with
    | true => rfl
    | false => simp

/-! ## Snake case twice -/

/-- Uppercase characters of the name have no uppercase characters in their lowercase texts. -/
def LosesUpper (cs : List Char) : Prop :=
  ∀ c ∈ cs, isUpper c = true → ∀ d ∈ lowercase c, isUpper d = false

/-- Snake case leaves the character as it is. -/
def IsSettled (c : Char) : Prop := isUpper c = false ∧ c ≠ '-' ∧ c ≠ ' '

instance : DecidablePred IsSettled := fun _ => inferInstanceAs (Decidable (_ ∧ _))

theorem snakePiece_of_settled {c : Char} (h : IsSettled c) (previous written next : Option Char) :
    snakePiece previous written c next = [c] := by
  obtain ⟨hupper, hhyphen, hspace⟩ := h
  simp [snakePiece, hupper, hhyphen, hspace]

theorem snakeFrom_of_settled {cs : List Char} (h : ∀ c ∈ cs, IsSettled c)
    (previous written : Option Char) : snakeFrom previous written cs = cs := by
  induction cs generalizing previous written with
  | nil => rfl
  | cons c cs ih =>
    rw [snakeFrom, snakePiece_of_settled (h c List.mem_cons_self)]
    show [c] ++ snakeFrom (some c) _ cs = c :: cs
    rw [ih fun d hd => h d (List.mem_cons_of_mem _ hd)]
    rfl

theorem isSettled_underscore : IsSettled '_' := by decide

theorem isSettled_of_mem_snakeChar {c d : Char}
    (h : isUpper c = true → ∀ d ∈ lowercase c, isUpper d = false) (hd : d ∈ snakeChar c) :
    IsSettled d := by
  unfold snakeChar at hd
  split at hd
  · next hupper => exact ⟨h hupper d hd, (not_separator_of_mem_lowercase hupper hd).2⟩
  · next hupper =>
    split at hd
    · rw [List.mem_singleton.mp hd]
      exact isSettled_underscore
    · next hseparator =>
      obtain rfl := List.mem_singleton.mp hd
      simp only [Bool.or_eq_true, beq_iff_eq, not_or] at hseparator
      exact ⟨Bool.eq_false_iff.mpr hupper, hseparator⟩

theorem isSettled_of_mem_snakeFrom {cs : List Char} (h : LosesUpper cs)
    (previous written : Option Char) : ∀ d ∈ snakeFrom previous written cs, IsSettled d := by
  induction cs generalizing previous written with
  | nil =>
    intro d hd
    cases hd
  | cons c cs ih =>
    intro d hd
    rw [snakeFrom, snakePiece_eq, List.mem_append, List.mem_append] at hd
    rcases hd with (hadded | hchar) | hrest
    · split at hadded
      · rw [List.mem_singleton.mp hadded]
        exact isSettled_underscore
      · cases hadded
    · exact isSettled_of_mem_snakeChar (h c List.mem_cons_self) hchar
    · exact ih (fun c hc => h c (List.mem_cons_of_mem _ hc)) _ _ d hrest

/-- **Snake case twice is snake case once,** if lowercase texts have nothing uppercase in them. -/
theorem snake_snake {cs : List Char} (h : LosesUpper cs) : snake (snake cs) = snake cs :=
  snakeFrom_of_settled (isSettled_of_mem_snakeFrom h none none) none none

/-- The letters of ASCII have lowercase texts that are lowercase. -/
theorem losesUpper_of_ascii {cs : List Char} (h : ∀ c ∈ cs, c.toNat < 0x80) : LosesUpper cs := by
  intro c hc hupper d hd
  have hletter : ('A' ≤ c && c ≤ 'Z') = true := by simpa [isUpper, h c hc] using hupper
  obtain ⟨hlow, hhigh⟩ := Bool.and_eq_true_iff.mp hletter
  have hlow : 65 ≤ c.toNat := of_decide_eq_true hlow
  have hhigh : c.toNat ≤ 90 := of_decide_eq_true hhigh
  have hlower := of_forall_code (P := fun c => (lowercase c).all (fun d => !isUpper d) = true) 65 26
    (by decide) hlow (by omega)
  simpa using List.all_eq_true.mp hlower d hd

/-! ## Names -/

/-- **What snake case does to a name.** Apart from underscores, the letters of the name in lowercase
are left, in the same order. An underscore is added exactly where a word starts, and never after
another underscore. A second time nothing changes, if the lowercase texts of the uppercase
characters in the name have nothing uppercase in them, as in every name of ASCII characters. -/
theorem toSnakeCase_exact (s : String) :
    (toSnakeCase s).toList.filter (· != '_')
      = (s.toList.filter fun c => c != '_' && c != '-' && c != ' ').flatMap
          (fun c => if isUpper c then lowercase c else [c]) ∧
    (toSnakeCase s).toList = snakeBefore s.toList s.toList.length ∧
    (∀ i, wordStartsAt s.toList i = true → (snakeBefore s.toList i).getLast? ≠ some '_') ∧
    (LosesUpper s.toList → toSnakeCase (toSnakeCase s) = toSnakeCase s) ∧
    ((∀ c ∈ s.toList, c.toNat < 0x80) → LosesUpper s.toList) := by
  have hlist (t : String) : (toSnakeCase t).toList = snake t.toList := String.toList_ofList
  refine ⟨?_, ?_, fun i hi => getLast?_snakeBefore_ne hi, fun h => ?_, losesUpper_of_ascii⟩
  · have hseparator : (fun c => c != '_' && c != '-' && c != ' ') = fun c => !isSeparator c := by
      funext c
      simp [isSeparator, bne]
    rw [hlist, hseparator]
    exact filter_snakeFrom none none s.toList
  · rw [hlist]
    exact snake_eq_snakeBefore s.toList
  · refine String.toList_injective ?_
    rw [hlist, hlist]
    exact snake_snake h

/-- In this name a word starts at the last of several uppercase characters and after a digit. -/
theorem toSnakeCase_exact_request :
    (wordStartsAt "HTTPRequest2Go".toList 4 = true ∧
      wordStartsAt "HTTPRequest2Go".toList 12 = true ∧
      (snakeBefore "HTTPRequest2Go".toList 12).getLast? ≠ some '_') ∧
    (∀ c ∈ "HTTPRequest2Go".toList, c.toNat < 0x80) ∧
    toSnakeCase (toSnakeCase "HTTPRequest2Go") = toSnakeCase "HTTPRequest2Go" := by
  have hall : "HTTPRequest2Go".toList.all (fun c => c.toNat < 0x80) = true := by decide
  have hascii : ∀ c ∈ "HTTPRequest2Go".toList, c.toNat < 0x80 := fun c hc =>
    of_decide_eq_true (List.all_eq_true.mp hall c hc)
  have hstart : wordStartsAt "HTTPRequest2Go".toList 12 = true := by decide
  obtain ⟨-, -, hbefore, htwice, hloses⟩ := toSnakeCase_exact "HTTPRequest2Go"
  exact ⟨⟨by decide, hstart, hbefore 12 hstart⟩, hascii, htwice (hloses hascii)⟩

end RequestBinding.Text
