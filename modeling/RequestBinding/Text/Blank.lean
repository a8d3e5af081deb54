import RequestBinding.Text.CodePoints

/-!
# Blank characters

The Unicode property `White_Space`, and the trimming of a text at both ends.

## Main statements

* `trim_append_blank`, `trim_blank_append` — blanks around a text do not change its trimmed form.
* `trim_eq_nil_iff` — the trimmed form is empty exactly for texts of blanks.
* `trim_padded` — what stands between blanks and holds none is the trimmed form.
* `exists_padding` — only blanks are trimmed.
-/

namespace RequestBinding.Text

/-- The characters with the property `White_Space`. -/
def blankRanges : CodeRanges := [
  (0x9, 0xD), (0x20, 0x20), (0x85, 0x85), (0xA0, 0xA0), (0x1680, 0x1680), (0x2000, 0x200A),
  (0x2028, 0x2029), (0x202F, 0x202F), (0x205F, 0x205F), (0x3000, 0x3000)]

def isBlank (c : Char) : Bool := blankRanges.has c.toNat

/-! ## Trimming -/

/-- The text without the blanks at its start. -/
def trimStart (cs : List Char) : List Char := cs.dropWhile isBlank

/-- The text without the blanks at its end. -/
def trimEnd (cs : List Char) : List Char := (cs.reverse.dropWhile isBlank).reverse

/-- The text without the blanks around it. -/
def trim (cs : List Char) : List Char := trimEnd (trimStart cs)

/-- `trim` on strings. -/
def trimmed (s : String) : String := String.ofList (trim s.toList)

/-- The text holds no character that is not blank. -/
def isBlankText (cs : List Char) : Bool := cs.all isBlank

theorem trimStart_blank_append {pre : List Char} (h : isBlankText pre = true) (cs : List Char) :
    trimStart (pre ++ cs) = trimStart cs := by
  induction pre with
  | nil => rfl
  | cons c pre ih =>
    simp only [isBlankText, List.all_cons, Bool.and_eq_true] at h
    simp only [trimStart, List.cons_append, List.dropWhile_cons, h.1, if_true]
    exact ih h.2

theorem trim_blank_append {pre : List Char} (h : isBlankText pre = true) (cs : List Char) :
    trim (pre ++ cs) = trim cs := by
  rw [trim, trimStart_blank_append h, trim]

theorem trimEnd_append_blank {post : List Char} (h : isBlankText post = true) (cs : List Char) :
    trimEnd (cs ++ post) = trimEnd cs := by
  have hr : isBlankText post.reverse = true := by simpa [isBlankText] using h
  have := trimStart_blank_append hr cs.reverse
  simp only [trimStart] at this
  simp [trimEnd, List.reverse_append, this]

theorem trimStart_of_blank {cs : List Char} (h : isBlankText cs = true) : trimStart cs = [] := by
  have := trimStart_blank_append h []
  simpa [trimStart] using this

theorem trim_append_blank {post : List Char} (h : isBlankText post = true) (cs : List Char) :
    trim (cs ++ post) = trim cs := by
  induction cs with
  | nil => rw [List.nil_append, trim, trimStart_of_blank h]; rfl
  | cons c cs ih =>
    by_cases hc : isBlank c = true
    · have h1 : ∀ l, trim (c :: l) = trim l := fun l =>
        @trim_blank_append [c] (by simp [isBlankText, hc]) l
      rw [List.cons_append, h1, h1, ih]
    · have h1 : ∀ l, trimStart (c :: l) = c :: l := fun l => by
        simp [trimStart, hc]
      rw [trim, trim, List.cons_append, h1, h1, ← List.cons_append, trimEnd_append_blank h]

/-- A text without blanks has nothing to trim. -/
theorem trim_of_not_blank {cs : List Char} (h : ∀ c ∈ cs, isBlank c = false) : trim cs = cs := by
  have hstart : ∀ ds : List Char, (∀ c ∈ ds, isBlank c = false) → ds.dropWhile isBlank = ds := by
    intro ds hds
    cases ds with
    | nil => rfl
    | cons d ds => simp [hds d List.mem_cons_self]
  rw [trim, trimStart, hstart cs h, trimEnd, hstart cs.reverse (by simpa using h),
    List.reverse_reverse]

/-- The blanks around a token are trimmed. -/
theorem trim_padded {pre post token : List Char} (hpre : isBlankText pre = true)
    (hpost : isBlankText post = true) (htoken : ∀ c ∈ token, isBlank c = false) :
    trim (pre ++ token ++ post) = token := by
  rw [trim_append_blank hpost, trim_blank_append hpre, trim_of_not_blank htoken]

/-- A text is its trimmed form with blanks around it. -/
theorem exists_padding (cs : List Char) :
    ∃ pre post, isBlankText pre = true ∧ isBlankText post = true ∧ cs = pre ++ trim cs ++ post := by
  let blanks := (trimStart cs).reverse.takeWhile isBlank
  have hend : trimEnd (trimStart cs) ++ blanks.reverse = trimStart cs := by
    rw [trimEnd, ← List.reverse_append, List.takeWhile_append_dropWhile, List.reverse_reverse]
  have hblanks : isBlankText blanks.reverse = true := by
    rw [isBlankText, List.all_reverse]
    exact List.all_takeWhile
  refine ⟨cs.takeWhile isBlank, blanks.reverse, List.all_takeWhile, hblanks, ?_⟩
  rw [List.append_assoc, trim, hend, trimStart, List.takeWhile_append_dropWhile]

theorem all_of_dropWhile_eq_nil {p : Char → Bool} :
    ∀ {cs : List Char}, cs.dropWhile p = [] → ∀ c ∈ cs, p c = true
  | [], _, c, hc => by simp at hc
  | d :: cs, h, c, hc => by
    rw [List.dropWhile_cons] at h
    split at h
    · next hd =>
      rcases List.mem_cons.mp hc with rfl | hc
      · exact hd
      · exact all_of_dropWhile_eq_nil h c hc
    · simp at h

theorem trim_eq_nil_iff {cs : List Char} : trim cs = [] ↔ isBlankText cs = true := by
  constructor
  · induction cs with
    | nil => intro _; rfl
    | cons c cs ih =>
      by_cases hc : isBlank c = true
      · have h1 : trim (c :: cs) = trim cs :=
          @trim_blank_append [c] (by simp [isBlankText, hc]) cs
        intro h
        have := ih (h1 ▸ h)
        simpa [isBlankText, hc] using this
      · intro h
        have h1 : trimStart (c :: cs) = c :: cs := by simp [trimStart, hc]
        rw [trim, h1, trimEnd, List.reverse_eq_nil_iff] at h
        exact absurd (all_of_dropWhile_eq_nil h c (by simp)) hc
  · intro h
    rw [trim, trimStart_of_blank h]
    rfl

end RequestBinding.Text
