import RequestBinding.Extraction

/-!
# Written annotations

The tag that writes two directives is read back as these directives, whatever pairs stand beside
theirs.

## Two layers

* **Values.** A directive is written as tokens between commas, with blanks around each
  (`BindText`, `BoundsText`). `readBind_of_text` and `readValidate_of_text` invert that.
* **Pairs.** The value stands under its key in one of the written pairs. The first pair of a key
  counts, so pairs with other keys and later pairs of the same key change nothing.

`annotatedField_writePairs` puts the two together.
-/

namespace RequestBinding

namespace Directive

/-! ## Tokens between blanks -/

/-- What may be a token: it holds neither a comma nor a blank. -/
def IsToken (token : List Char) : Prop := ∀ c ∈ token, c ≠ ',' ∧ Text.isBlank c = false

theorem isToken_of_all {token : List Char}
    (h : token.all (fun c => c != ',' && !Text.isBlank c) = true) : IsToken token := by
  intro c hc
  simpa using List.all_eq_true.mp h c hc

/-- The text is a token with blanks around it. -/
def IsPadded (token text : List Char) : Prop :=
  ∃ pre post, Text.isBlankText pre = true ∧ Text.isBlankText post = true ∧
    text = pre ++ token ++ post

theorem comma_not_mem_of_isBlankText {cs : List Char} (h : Text.isBlankText cs = true) :
    ',' ∉ cs := by
  intro hm
  have : Text.isBlank ',' = true := List.all_eq_true.mp h ',' hm
  exact absurd this (by decide)

theorem comma_not_mem_of_isPadded {token text : List Char} (ht : IsToken token)
    (h : IsPadded token text) : ',' ∉ text := by
  obtain ⟨pre, post, hpre, hpost, rfl⟩ := h
  simp only [List.mem_append, not_or]
  exact ⟨⟨comma_not_mem_of_isBlankText hpre, fun hm => (ht ',' hm).1 rfl⟩,
    comma_not_mem_of_isBlankText hpost⟩

theorem trim_of_isPadded {token text : List Char} (ht : IsToken token)
    (h : IsPadded token text) : Text.trim text = token := by
  obtain ⟨pre, post, hpre, hpost, rfl⟩ := h
  exact Text.trim_padded hpre hpost fun c hc => (ht c hc).2

theorem tokens_of_isPadded {token text : List Char} (ht : IsToken token)
    (h : IsPadded token text) : tokens text = [token] := by
  rw [tokens, Text.pieces_of_not_mem (comma_not_mem_of_isPadded ht h), List.map_singleton,
    trim_of_isPadded ht h]

/-- Two padded tokens with a comma between them are the two tokens. -/
theorem tokens_of_isPadded_two {token₁ token₂ text₁ text₂ : List Char} (ht₁ : IsToken token₁)
    (ht₂ : IsToken token₂) (h₁ : IsPadded token₁ text₁) (h₂ : IsPadded token₂ text₂) :
    tokens (text₁ ++ ',' :: text₂) = [token₁, token₂] := by
  have h := tokens_of_isPadded ht₂ h₂
  rw [tokens] at h
  rw [tokens, Text.pieces_append (comma_not_mem_of_isPadded ht₁ h₁), List.map_cons, h,
    trim_of_isPadded ht₁ h₁]

/-! ## Written bind directives -/

/-- The text writes a bind directive: its source, and `required` after a comma if it is so. -/
inductive BindText : BindDirective → List Char → Prop
  | optional {source : BindSource} {text : List Char} :
    IsPadded source.word.toList text → BindText ⟨source, false⟩ text
  | required {source : BindSource} {text₁ text₂ : List Char} :
    IsPadded source.word.toList text₁ → IsPadded "required".toList text₂ →
      BindText ⟨source, true⟩ (text₁ ++ ',' :: text₂)

theorem isToken_word (source : BindSource) : IsToken source.word.toList := by
  cases source <;> exact isToken_of_all rfl

theorem isToken_required : IsToken "required".toList := isToken_of_all rfl

/-- **A written bind directive is read back.** -/
theorem readBind_of_text {directive : BindDirective} {text : List Char}
    (h : BindText directive text) : readBind text = .ok directive := by
  cases h with
  | @optional source _ h₁ =>
    rw [readBind, tokens_of_isPadded (isToken_word source) h₁]
    cases source <;> rfl
  | @required source _ _ h₁ h₂ =>
    rw [readBind, tokens_of_isPadded_two (isToken_word source) isToken_required h₁ h₂]
    cases source <;> rfl

/-! ## Written bounds -/

/-- The token for a bound: its word, an equals sign and the number in decimal digits. -/
def boundToken (word : String) (n : Int64) : List Char :=
  word.toList ++ '=' :: (toString n.toInt).toList

/-- The text writes bounds: a token for each, in either order. -/
inductive BoundsText : Bounds → List Char → Prop
  | min {m : Int64} {text : List Char} :
    IsPadded (boundToken "min" m) text → BoundsText ⟨some m, none, rfl⟩ text
  | max {n : Int64} {text : List Char} :
    IsPadded (boundToken "max" n) text → BoundsText ⟨none, some n, rfl⟩ text
  | minMax {m n : Int64} {text₁ text₂ : List Char} :
    IsPadded (boundToken "min" m) text₁ → IsPadded (boundToken "max" n) text₂ →
      BoundsText ⟨some m, some n, rfl⟩ (text₁ ++ ',' :: text₂)
  | maxMin {m n : Int64} {text₁ text₂ : List Char} :
    IsPadded (boundToken "max" n) text₁ → IsPadded (boundToken "min" m) text₂ →
      BoundsText ⟨some m, some n, rfl⟩ (text₁ ++ ',' :: text₂)

theorem isToken_of_isDigit {c : Char} (h : c.isDigit = true) :
    c ≠ ',' ∧ Text.isBlank c = false := by
  have hr : 48 ≤ c.toNat ∧ c.toNat ≤ 57 := by
    simp only [Char.isDigit, Bool.and_eq_true, decide_eq_true_eq] at h
    exact ⟨UInt32.le_iff_toNat_le.mp h.1, UInt32.le_iff_toNat_le.mp h.2⟩
  refine ⟨by rintro rfl; exact absurd h (by decide), ?_⟩
  rw [← Bool.not_eq_true]
  intro hb
  obtain ⟨range, hm, hlo, hhi⟩ := Text.CodeRanges.has_eq_true_iff.mp hb
  have hapart : ∀ r ∈ Text.blankRanges, r.2 < 48 ∨ 57 < r.1 := by decide
  rcases hapart range hm with h1 | h1 <;> omega

theorem isToken_toString (n : Int) : IsToken (toString n).toList := by
  have hdigits : ∀ m : Nat, IsToken (Nat.toDigits 10 m) := fun m c hc =>
    isToken_of_isDigit (Nat.isDigit_of_mem_toDigits (by decide) (by decide) hc)
  rw [Text.toList_toString_int]
  split
  · exact hdigits _
  · intro c hc
    rcases List.mem_cons.mp hc with rfl | hc
    · exact ⟨by decide, by decide⟩
    · exact hdigits _ c hc

theorem isToken_boundToken {word : String} (h : IsToken word.toList) (n : Int64) :
    IsToken (boundToken word n) := by
  intro c hc
  rcases List.mem_append.mp hc with hc | hc
  · exact h c hc
  · rcases List.mem_cons.mp hc with rfl | hc
    · exact ⟨by decide, by decide⟩
    · exact isToken_toString _ c hc

theorem isToken_minToken (m : Int64) : IsToken (boundToken "min" m) :=
  isToken_boundToken (isToken_of_all rfl) m

theorem isToken_maxToken (n : Int64) : IsToken (boundToken "max" n) :=
  isToken_boundToken (isToken_of_all rfl) n

theorem readBoundToken_min (m : Int64) : readBoundToken (boundToken "min" m) = .ok (.min m) := by
  show (readOperand "min" (toString m.toInt).toList).map BoundToken.min = _
  rw [readOperand, Text.readInt64_toString]
  rfl

theorem readBoundToken_max (n : Int64) : readBoundToken (boundToken "max" n) = .ok (.max n) := by
  show (readOperand "max" (toString n.toInt).toList).map BoundToken.max = _
  rw [readOperand, Text.readInt64_toString]
  rfl

/-- A blank text holds no comma and is trimmed to nothing. -/
theorem tokens_of_isBlankText {text : List Char} (h : Text.isBlankText text = true) :
    tokens text = [[]] := by
  rw [tokens, Text.pieces_of_not_mem (comma_not_mem_of_isBlankText h), List.map_singleton,
    Text.trim_eq_nil_iff.mpr h]

/-- A text with a token that is not empty is not blank. -/
theorem isBlankText_of_tokens {token : List Char} {more : List (List Char)} {text : List Char}
    (h : tokens text = token :: more) (hne : token ≠ []) : Text.isBlankText text = false := by
  rw [Bool.eq_false_iff]
  intro hblank
  have htokens := tokens_of_isBlankText hblank
  rw [h] at htokens
  exact hne (List.cons.inj htokens).1

/-- The bounds that tokens give are what is read. -/
theorem readValidate_of_tokens {token : List Char} {more : List (List Char)} {text : List Char}
    {bounds : Bounds} (htokens : tokens text = token :: more) (hne : token ≠ [])
    (h : boundsOfTokens none none (token :: more) = .ok (bounds.min, bounds.max)) :
    readValidate text = .ok bounds := by
  rw [readValidate, isBlankText_of_tokens htokens hne, htokens, h]
  simp only [Bool.false_eq_true, if_false, Bounds.of?, bounds.bounded, dif_pos]

/-- **Written bounds are read back.** -/
theorem readValidate_of_text {bounds : Bounds} {text : List Char} (h : BoundsText bounds text) :
    readValidate text = .ok bounds := by
  cases h with
  | @min m _ h₁ =>
    refine readValidate_of_tokens (tokens_of_isPadded (isToken_minToken m) h₁) (by simp [boundToken]) ?_
    simp only [boundsOfTokens, readBoundToken_min]
  | @max n _ h₁ =>
    refine readValidate_of_tokens (tokens_of_isPadded (isToken_maxToken n) h₁) (by simp [boundToken]) ?_
    simp only [boundsOfTokens, readBoundToken_max]
  | @minMax m n _ _ h₁ h₂ =>
    refine readValidate_of_tokens
      (tokens_of_isPadded_two (isToken_minToken m) (isToken_maxToken n) h₁ h₂)
      (by simp [boundToken]) ?_
    simp only [boundsOfTokens, readBoundToken_min, readBoundToken_max]
  | @maxMin m n _ _ h₁ h₂ =>
    refine readValidate_of_tokens
      (tokens_of_isPadded_two (isToken_maxToken n) (isToken_minToken m) h₁ h₂)
      (by simp [boundToken]) ?_
    simp only [boundsOfTokens, readBoundToken_min, readBoundToken_max]

end Directive

/-! ## Written pairs -/

namespace Extraction

/-- The pairs that write an optional directive under its key: one pair, or none. -/
inductive WrittenUnder (key : String) (writes : α → List Char → Prop) :
    Option α → List Pair → Prop
  | none : WrittenUnder key writes none []
  | some {directive : α} {text : List Char} : writes directive text →
    WrittenUnder key writes (some directive) [⟨key.toList, text⟩]

/-- The pair has one of the keys that directives stand under. -/
def IsDirectivePair (pair : Pair) : Prop :=
  pair.key = "bind".toList ∨ pair.key = "validate".toList

theorem isKey_bind : Tag.IsKey "bind".toList := Tag.isKey_of_all (by decide) rfl

theorem isKey_validate : Tag.IsKey "validate".toList := Tag.isKey_of_all (by decide) rfl

/-- The pairs that write a directive have its key. -/
theorem WrittenUnder.key_eq {key : String} {writes : α → List Char → Prop} {directive : Option α}
    {pairs : List Pair} (h : WrittenUnder key writes directive pairs) :
    ∀ pair ∈ pairs, pair.key = key.toList := by
  cases h with
  | none => simp
  | some _ => simp

/--
The first pair of a key, when the pairs before a point are a permutation of those that write the
directive and of others with other keys, and no pair after that point has the key for the first
time.
-/
theorem find?_of_perm {key : String} {writes : α → List Char → Prop} {directive : Option α}
    {written before after : List Pair} (others : List Pair)
    (hw : WrittenUnder key writes directive written)
    (hothers : ∀ pair ∈ others, pair.key ≠ key.toList) (hperm : before.Perm (written ++ others))
    (hafter : ∀ pair ∈ after, pair.key = key.toList → ∃ p ∈ before, p.key = key.toList) :
    (before ++ after).find? (·.key == key.toList) = written.head? := by
  have hother : others.filter (·.key == key.toList) = [] := by
    rw [List.filter_eq_nil_iff]
    exact fun pair hp => by simpa using hothers pair hp
  have hwritten : written.filter (·.key == key.toList) = written :=
    List.filter_eq_self.mpr fun pair hp => by simpa using hw.key_eq pair hp
  have hbefore : (before.filter (·.key == key.toList)).Perm written := by
    have := hperm.filter (·.key == key.toList)
    rwa [List.filter_append, hother, hwritten, List.append_nil] at this
  rw [← List.head?_filter, List.filter_append]
  cases hw with
  | none =>
    -- without a pair of the key before, there is none after
    have hnil := List.perm_nil.mp hbefore
    have hno : after.filter (·.key == key.toList) = [] := by
      rw [List.filter_eq_nil_iff]
      intro pair hp hk
      obtain ⟨p, hp', hpk⟩ := hafter pair hp (by simpa using hk)
      have hm : p ∈ before.filter (·.key == key.toList) :=
        List.mem_filter.mpr ⟨hp', by simpa using hpk⟩
      rw [hnil] at hm
      exact List.not_mem_nil hm
    rw [hnil, hno]
    rfl
  | some _ =>
    rw [List.perm_singleton.mp hbefore]
    rfl

/-- What is looked up under a key in written pairs: the value that writes the directive. -/
theorem lookup_writePairs {key : String} {writes : α → List Char → Prop} {directive : Option α}
    {written : List Pair} {items further : List (Nat × Pair)} (others : List Pair)
    (hkeys : ∀ item ∈ items ++ further, Tag.IsKey item.2.key)
    (hw : WrittenUnder key writes directive written)
    (hothers : ∀ pair ∈ others, pair.key ≠ key.toList)
    (hperm : (items.map (·.2)).Perm (written ++ others))
    (hfurther : ∀ item ∈ further, item.2.key = key.toList →
      ∃ first ∈ items, first.2.key = item.2.key) :
    Tag.lookup (Tag.writePairs items ++ Tag.writePairs further) key.toList
      = written.head?.map (·.value) := by
  have hpairs : Tag.pairs (Tag.writePairs items ++ Tag.writePairs further)
      = items.map (·.2) ++ further.map (·.2) := by
    rw [Tag.writePairs, Tag.writePairs, ← List.flatMap_append, ← Tag.writePairs,
      Tag.pairs_writePairs hkeys, List.map_append]
  rw [Tag.lookup, hpairs, find?_of_perm others hw hothers hperm]
  intro pair hp hk
  obtain ⟨item, hi, rfl⟩ := List.mem_map.mp hp
  obtain ⟨first, hf, he⟩ := hfurther item hi hk
  exact ⟨first.2, List.mem_map_of_mem hf, he.trans hk⟩

/-- A written directive is kept, and there is nothing to say about it. -/
theorem keepValid_of_written {key : String} {writes : α → List Char → Prop}
    {read : List Char → Except DirectiveError α} {directive : Option α} {written : List Pair}
    (hw : WrittenUnder key writes directive written)
    (hread : ∀ d text, writes d text → read text = .ok d) (field : String) :
    keepValid field key ((written.head?.map (·.value)).map read) = (directive, []) := by
  cases hw with
  | none => rfl
  | @some d text h =>
    show keepValid field key (Option.some (read text)) = _
    rw [hread d text h]
    rfl

/-- **The tag that writes two directives is read back as these, whatever stands beside them.** -/
theorem annotatedField_writePairs {bind : Option BindDirective} {bounds : Option Bounds}
    {bindPairs boundsPairs unrelated : List Pair} {items further : List (Nat × Pair)}
    (hbind : WrittenUnder "bind" Directive.BindText bind bindPairs)
    (hbounds : WrittenUnder "validate" Directive.BoundsText bounds boundsPairs)
    (hunrelated : ∀ pair ∈ unrelated, Tag.IsKey pair.key ∧ ¬IsDirectivePair pair)
    (hitems : (items.map (·.2)).Perm (bindPairs ++ boundsPairs ++ unrelated))
    (hfurther : ∀ item ∈ further, Tag.IsKey item.2.key ∧
      (IsDirectivePair item.2 → ∃ first ∈ items, first.2.key = item.2.key))
    (name type : String) :
    annotatedField name type (Tag.writePairs items ++ Tag.writePairs further)
      = (if bind.isSome || bounds.isSome then some (Field.of name type bind bounds) else none,
          []) := by
  have hkeys : ∀ item ∈ items ++ further, Tag.IsKey item.2.key := by
    intro item hi
    rcases List.mem_append.mp hi with hi | hi
    · have hm := hitems.mem_iff.mp (List.mem_map_of_mem hi)
      simp only [List.mem_append] at hm
      rcases hm with (hm | hm) | hm
      · exact hbind.key_eq _ hm ▸ isKey_bind
      · exact hbounds.key_eq _ hm ▸ isKey_validate
      · exact (hunrelated _ hm).1
    · exact (hfurther item hi).1
  have hlookupBind : Tag.lookup (Tag.writePairs items ++ Tag.writePairs further) "bind".toList
      = bindPairs.head?.map (·.value) := by
    refine lookup_writePairs (boundsPairs ++ unrelated) hkeys hbind ?_ ?_
      fun item hi hk => (hfurther item hi).2 (.inl hk)
    · intro pair hp
      rcases List.mem_append.mp hp with hp | hp
      · rw [hbounds.key_eq pair hp]; decide
      · exact fun hk => (hunrelated pair hp).2 (.inl hk)
    · rwa [← List.append_assoc]
  have hlookupBounds :
      Tag.lookup (Tag.writePairs items ++ Tag.writePairs further) "validate".toList
        = boundsPairs.head?.map (·.value) := by
    refine lookup_writePairs (bindPairs ++ unrelated) hkeys hbounds ?_ ?_
      fun item hi hk => (hfurther item hi).2 (.inr hk)
    · intro pair hp
      rcases List.mem_append.mp hp with hp | hp
      · rw [hbind.key_eq pair hp]; decide
      · exact fun hk => (hunrelated pair hp).2 (.inr hk)
    · rw [← List.append_assoc]
      exact hitems.trans (List.perm_append_comm.append_right unrelated)
  rw [annotatedField, hlookupBind, hlookupBounds,
    keepValid_of_written hbind fun _ _ => Directive.readBind_of_text,
    keepValid_of_written hbounds fun _ _ => Directive.readValidate_of_text]
  rfl

/-- A value with quotes before the directives, no space between pairs, a second `bind` at the end. -/
theorem annotatedField_of_written_tag :
    annotatedField "age" "u8"
        "doc:\"say \\\"bind:\\\"\"validate:\" max=7,min=-5\"  bind:\"query, required\" bind:\"path\"".toList
      = (some (Field.of "age" "u8" (some ⟨.query, true⟩) (some ⟨some (-5), some 7, rfl⟩)), []) := by
  have hquery : Directive.IsPadded BindSource.query.word.toList "query".toList :=
    ⟨[], [], rfl, rfl, rfl⟩
  have hrequired : Directive.IsPadded "required".toList " required".toList :=
    ⟨[' '], [], by decide, rfl, rfl⟩
  have hmax : Directive.IsPadded (Directive.boundToken "max" 7) " max=7".toList :=
    ⟨[' '], [], by decide, rfl, by decide⟩
  have hmin : Directive.IsPadded (Directive.boundToken "min" (-5)) "min=-5".toList :=
    ⟨[], [], rfl, rfl, by decide⟩
  let doc : Pair := ⟨"doc".toList, "say \"bind:\"".toList⟩
  let bind : Pair := ⟨"bind".toList, "query".toList ++ ',' :: " required".toList⟩
  let bounds : Pair := ⟨"validate".toList, " max=7".toList ++ ',' :: "min=-5".toList⟩
  let later : Pair := ⟨"bind".toList, "path".toList⟩
  have hitems : ([(0, doc), (0, bounds), (2, bind)].map (·.2)).Perm
      ([bind] ++ [bounds] ++ [doc]) := List.reverse_perm [bind, bounds, doc]
  have hunrelated : ∀ pair ∈ [doc], Tag.IsKey pair.key ∧ ¬IsDirectivePair pair := by
    intro pair hp
    rw [List.mem_singleton.mp hp]
    exact ⟨Tag.isKey_of_all (by decide) rfl, by unfold IsDirectivePair; decide⟩
  have hfurther : ∀ item ∈ [(1, later)], Tag.IsKey item.2.key ∧ (IsDirectivePair item.2 →
      ∃ first ∈ [(0, doc), (0, bounds), (2, bind)], first.2.key = item.2.key) := by
    intro item hi
    rw [List.mem_singleton.mp hi]
    exact ⟨isKey_bind, fun _ => ⟨(2, bind), by simp, rfl⟩⟩
  exact annotatedField_writePairs (.some (.required hquery hrequired)) (.some (.maxMin hmax hmin))
    hunrelated hitems hfurther "age" "u8"

end Extraction

end RequestBinding
