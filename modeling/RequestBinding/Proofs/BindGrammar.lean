import RequestBinding.Proofs.Annotation
import Mathlib.Data.List.Forall2

/-!
# The grammar of bind directives

Which values are bind directives, and which error is given for a value that is none. A value is cut
at its commas and blanks around a token do not count, so faults are said on tokens: what each token
may be at its place, and that of several tokens with a fault the leftmost is reported.

## Two layers

* **Tokens.** A value is its tokens with blanks around each and commas between them
  (`exists_texts`). `LeftmostFault` picks the error from the tokens, also for bounds.
* **Directives.** The reading of tokens ends with the directive that they write or with the leftmost
  fault (`bindOfTokens_cases`).

## Main statements

* `readBind_grammar` — the values that are read, and the error of every other.
-/

namespace RequestBinding.Directive

/-! ## Tokens -/

theorem isPadded_trim (text : List Char) : IsPadded (Text.trim text) text :=
  Text.exists_padding text

/-- A value is its tokens with blanks around each and commas between them. -/
theorem exists_texts (value : List Char) :
    ∃ texts, value = [','].intercalate texts ∧ List.Forall₂ IsPadded (tokens value) texts := by
  refine ⟨Text.pieces ',' value, (Text.intercalate_pieces ',' value).symm, ?_⟩
  rw [tokens, List.forall₂_map_left_iff, List.forall₂_same]
  exact fun text _ => isPadded_trim text

/-- The first token is what stands before the first comma, without the blanks around it. -/
theorem head?_tokens (value : List Char) :
    (tokens value).head? = some (Text.trim (value.takeWhile (· ≠ ','))) := by
  rw [tokens, List.head?_map, Text.head?_pieces]
  rfl

/-- A value of blanks is one token, which is empty. -/
theorem tokens_eq_singleton_nil_iff {value : List Char} :
    tokens value = [[]] ↔ Text.isBlankText value = true := by
  refine ⟨fun h => ?_, tokens_of_isBlankText⟩
  obtain ⟨texts, hvalue, htexts⟩ := exists_texts value
  rw [h] at htexts
  obtain ⟨text, rest, ⟨pre, post, hpre, hpost, rfl⟩, hrest, rfl⟩ :=
    List.forall₂_cons_left_iff.mp htexts
  obtain rfl := List.forall₂_nil_left_iff.mp hrest
  rw [List.intercalate_singleton, List.append_nil] at hvalue
  rw [hvalue, Text.isBlankText, List.all_append, Bool.and_eq_true]
  exact ⟨hpre, hpost⟩

/-! ## The leftmost fault -/

/-- The leftmost token with a fault has this error; the tokens are counted from a position. -/
inductive LeftmostFault (fault : Nat → List Char → DirectiveError → Prop) :
    Nat → List (List Char) → DirectiveError → Prop
  | here {i : Nat} {token : List Char} {more : List (List Char)} {e : DirectiveError} :
    fault i token e → LeftmostFault fault i (token :: more) e
  | later {i : Nat} {token : List Char} {more : List (List Char)} {e : DirectiveError} :
    (∀ e', ¬fault i token e') → LeftmostFault fault (i + 1) more e →
      LeftmostFault fault i (token :: more) e

section LeftmostFault

variable {fault : Nat → List Char → DirectiveError → Prop} {i : Nat} {token : List Char}
  {more : List (List Char)} {e : DirectiveError}

theorem not_leftmostFault_nil : ¬LeftmostFault fault i [] e := by
  rintro ⟨⟩

/-- A token with one fault decides. -/
theorem leftmostFault_iff_of_fault {e' : DirectiveError} (h : ∀ e, fault i token e ↔ e' = e) :
    LeftmostFault fault i (token :: more) e ↔ e' = e := by
  constructor
  · rintro (hfault | ⟨hnone, -⟩)
    · exact (h e).mp hfault
    · exact absurd ((h e').mpr rfl) (hnone e')
  · rintro rfl
    exact .here ((h e').mpr rfl)

/-- A token without a fault is passed over. -/
theorem leftmostFault_iff_of_none (h : ∀ e, ¬fault i token e) :
    LeftmostFault fault i (token :: more) e ↔ LeftmostFault fault (i + 1) more e := by
  refine ⟨?_, .later h⟩
  rintro (hfault | ⟨-, hlater⟩)
  · exact absurd hfault (h e)
  · exact hlater

theorem LeftmostFault.exists_fault (h : LeftmostFault fault i more e) :
    ∃ j token, fault j token e := by
  induction h with
  | here hfault => exact ⟨_, _, hfault⟩
  | later _ _ ih => exact ih

end LeftmostFault

/-! ## Bind directives -/

/-- What is wrong with a token at its position in the value of the key `bind`. -/
inductive BindFault : Nat → List Char → DirectiveError → Prop
  | empty : BindFault 0 [] .emptyBind
  | source {token : List Char} : token ≠ [] → (∀ source : BindSource, token ≠ source.word.toList) →
    BindFault 0 token (.unknownSource (String.ofList token))
  | option {token : List Char} : token ≠ "required".toList →
    BindFault 1 token (.invalidOption (String.ofList token))
  | extra {i : Nat} {token : List Char} :
    BindFault (i + 2) token (.trailingToken (String.ofList token))

theorem bindFault_empty {e : DirectiveError} : BindFault 0 [] e ↔ .emptyBind = e := by
  constructor
  · rintro (_ | ⟨hne, -⟩)
    · rfl
    · exact absurd rfl hne
  · rintro rfl
    exact .empty

theorem bindFault_source {token : List Char} (hne : token ≠ [])
    (h : BindSource.ofWord? token = none) {e : DirectiveError} :
    BindFault 0 token e ↔ .unknownSource (String.ofList token) = e := by
  constructor
  · rintro (_ | _)
    · exact absurd rfl hne
    · rfl
  · rintro rfl
    refine .source hne fun source hword => ?_
    rw [BindSource.ofWord?_eq_some_iff.mpr hword] at h
    cases h

theorem not_bindFault_word (source : BindSource) (e : DirectiveError) :
    ¬BindFault 0 source.word.toList e := by
  intro h
  generalize htoken : source.word.toList = token at h
  cases h with
  | empty => cases source <;> cases htoken
  | source _ hnone => exact hnone source htoken.symm

theorem bindFault_option {token : List Char} (h : token ≠ "required".toList) {e : DirectiveError} :
    BindFault 1 token e ↔ .invalidOption (String.ofList token) = e := by
  constructor
  · rintro ⟨⟩
    rfl
  · rintro rfl
    exact .option h

theorem not_bindFault_required (e : DirectiveError) : ¬BindFault 1 "required".toList e := by
  intro h
  generalize htoken : "required".toList = token at h
  cases h with
  | option hne => exact hne htoken.symm

theorem bindFault_extra {i : Nat} {token : List Char} {e : DirectiveError} :
    BindFault (i + 2) token e ↔ .trailingToken (String.ofList token) = e := by
  constructor
  · rintro ⟨⟩
    rfl
  · rintro rfl
    exact .extra

theorem exists_word_of_not_bindFault {token : List Char} (h : ∀ e, ¬BindFault 0 token e) :
    ∃ source : BindSource, token = source.word.toList := by
  by_contra hword
  simp only [not_exists] at hword
  by_cases hne : token = []
  · exact h .emptyBind (hne ▸ .empty)
  · exact h _ (.source hne hword)

theorem eq_required_of_not_bindFault {token : List Char} (h : ∀ e, ¬BindFault 1 token e) :
    token = "required".toList := by
  by_contra hne
  exact h _ (.option hne)

/-- Only at the start can the leftmost fault be an empty token. -/
theorem LeftmostFault.emptyBind {i : Nat} {tokens : List (List Char)}
    (h : LeftmostFault BindFault i tokens .emptyBind) : i = 0 ∧ tokens.head? = some [] := by
  generalize he : DirectiveError.emptyBind = e at h
  induction h with
  | here hfault =>
    subst he
    cases hfault
    exact ⟨rfl, rfl⟩
  | later _ _ ih => exact absurd (ih he).1 (Nat.succ_ne_zero _)

/-- Behind two tokens without a fault, the leftmost fault is a third token. -/
theorem leftmostFault_trailingToken_iff {tokens : List (List Char)} {extra : String} :
    LeftmostFault BindFault 0 tokens (.trailingToken extra) ↔
      ∃ (source : BindSource) (token : List Char) (more : List (List Char)),
        tokens = source.word.toList :: "required".toList :: token :: more ∧
          extra = String.ofList token := by
  constructor
  · rintro (⟨⟨⟩⟩ | ⟨hfirst, ⟨⟨⟩⟩ | ⟨hsecond, hthird | ⟨hnone, -⟩⟩⟩)
    · obtain ⟨source, rfl⟩ := exists_word_of_not_bindFault hfirst
      obtain rfl := eq_required_of_not_bindFault hsecond
      cases hthird
      exact ⟨source, _, _, rfl, rfl⟩
    · exact absurd .extra (hnone _)
  · rintro ⟨source, token, more, rfl, rfl⟩
    exact .later (not_bindFault_word source) (.later not_bindFault_required (.here .extra))

/-- The tokens write a bind directive. -/
inductive BindTokens : BindDirective → List (List Char) → Prop
  | optional {source : BindSource} : BindTokens ⟨source, false⟩ [source.word.toList]
  | required {source : BindSource} :
    BindTokens ⟨source, true⟩ [source.word.toList, "required".toList]

theorem bindOfTokens_of_none {first : List Char} (hne : first ≠ [])
    (h : BindSource.ofWord? first = none) (more : List (List Char)) :
    bindOfTokens (first :: more) = .error (.unknownSource (String.ofList first)) := by
  rw [bindOfTokens, h]
  exact hne

theorem bindOfTokens_word (source : BindSource) (more : List (List Char)) :
    bindOfTokens (source.word.toList :: more) =
      match more with
      | [] => .ok ⟨source, false⟩
      | option :: more =>
        if option = "required".toList then
          match more with
          | [] => .ok ⟨source, true⟩
          | extra :: _ => .error (.trailingToken (String.ofList extra))
        else .error (.invalidOption (String.ofList option)) := by
  cases source <;> rfl

/-- Tokens are read as the directive that they write, or else with the error of the leftmost token
at fault. -/
theorem bindOfTokens_cases {tokens : List (List Char)} (hne : tokens ≠ []) :
    (∃ directive, bindOfTokens tokens = .ok directive ∧ BindTokens directive tokens ∧
      ∀ e, ¬LeftmostFault BindFault 0 tokens e) ∨
    ∃ e, bindOfTokens tokens = .error e ∧ ∀ e', LeftmostFault BindFault 0 tokens e' ↔ e = e' := by
  -- each test of the reader decides whether the token at this position has its fault
  obtain ⟨first, more, rfl⟩ := List.exists_cons_of_ne_nil hne
  by_cases hfirst : first = []
  · subst hfirst
    exact .inr ⟨_, rfl, fun _ => leftmostFault_iff_of_fault fun _ => bindFault_empty⟩
  cases hword : BindSource.ofWord? first with
  | none =>
    exact .inr ⟨_, bindOfTokens_of_none hfirst hword more,
      fun _ => leftmostFault_iff_of_fault fun _ => bindFault_source hfirst hword⟩
  | some source =>
    obtain rfl := BindSource.ofWord?_eq_some_iff.mp hword
    simp only [leftmostFault_iff_of_none (not_bindFault_word source), bindOfTokens_word]
    cases more with
    | nil => exact .inl ⟨_, rfl, .optional, fun _ => not_leftmostFault_nil⟩
    | cons option more =>
      by_cases hoption : option = "required".toList
      · subst hoption
        simp only [leftmostFault_iff_of_none not_bindFault_required, if_pos]
        cases more with
        | nil => exact .inl ⟨_, rfl, .required, fun _ => not_leftmostFault_nil⟩
        | cons extra more =>
          exact .inr ⟨_, rfl, fun _ => leftmostFault_iff_of_fault fun _ => bindFault_extra⟩
      · simp only [if_neg hoption]
        exact .inr ⟨_, rfl, fun _ => leftmostFault_iff_of_fault fun _ => bindFault_option hoption⟩

theorem bindOfTokens_eq_ok_iff {tokens : List (List Char)} (hne : tokens ≠ [])
    {directive : BindDirective} :
    bindOfTokens tokens = .ok directive ↔ BindTokens directive tokens := by
  constructor
  · intro h
    rcases bindOfTokens_cases hne with ⟨found, hok, htokens, -⟩ | ⟨e, herror, -⟩
    · rw [h] at hok
      cases hok
      exact htokens
    · rw [h] at herror
      cases herror
  · rintro ⟨⟩
    · exact bindOfTokens_word _ []
    · rw [bindOfTokens_word]
      rfl

theorem bindOfTokens_eq_error_iff {tokens : List (List Char)} (hne : tokens ≠ [])
    {e : DirectiveError} :
    bindOfTokens tokens = .error e ↔ LeftmostFault BindFault 0 tokens e := by
  rcases bindOfTokens_cases hne with ⟨found, hok, -, hnone⟩ | ⟨found, herror, hfault⟩
  · simp [hok, hnone]
  · simp [herror, hfault]

/-- The texts of which a value may consist whose tokens write a bind directive. -/
theorem bindText_of_tokens {directive : BindDirective} {value : List Char}
    (h : BindTokens directive (tokens value)) : BindText directive value := by
  obtain ⟨texts, hvalue, htexts⟩ := exists_texts value
  generalize tokens value = found at h htexts
  cases h with
  | optional =>
    obtain ⟨text, rest, hword, hrest, rfl⟩ := List.forall₂_cons_left_iff.mp htexts
    obtain rfl := List.forall₂_nil_left_iff.mp hrest
    rw [hvalue, List.intercalate_singleton]
    exact .optional hword
  | required =>
    obtain ⟨text₁, rest, hword, hrest, rfl⟩ := List.forall₂_cons_left_iff.mp htexts
    obtain ⟨text₂, rest, hrequired, hnil, rfl⟩ := List.forall₂_cons_left_iff.mp hrest
    obtain rfl := List.forall₂_nil_left_iff.mp hnil
    rw [hvalue, List.intercalate_cons_cons, List.intercalate_singleton, List.append_assoc]
    exact .required hword hrequired

/-- **The values of the key `bind` are exactly those of its grammar.** A value that is none has the
error of the leftmost token at fault: the first is blank exactly if nothing but blanks stands before
the first comma, and a token too many is reported only behind two that are right. -/
theorem readBind_grammar (value : List Char) :
    (∀ directive, readBind value = .ok directive ↔ BindText directive value) ∧
    (∀ e, readBind value = .error e ↔ LeftmostFault BindFault 0 (tokens value) e) ∧
    (readBind value = .error .emptyBind ↔
      Text.isBlankText (value.takeWhile (· ≠ ',')) = true) ∧
    ∀ extra, readBind value = .error (.trailingToken extra) ↔
      ∃ (source : BindSource) (token : List Char) (more : List (List Char)),
        tokens value = source.word.toList :: "required".toList :: token :: more ∧
          extra = String.ofList token := by
  have hne := tokens_ne_nil value
  have herror : ∀ e, readBind value = .error e ↔ LeftmostFault BindFault 0 (tokens value) e :=
    fun e => bindOfTokens_eq_error_iff hne
  refine ⟨fun directive => ⟨fun h => ?_, readBind_of_text⟩, herror, ?_, fun extra => ?_⟩
  · exact bindText_of_tokens ((bindOfTokens_eq_ok_iff hne).mp h)
  · rw [herror, ← Text.trim_eq_nil_iff]
    have hhead := head?_tokens value
    constructor
    · intro h
      rw [h.emptyBind.2] at hhead
      exact (Option.some.inj hhead).symm
    · intro htrim
      obtain ⟨first, more, htokens⟩ := List.exists_cons_of_ne_nil hne
      rw [htokens, List.head?_cons, htrim] at hhead
      rw [htokens, Option.some.inj hhead]
      exact .here .empty
  · rw [herror, leftmostFault_trailingToken_iff]

end RequestBinding.Directive
