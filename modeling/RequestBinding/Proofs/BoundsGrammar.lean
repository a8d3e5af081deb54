import RequestBinding.Proofs.BindGrammar
import RequestBinding.Proofs.Numerals

/-!
# The grammar of bounds

Which values of the key `validate` give bounds, which bounds they give, and which error is given for
a value that gives none. Each token stands for itself: it writes a bound or has a fault, whatever
stands beside it. So the order of tokens matters in two ways only: the last token of a kind gives
the bound of that kind, and the leftmost fault gives the error.

## Main statements

* `readBoundToken_eq_ok_iff`, `readBoundToken_eq_error_iff` — one token.
* `boundsOfTokens_of_texts`, `boundsOfTokens_eq_error_iff` — the tokens one after the other.
* `readValidate_grammar` — the values that are read, the errors, and tokens in another order.
-/

namespace RequestBinding.Directive

/-! ## One token -/

inductive BoundKind where
  | min
  | max
deriving DecidableEq

namespace BoundKind

/-- What an error calls a bound of this kind. -/
def word : BoundKind → String
  | min => "min"
  | max => "max"

/-- What a token for a bound of this kind starts with. -/
def opening : BoundKind → List Char
  | min => "min=".toList
  | max => "max=".toList

/-- The token for a bound of this kind. -/
def token : BoundKind → Int64 → BoundToken
  | min => .min
  | max => .max

/-- The number of a token of this kind. -/
def operand? : BoundKind → BoundToken → Option Int64
  | min, .min n => some n
  | max, .max n => some n
  | _, _ => none

/-- The bound of this kind, if there is one. -/
def bound? (bounds : Bounds) : BoundKind → Option Int64
  | min => bounds.min
  | max => bounds.max

end BoundKind

/-- The token writes a bound: its kind, and a numeral of a number that 64 bits hold. -/
inductive BoundText : BoundToken → List Char → Prop
  | intro {kind : BoundKind} {n : Int64} {numeral : List Char} :
    Text.IsNumeral n.toInt numeral → BoundText (kind.token n) (kind.opening ++ numeral)

/-- What is wrong with a token in the value of the key `validate`. -/
inductive BoundFault : List Char → DirectiveError → Prop
  | rule {token : List Char} : (∀ kind : BoundKind, ¬kind.opening <+: token) →
    BoundFault token (.unsupportedRule (String.ofList token))
  | operand {kind : BoundKind} {operand : List Char} :
    (∀ n : Int64, ¬Text.IsNumeral n.toInt operand) →
      BoundFault (kind.opening ++ operand) (.invalidBound kind.word (String.ofList operand))

theorem readBoundToken_opening (kind : BoundKind) (operand : List Char) :
    readBoundToken (kind.opening ++ operand) = (readOperand kind.word operand).map kind.token := by
  cases kind <;> rfl

theorem readBoundToken_of_text {bound : BoundToken} {token : List Char}
    (h : BoundText bound token) : readBoundToken token = .ok bound := by
  obtain ⟨hnumeral⟩ := h
  rw [readBoundToken_opening, readOperand, Text.readInt64_eq_some_iff.mpr hnumeral]
  rfl

theorem readBoundToken_of_fault {token : List Char} {e : DirectiveError} (h : BoundFault token e) :
    readBoundToken token = .error e := by
  cases h with
  | rule hopening =>
    unfold readBoundToken
    split
    · next operand => exact absurd ⟨operand, rfl⟩ (hopening .min)
    · next operand => exact absurd ⟨operand, rfl⟩ (hopening .max)
    · rfl
  | @operand kind operand hnumeral =>
    have hnone : Text.readInt64 operand = none :=
      Option.eq_none_iff_forall_ne_some.mpr fun n hn =>
        hnumeral n (Text.readInt64_eq_some_iff.mp hn)
    rw [readBoundToken_opening, readOperand, hnone]
    rfl

theorem not_boundFault_of_text {bound : BoundToken} {token : List Char} (h : BoundText bound token)
    (e : DirectiveError) : ¬BoundFault token e := by
  intro he
  have hread := readBoundToken_of_fault he
  rw [readBoundToken_of_text h] at hread
  cases hread

/-- A token writes a bound or has a fault. -/
theorem boundText_or_boundFault (token : List Char) :
    (∃ bound, BoundText bound token) ∨ ∃ e, BoundFault token e := by
  by_cases hopening : ∃ kind : BoundKind, kind.opening <+: token
  · obtain ⟨kind, operand, rfl⟩ := hopening
    by_cases hnumeral : ∃ n : Int64, Text.IsNumeral n.toInt operand
    · obtain ⟨n, hn⟩ := hnumeral
      exact .inl ⟨_, .intro hn⟩
    · exact .inr ⟨_, .operand (not_exists.mp hnumeral)⟩
  · exact .inr ⟨_, .rule (not_exists.mp hopening)⟩

theorem readBoundToken_eq_ok_iff {token : List Char} {bound : BoundToken} :
    readBoundToken token = .ok bound ↔ BoundText bound token := by
  refine ⟨fun h => ?_, readBoundToken_of_text⟩
  rcases boundText_or_boundFault token with ⟨found, hfound⟩ | ⟨e, he⟩
  · rw [readBoundToken_of_text hfound] at h
    cases h
    exact hfound
  · rw [readBoundToken_of_fault he] at h
    cases h

theorem readBoundToken_eq_error_iff {token : List Char} {e : DirectiveError} :
    readBoundToken token = .error e ↔ BoundFault token e := by
  refine ⟨fun h => ?_, readBoundToken_of_fault⟩
  rcases boundText_or_boundFault token with ⟨found, hfound⟩ | ⟨e, he⟩
  · rw [readBoundToken_of_text hfound] at h
    cases h
  · rw [readBoundToken_of_fault he] at h
    cases h
    exact he

/-- A token with a fault has no other. -/
theorem boundFault_iff_of_error {token : List Char} {e e' : DirectiveError}
    (h : readBoundToken token = .error e') : BoundFault token e ↔ e' = e := by
  rw [← readBoundToken_eq_error_iff, h, Except.error.injEq]

/-! ## Tokens of bounds -/

/-- The last token of a kind decides its bound, and those before it do not. -/
def lastOf (kind : BoundKind) (found : List BoundToken) : Option Int64 :=
  (found.filterMap kind.operand?).getLast?

theorem lastOf_cons (kind : BoundKind) (bound : BoundToken) (found : List BoundToken) :
    lastOf kind (bound :: found) = (lastOf kind found).or (kind.operand? bound) := by
  rw [lastOf, List.filterMap_cons]
  cases kind.operand? bound with
  | none => rw [Option.or_none, lastOf]
  | some n =>
    rw [List.getLast?_cons, lastOf]
    cases (found.filterMap kind.operand?).getLast? <;> rfl

/-- Tokens that all write bounds are read as these: the last of a kind holds, and without one what
held before. -/
theorem boundsOfTokens_of_texts {found : List BoundToken} {tokens : List (List Char)}
    (h : List.Forall₂ BoundText found tokens) (min max : Option Int64) :
    boundsOfTokens min max tokens
      = .ok ((lastOf .min found).or min, (lastOf .max found).or max) := by
  induction h generalizing min max with
  | nil => rfl
  | @cons bound token found tokens htext _ ih =>
    rw [boundsOfTokens, readBoundToken_of_text htext, lastOf_cons, lastOf_cons]
    cases bound <;> simp only [ih, Option.or_assoc] <;> rfl

/-- The tokens are refused with the fault of the leftmost one that writes no bound. -/
theorem boundsOfTokens_eq_error_iff {tokens : List (List Char)} {e : DirectiveError} :
    ∀ {min max : Option Int64} {i : Nat}, boundsOfTokens min max tokens = .error e ↔
      LeftmostFault (fun _ => BoundFault) i tokens e := by
  induction tokens with
  | nil => simp [boundsOfTokens, not_leftmostFault_nil]
  | cons token more ih =>
    intro min max i
    cases hread : readBoundToken token with
    | error e' =>
      have hfault : ∀ e, BoundFault token e ↔ e' = e := fun _ => boundFault_iff_of_error hread
      rw [boundsOfTokens, hread, leftmostFault_iff_of_fault hfault, Except.error.injEq]
    | ok bound =>
      have hnone := not_boundFault_of_text (readBoundToken_eq_ok_iff.mp hread)
      rw [leftmostFault_iff_of_none hnone, boundsOfTokens, hread]
      cases bound <;> exact ih

/-- Each token writes a bound, or one of them is the leftmost with a fault. -/
theorem exists_found_or_leftmostFault (tokens : List (List Char)) (i : Nat) :
    (∃ found, List.Forall₂ BoundText found tokens) ∨
      ∃ e, LeftmostFault (fun _ => BoundFault) i tokens e := by
  induction tokens generalizing i with
  | nil => exact .inl ⟨[], .nil⟩
  | cons token more ih =>
    rcases boundText_or_boundFault token with ⟨bound, hbound⟩ | ⟨e, he⟩
    · rcases ih (i + 1) with ⟨found, hfound⟩ | ⟨e, he⟩
      · exact .inl ⟨bound :: found, .cons hbound hfound⟩
      · exact .inr ⟨e, .later (not_boundFault_of_text hbound) he⟩
    · exact .inr ⟨e, .here he⟩

theorem exists_found_iff {tokens : List (List Char)} :
    (∃ found, List.Forall₂ BoundText found tokens) ↔
      ∀ token ∈ tokens, ∃ bound, BoundText bound token := by
  induction tokens with
  | nil => exact ⟨fun _ _ h => absurd h List.not_mem_nil, fun _ => ⟨[], .nil⟩⟩
  | cons token more ih =>
    rw [List.forall_mem_cons, ← ih]
    constructor
    · rintro ⟨found, hfound⟩
      obtain ⟨bound, rest, hbound, hrest, rfl⟩ := List.forall₂_cons_right_iff.mp hfound
      exact ⟨⟨bound, hbound⟩, rest, hrest⟩
    · rintro ⟨⟨bound, hbound⟩, rest, hrest⟩
      exact ⟨bound :: rest, .cons hbound hrest⟩

/-! ## Values of bounds -/

/-- A value has a token, so the last of its kind is there. -/
theorem isSome_lastOf {found : List BoundToken} {value : List Char}
    (h : List.Forall₂ BoundText found (tokens value)) :
    ((lastOf .min found).isSome || (lastOf .max found).isSome) = true := by
  obtain ⟨token, more, htokens⟩ := List.exists_cons_of_ne_nil (tokens_ne_nil value)
  rw [htokens] at h
  obtain ⟨bound, rest, -, -, rfl⟩ := List.forall₂_cons_right_iff.mp h
  rw [lastOf_cons, lastOf_cons, Option.isSome_or, Option.isSome_or]
  cases bound <;> simp [BoundKind.operand?]

theorem BoundText.ne_nil {bound : BoundToken} {token : List Char} (h : BoundText bound token) :
    token ≠ [] := by
  obtain @⟨kind, _, _, _⟩ := h
  cases kind <;> exact List.cons_ne_nil _ _

/-- A value of which each token writes a bound is read, and the last token of a kind holds. -/
theorem readValidate_of_texts {found : List BoundToken} {value : List Char}
    (h : List.Forall₂ BoundText found (tokens value)) :
    ∃ bounds, readValidate value = .ok bounds ∧
      ∀ kind : BoundKind, kind.bound? bounds = lastOf kind found := by
  have hsome := isSome_lastOf h
  have hread := boundsOfTokens_of_texts h none none
  obtain ⟨token, more, htokens⟩ := List.exists_cons_of_ne_nil (tokens_ne_nil value)
  rw [htokens] at h hread
  obtain ⟨bound, rest, hbound, -, -⟩ := List.forall₂_cons_right_iff.mp h
  rw [Option.or_none, Option.or_none] at hread
  refine ⟨⟨_, _, hsome⟩, readValidate_of_tokens htokens hbound.ne_nil hread, ?_⟩
  rintro ⟨⟩ <;> rfl

/-- A value with a token at fault that is not blank is refused with the fault of the leftmost. -/
theorem readValidate_of_leftmostFault {value : List Char} {e : DirectiveError}
    (hblank : Text.isBlankText value = false)
    (h : LeftmostFault (fun _ => BoundFault) 0 (tokens value) e) :
    readValidate value = .error e := by
  rw [readValidate, hblank, boundsOfTokens_eq_error_iff.mpr h]
  rfl

theorem bounds_eq {bounds bounds' : Bounds}
    (h : ∀ kind : BoundKind, kind.bound? bounds = kind.bound? bounds') : bounds = bounds' := by
  have hmin : bounds.min = bounds'.min := h .min
  have hmax : bounds.max = bounds'.max := h .max
  cases bounds
  cases bounds'
  cases hmin
  cases hmax
  rfl

theorem readValidate_of_blank {value : List Char} (h : Text.isBlankText value = true) :
    readValidate value = .error .emptyValidate := by
  rw [readValidate, if_pos h]

theorem readValidate_eq_ok_iff {value : List Char} {bounds : Bounds} :
    readValidate value = .ok bounds ↔
      ∃ found, List.Forall₂ BoundText found (tokens value) ∧
        ∀ kind : BoundKind, kind.bound? bounds = lastOf kind found := by
  constructor
  · intro h
    cases hblank : Text.isBlankText value with
    | true =>
      rw [readValidate_of_blank hblank] at h
      cases h
    | false =>
      rcases exists_found_or_leftmostFault (tokens value) 0 with ⟨found, hfound⟩ | ⟨e, he⟩
      · obtain ⟨bounds', hok, hlast⟩ := readValidate_of_texts hfound
        rw [h] at hok
        cases hok
        exact ⟨found, hfound, hlast⟩
      · rw [readValidate_of_leftmostFault hblank he] at h
        cases h
  · rintro ⟨found, hfound, hlast⟩
    obtain ⟨bounds', hok, hlast'⟩ := readValidate_of_texts hfound
    rw [hok, bounds_eq fun kind => (hlast kind).trans (hlast' kind).symm]

theorem readValidate_eq_error_iff {value : List Char} (hblank : Text.isBlankText value = false)
    {e : DirectiveError} :
    readValidate value = .error e ↔ LeftmostFault (fun _ => BoundFault) 0 (tokens value) e := by
  refine ⟨fun h => ?_, readValidate_of_leftmostFault hblank⟩
  rcases exists_found_or_leftmostFault (tokens value) 0 with ⟨found, hfound⟩ | ⟨e', he'⟩
  · obtain ⟨bounds, hok, -⟩ := readValidate_of_texts hfound
    rw [h] at hok
    cases hok
  · rw [readValidate_of_leftmostFault hblank he'] at h
    cases h
    exact he'

/-- No token has the fault that a blank value has. -/
theorem readValidate_eq_emptyValidate_iff {value : List Char} :
    readValidate value = .error .emptyValidate ↔ Text.isBlankText value = true := by
  refine ⟨fun h => ?_, readValidate_of_blank⟩
  by_contra hblank
  have hfault := (readValidate_eq_error_iff (Bool.eq_false_iff.mpr hblank)).mp h
  obtain ⟨-, token, hempty⟩ := hfault.exists_fault
  cases hempty

/-- Tokens that are all read never leave both bounds open. -/
theorem bounds_of_boundsOfTokens {value : List Char} {min max : Option Int64}
    (h : boundsOfTokens none none (tokens value) = .ok (min, max)) : Bounds.of? min max ≠ none := by
  rcases exists_found_or_leftmostFault (tokens value) 0 with ⟨found, hfound⟩ | ⟨e, he⟩
  · have hsome := isSome_lastOf hfound
    rw [boundsOfTokens_of_texts hfound, Option.or_none, Option.or_none] at h
    cases h
    rw [Bounds.of?, dif_pos hsome]
    exact Option.some_ne_none _
  · rw [boundsOfTokens_eq_error_iff.mpr he] at h
    cases h

theorem readValidate_accepts_iff {value : List Char} :
    (∃ bounds, readValidate value = .ok bounds) ↔
      ∀ token ∈ tokens value, ∃ bound, BoundText bound token := by
  rw [← exists_found_iff]
  constructor
  · rintro ⟨bounds, hok⟩
    obtain ⟨found, hfound, -⟩ := readValidate_eq_ok_iff.mp hok
    exact ⟨found, hfound⟩
  · rintro ⟨found, hfound⟩
    obtain ⟨bounds, hok, -⟩ := readValidate_of_texts hfound
    exact ⟨bounds, hok⟩

/-! ## The order of bounds -/

theorem operand?_token (kind kind' : BoundKind) (n : Int64) :
    kind.operand? (kind'.token n) = if kind = kind' then some n else none := by
  cases kind <;> cases kind' <;> rfl

theorem isPrefixOf_opening (kind kind' : BoundKind) (numeral : List Char) :
    kind.opening.isPrefixOf (kind'.opening ++ numeral) = decide (kind = kind') := by
  cases kind <;> cases kind' <;> rfl

/-- The numbers of a kind are those of the tokens that start as this kind does. -/
theorem forall₂_operands {found : List BoundToken} {tokens : List (List Char)}
    (h : List.Forall₂ BoundText found tokens) (kind : BoundKind) :
    List.Forall₂ (fun n => BoundText (kind.token n)) (found.filterMap kind.operand?)
      (tokens.filter kind.opening.isPrefixOf) := by
  induction h with
  | nil => exact .nil
  | @cons _ _ found tokens htext _ ih =>
    obtain @⟨kind', n, numeral, hnumeral⟩ := htext
    by_cases hkind : kind = kind'
    · subst hkind
      rw [List.filterMap_cons_some (by rw [operand?_token, if_pos rfl]),
        List.filter_cons_of_pos (by rw [isPrefixOf_opening]; exact decide_eq_true rfl)]
      exact .cons (.intro hnumeral) ih
    · rw [List.filterMap_cons_none (by rw [operand?_token, if_neg hkind]),
        List.filter_cons_of_neg (by rw [isPrefixOf_opening]; simpa using hkind)]
      exact ih

theorem leftUnique_boundText (kind : BoundKind) :
    Relator.LeftUnique fun n => BoundText (kind.token n) := by
  intro m token n hm hn
  have hread := readBoundToken_of_text hm
  rw [readBoundToken_of_text hn] at hread
  cases kind <;> (cases hread; rfl)

/-- Tokens in another order, with those of each kind in the same order, give the same bounds. -/
theorem lastOf_eq_of_filter {found found' : List BoundToken} {tokens tokens' : List (List Char)}
    (h : List.Forall₂ BoundText found tokens) (h' : List.Forall₂ BoundText found' tokens')
    {kind : BoundKind}
    (horder : tokens'.filter kind.opening.isPrefixOf = tokens.filter kind.opening.isPrefixOf) :
    lastOf kind found' = lastOf kind found := by
  have hoperands := forall₂_operands h kind
  have hoperands' := forall₂_operands h' kind
  rw [horder] at hoperands'
  rw [lastOf, lastOf, List.left_unique_forall₂' (leftUnique_boundText kind) hoperands' hoperands]

theorem readValidate_accepts_of_perm {value other : List Char}
    (hperm : (tokens other).Perm (tokens value)) :
    (∃ bounds, readValidate other = .ok bounds) ↔ ∃ bounds, readValidate value = .ok bounds := by
  rw [readValidate_accepts_iff, readValidate_accepts_iff]
  exact forall_congr' fun token => imp_congr_left hperm.mem_iff

theorem readValidate_ok_of_filter {value other : List Char} {bounds : Bounds}
    (hperm : (tokens other).Perm (tokens value))
    (horder : ∀ kind : BoundKind, (tokens other).filter kind.opening.isPrefixOf
      = (tokens value).filter kind.opening.isPrefixOf)
    (hok : readValidate value = .ok bounds) : readValidate other = .ok bounds := by
  obtain ⟨bounds', hok'⟩ := (readValidate_accepts_of_perm hperm).mpr ⟨bounds, hok⟩
  obtain ⟨found, hfound, hlast⟩ := readValidate_eq_ok_iff.mp hok
  obtain ⟨found', hfound', hlast'⟩ := readValidate_eq_ok_iff.mp hok'
  have hsame : bounds' = bounds := bounds_eq fun kind => by
    rw [hlast, hlast', lastOf_eq_of_filter hfound hfound' (horder kind)]
  rw [hok', hsame]

/-- The token writes no bound. -/
def isAtFault (token : List Char) : Bool := !(readBoundToken token).isOk

theorem leftmostFault_iff_find? {tokens : List (List Char)} {i : Nat} {e : DirectiveError} :
    LeftmostFault (fun _ => BoundFault) i tokens e ↔
      ∃ token, tokens.find? isAtFault = some token ∧ BoundFault token e := by
  induction tokens generalizing i with
  | nil => simp [not_leftmostFault_nil]
  | cons token more ih =>
    cases hread : readBoundToken token with
    | error e' =>
      have hfault : ∀ e, BoundFault token e ↔ e' = e := fun _ => boundFault_iff_of_error hread
      have hat : isAtFault token = true := by rw [isAtFault, hread]; rfl
      rw [leftmostFault_iff_of_fault hfault, List.find?_cons_of_pos hat]
      simp [hfault]
    | ok bound =>
      have hnone := not_boundFault_of_text (readBoundToken_eq_ok_iff.mp hread)
      have hat : ¬isAtFault token = true := by rw [isAtFault, hread]; exact Bool.false_ne_true
      rw [leftmostFault_iff_of_none hnone, List.find?_cons_of_neg hat, ih]

/-- Tokens in another order, with those at fault in the same order, give the same error. -/
theorem readValidate_error_of_filter {value other : List Char}
    (hperm : (tokens other).Perm (tokens value))
    (horder : (tokens other).filter isAtFault = (tokens value).filter isAtFault)
    (e : DirectiveError) : readValidate other = .error e ↔ readValidate value = .error e := by
  have hblank : Text.isBlankText other = Text.isBlankText value := by
    rw [Bool.eq_iff_iff, ← tokens_eq_singleton_nil_iff, ← tokens_eq_singleton_nil_iff]
    constructor <;> intro h
    · exact List.perm_singleton.mp (h ▸ hperm.symm)
    · exact List.perm_singleton.mp (h ▸ hperm)
  have hfind : (tokens other).find? isAtFault = (tokens value).find? isAtFault := by
    rw [← List.head?_filter, horder, List.head?_filter]
  cases hvalue : Text.isBlankText value with
  | true => rw [readValidate_of_blank hvalue, readValidate_of_blank (hblank.trans hvalue)]
  | false =>
    rw [readValidate_eq_error_iff hvalue, readValidate_eq_error_iff (hblank.trans hvalue),
      leftmostFault_iff_find?, leftmostFault_iff_find?, hfind]

/-- **The values of the key `validate` are exactly those of its grammar.** The last bound of a kind
holds, and there is one at least. A blank value is empty, and any other that is refused has the
error of the leftmost token at fault. Tokens in another order are accepted just as well, and give
the same bounds if those of each kind keep their order; what is refused has the same error if the
tokens at fault keep theirs. -/
theorem readValidate_grammar (value : List Char) :
    ((∃ bounds, readValidate value = .ok bounds) ↔
      ∀ token ∈ tokens value, ∃ bound, BoundText bound token) ∧
    (∀ bounds, readValidate value = .ok bounds ↔
      ∃ found, List.Forall₂ BoundText found (tokens value) ∧
        ∀ kind : BoundKind, kind.bound? bounds = lastOf kind found) ∧
    (readValidate value = .error .emptyValidate ↔ Text.isBlankText value = true) ∧
    (∀ min max, boundsOfTokens none none (tokens value) = .ok (min, max) →
      Bounds.of? min max ≠ none) ∧
    (Text.isBlankText value = false → ∀ e, readValidate value = .error e ↔
      LeftmostFault (fun _ => BoundFault) 0 (tokens value) e) ∧
    ∀ other, (tokens other).Perm (tokens value) →
      ((∃ bounds, readValidate other = .ok bounds) ↔ ∃ bounds, readValidate value = .ok bounds) ∧
      ((∀ kind : BoundKind, (tokens other).filter kind.opening.isPrefixOf
          = (tokens value).filter kind.opening.isPrefixOf) →
        ∀ bounds, readValidate other = .ok bounds ↔ readValidate value = .ok bounds) ∧
      ((tokens other).filter isAtFault = (tokens value).filter isAtFault →
        ∀ e, readValidate other = .error e ↔ readValidate value = .error e) := by
  refine ⟨readValidate_accepts_iff, fun _ => readValidate_eq_ok_iff,
    readValidate_eq_emptyValidate_iff, fun _ _ => bounds_of_boundsOfTokens,
    fun hblank _ => readValidate_eq_error_iff hblank, fun other hperm =>
      ⟨readValidate_accepts_of_perm hperm, fun horder bounds => ⟨?_, ?_⟩,
        readValidate_error_of_filter hperm⟩⟩
  · exact readValidate_ok_of_filter hperm.symm fun kind => (horder kind).symm
  · exact readValidate_ok_of_filter hperm horder

/-- Minima and maxima change places, and the last of each stays the last. -/
theorem readValidate_grammar_reordered :
    (tokens "max=9 ,min=1,min=3".toList).Perm (tokens "min=1, max=9,min=3".toList) ∧
      readValidate "min=1, max=9,min=3".toList = .ok ⟨some 3, some 9, rfl⟩ ∧
      readValidate "max=9 ,min=1,min=3".toList = .ok ⟨some 3, some 9, rfl⟩ := by
  have hperm : (tokens "max=9 ,min=1,min=3".toList).Perm (tokens "min=1, max=9,min=3".toList) := by
    decide
  have hkinds : ∀ kind : BoundKind,
      (tokens "max=9 ,min=1,min=3".toList).filter kind.opening.isPrefixOf
        = (tokens "min=1, max=9,min=3".toList).filter kind.opening.isPrefixOf := by
    rintro (_ | _) <;> decide
  have hok : readValidate "min=1, max=9,min=3".toList = .ok ⟨some 3, some 9, rfl⟩ := by decide
  obtain ⟨-, -, -, -, -, horder⟩ := readValidate_grammar "min=1, max=9,min=3".toList
  exact ⟨hperm, hok, ((horder _ hperm).2.1 hkinds _).mpr hok⟩

end RequestBinding.Directive
