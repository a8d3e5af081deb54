import RequestBinding.Text.Blank
import RequestBinding.Text.Numeral
import RequestBinding.Text.Pieces

/-!
# Directives

What a tag says about a field: where its value is read from (`BindDirective`) and between
which bounds an integer must lie (`Bounds`).

## The values of the two keys

```
bind value     ::= source [ ',' 'required' ]     source ∈ {header, path, query}
validate value ::= bound (',' bound)*            bound ::= 'min=' int | 'max=' int
```

Blanks around each token between the commas do not count. Of two faulty tokens the left one is
reported (`DirectiveError`); of two bounds of one kind the right one holds.
-/

namespace RequestBinding

/-! ## Types -/

/-- Where the value of a bound field comes from. -/
inductive BindSource where
  | header
  | path
  | query
deriving Repr, DecidableEq

namespace BindSource

/-- The word for a source in a tag. -/
def word : BindSource → String
  | header => "header"
  | path => "path"
  | query => "query"

/-- The source with this word; case counts. -/
def ofWord? : List Char → Option BindSource
  | ['h', 'e', 'a', 'd', 'e', 'r'] => some header
  | ['p', 'a', 't', 'h'] => some path
  | ['q', 'u', 'e', 'r', 'y'] => some query
  | _ => none

theorem ofWord?_eq_some_iff {cs : List Char} {source : BindSource} :
    ofWord? cs = some source ↔ cs = source.word.toList := by
  constructor
  · unfold ofWord?
    split <;> intro h <;> simp at h <;> subst h <;> rfl
  · rintro rfl
    cases source <;> rfl

end BindSource

/-- A field is read from a source; a required one must not be empty. -/
structure BindDirective where
  source : BindSource
  required : Bool
deriving Repr, DecidableEq

/-- Inclusive bounds of an integer, at least one of them. -/
structure Bounds where
  min : Option Int64
  max : Option Int64
  bounded : (min.isSome || max.isSome) = true
deriving Repr, DecidableEq

/-- The bounds, if there is one. -/
def Bounds.of? (min max : Option Int64) : Option Bounds :=
  if h : (min.isSome || max.isSome) = true then some ⟨min, max, h⟩ else none

/-- A value that is no directive, with the token at fault. -/
inductive DirectiveError where
  | emptyBind
  | unknownSource (token : String)
  | invalidOption (token : String)
  | trailingToken (token : String)
  | emptyValidate
  | unsupportedRule (token : String)
  | invalidBound (bound operand : String)
deriving Repr, DecidableEq

def DirectiveError.message : DirectiveError → String
  | emptyBind => "empty bind directive"
  | unknownSource token => s!"invalid bind source '{token}': expected header, path or query"
  | invalidOption token => s!"invalid bind option '{token}': only 'required' is allowed"
  | trailingToken token => s!"unexpected bind token '{token}'"
  | emptyValidate => "empty validate directive"
  | unsupportedRule token => s!"unsupported validation rule '{token}'"
  | invalidBound bound operand => s!"invalid {bound} value '{operand}'"

/-! ## Reading -/

namespace Directive

/-- The tokens of a value: its parts between commas, without the blanks around them. -/
def tokens (value : List Char) : List (List Char) := (Text.pieces ',' value).map Text.trim

theorem tokens_ne_nil (value : List Char) : tokens value ≠ [] := by
  simp [tokens, Text.pieces_ne_nil]

/-- The directive of a list of tokens. -/
def bindOfTokens : List (List Char) → Except DirectiveError BindDirective
  | [] => .error .emptyBind
  | [] :: _ => .error .emptyBind
  | first :: more =>
    match BindSource.ofWord? first with
    | none => .error (.unknownSource (String.ofList first))
    | some source =>
      match more with
      | [] => .ok ⟨source, false⟩
      | option :: more =>
        if option = "required".toList then
          match more with
          | [] => .ok ⟨source, true⟩
          | extra :: _ => .error (.trailingToken (String.ofList extra))
        else .error (.invalidOption (String.ofList option))

/-- Read the value of the key `bind`. -/
def readBind (value : List Char) : Except DirectiveError BindDirective :=
  bindOfTokens (tokens value)

/-- One token of the value of the key `validate`. -/
inductive BoundToken where
  | min (value : Int64)
  | max (value : Int64)
deriving Repr, DecidableEq

/-- The operand of a bound. -/
def readOperand (bound : String) (operand : List Char) : Except DirectiveError Int64 :=
  match Text.readInt64 operand with
  | some n => .ok n
  | none => .error (.invalidBound bound (String.ofList operand))

def readBoundToken : List Char → Except DirectiveError BoundToken
  | 'm' :: 'i' :: 'n' :: '=' :: operand => (readOperand "min" operand).map .min
  | 'm' :: 'a' :: 'x' :: '=' :: operand => (readOperand "max" operand).map .max
  | token => .error (.unsupportedRule (String.ofList token))

/-- The bounds after the tokens, from the bounds before them. -/
def boundsOfTokens (min max : Option Int64) :
    List (List Char) → Except DirectiveError (Option Int64 × Option Int64)
  | [] => .ok (min, max)
  | token :: more =>
    match readBoundToken token with
    | .error e => .error e
    | .ok (.min n) => boundsOfTokens (some n) max more
    | .ok (.max n) => boundsOfTokens min (some n) more

/-- Read the value of the key `validate`. -/
def readValidate (value : List Char) : Except DirectiveError Bounds :=
  if Text.isBlankText value then .error .emptyValidate
  else
    match boundsOfTokens none none (tokens value) with
    | .error e => .error e
    | .ok (min, max) =>
      match Bounds.of? min max with
      | some bounds => .ok bounds
      | none => .error .emptyValidate

end Directive

end RequestBinding
