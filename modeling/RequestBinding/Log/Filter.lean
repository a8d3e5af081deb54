import RequestBinding.Log.Event
import RequestBinding.Log.Settings
import RequestBinding.Text.Identifier
import RequestBinding.Text.Numeral
import RequestBinding.Text.Pieces

/-!
# Log filters

A filter decides which events become log lines. It is a list of rules, each a level for the events
of some parts of the program, and the most specific rule about an event decides.

## Directives

A directive writes a rule as `part=level`, as `part` alone, which lets all its events through, or as
`level` alone, which is about all parts. In brackets after the part it may name a span and, in
braces, a field that an event must have: `part[span{field=value}]=level`. The program opens no
spans, so a directive with a span or with a field's value lets no event through.

Where the parts of a directive stand is decided by its text without the blanks around it; what they
say is then read from the text as it is.
-/

namespace RequestBinding

/-- How much of a part's events are let through. -/
inductive Threshold where
  | off
  | upTo (level : LogLevel)
deriving Repr, DecidableEq

namespace Threshold

/-- All events. -/
def everything : Threshold := upTo .trace

/-- The threshold with this number: none are let through at 0, all at 5. -/
def numbered? (n : Nat) : Option Threshold :=
  if n = 0 then some off else (LogLevel.all.find? (·.rank = n)).map upTo

/-- The threshold with this name, a number or a word in any case. -/
def named? (name : List Char) : Option Threshold :=
  ((Text.readNat (if name.head? = some '+' then name.tail else name)).bind numbered?).or <|
    if name.isEmpty then some (upTo .error)
    else if Text.sameAsciiLetters "off" (String.ofList name) then some off
    else (LogLevel.named? (String.ofList name)).map upTo

/-- An event of a level is let through. -/
def admits : Threshold → LogLevel → Bool
  | off, _ => false
  | upTo most, level => level.rank ≤ most.rank

end Threshold

/-- A field that a directive names, perhaps with a value. -/
structure FieldPattern where
  name : String
  hasValue : Bool
deriving Repr, DecidableEq

/-- A directive as it is written. -/
structure LogDirective where
  target? : Option String
  span? : Option String
  field? : Option FieldPattern
  threshold : Threshold
deriving Repr, DecidableEq

namespace LogDirective

/-! ## Reading a directive -/

/-- The text from one place to another. -/
def slice (text : List Char) (first last : Nat) : List Char := (text.drop first).take (last - first)

/-- The place of the first character of a kind at or after a place. -/
def find? (trimmed : List Char) (first : Nat) (p : Char → Bool) : Option Nat :=
  ((trimmed.drop first).findIdx? p).map (first + ·)

/-- A directive can start with this character. -/
def isStart (c : Char) : Bool := Text.isIdentContinue c || c == '-' || c == ':'

/-- What follows `=`: a level, or nothing for all events. -/
def readThreshold (name : List Char) : Option Threshold :=
  if name.isEmpty then some .everything else Threshold.named? name

/-- What follows the brackets: nothing, or `=` and a level. -/
def readEnd (text trimmed : List Char) (place : Nat) : Option Threshold :=
  match trimmed.drop place with
  | [] => some .everything
  | '=' :: _ => readThreshold (text.drop (place + 1))
  | _ => none

/-- A field with or without a value. -/
def readField (text : List Char) : Option FieldPattern :=
  match Text.pieces '=' text with
  | [] => none
  | name :: values => if text.isEmpty then none else some ⟨String.ofList name, !values.isEmpty⟩

/-- What follows `[`, up to the end. -/
def readBrackets (text trimmed : List Char) (target? : Option String) (place : Nat) :
    Option LogDirective := do
  let close ← find? trimmed place fun c => c == ']' || c == '\x7b'
  let span := String.ofList (slice text place close)
  if trimmed[close]? = some ']' then
    return ⟨target?, some span, none, ← readEnd text trimmed (close + 1)⟩
  else
    let closeField ← find? trimmed (close + 1) (· == '\x7d')
    let field ← readField (slice text (close + 1) closeField)
    if trimmed[closeField + 1]? = some ']' then
      let span? := if span.isEmpty then none else some span
      return ⟨target?, span?, some field, ← readEnd text trimmed (closeField + 2)⟩
    else none

/-- A directive without brackets and `=`: a level or a part. -/
def ofWord (text : List Char) : LogDirective :=
  match Threshold.named? text with
  | some threshold => ⟨none, none, none, threshold⟩
  | none => ⟨some (String.ofList text), none, none, .everything⟩

/-- The directive that a text writes. -/
def read? (text : List Char) : Option LogDirective :=
  let trimmed := Text.trim text
  match trimmed with
  | [] => none
  | '[' :: _ => readBrackets text trimmed none 1
  | c :: _ =>
    if !isStart c then none
    else
      match find? trimmed 0 fun c => c == '=' || c == '[' with
      | none => some (ofWord text)
      | some place =>
        let target := some (String.ofList (text.take place))
        if trimmed[place]? = some '=' then
          (readThreshold (text.drop (place + 1))).map (⟨target, none, none, ·⟩)
        else readBrackets text trimmed target (place + 1)

end LogDirective

/-! ## Rules -/

/-- A level for the events of some parts of the program. -/
structure LogRule where
  /-- How the names of the parts start; none for all parts. -/
  target? : Option String
  /-- A field that the events have. -/
  field? : Option String
  threshold : Threshold
deriving Repr, DecidableEq

namespace LogRule

/-- The rule of a directive, unless it is about spans or values. -/
def ofDirective? (directive : LogDirective) : Option LogRule :=
  if directive.span?.isSome || directive.field?.any (·.hasValue) then none
  else some ⟨directive.target?, directive.field?.map (·.name), directive.threshold⟩

/-- The rule is about the event. -/
def concerns (rule : LogRule) (event : Event) : Bool :=
  rule.target?.all (fun target => event.target.startsWith target) &&
    rule.field?.all fun field => field == "message" || (event.fields.map (·.1)).contains field

/-- Rules about the same events. -/
def sameScope (r s : LogRule) : Bool := r.target? = s.target? && r.field? = s.field?

/-- How many bytes of the part's name a rule fixes. -/
def targetSize (rule : LogRule) : Nat :=
  match rule.target? with
  | none => 0
  | some target => target.utf8ByteSize + 1

/-- The first of two rules about an event is more specific: it fixes more of the part's name, or
names a field where the other names none or an earlier one. -/
def isMoreSpecific (r s : LogRule) : Bool :=
  s.targetSize < r.targetSize ||
    r.targetSize = s.targetSize &&
      match r.field?, s.field? with
      | none, _ => false
      | some _, none => true
      | some f, some g => g < f

end LogRule

/-! ## Filters -/

/-- The rules of a filter, each with a scope of its own. -/
structure LogFilter where
  rules : List LogRule
deriving Repr

namespace LogFilter

/-- The filter with one more rule, which replaces the one about the same events. -/
def add (filter : LogFilter) (rule : LogRule) : LogFilter :=
  ⟨filter.rules.filter (fun r => !r.sameScope rule) ++ [rule]⟩

/-- The filter with the rule of one more directive. -/
def addDirective (filter : LogFilter) (directive : LogDirective) : LogFilter :=
  (LogRule.ofDirective? directive).elim filter filter.add

/-- The rule that decides about an event: the most specific one. -/
def deciding? (filter : LogFilter) (event : Event) : Option LogRule :=
  (filter.rules.filter (·.concerns event)).foldl
    (fun best rule =>
      match best with
      | none => some rule
      | some r => if rule.isMoreSpecific r then some rule else some r)
    none

/-- The event becomes a log line. -/
def admits (filter : LogFilter) (event : Event) : Bool :=
  (filter.deciding? event).any fun rule => rule.threshold.admits event.level

/-- The filter of directives; without any, only errors are let through. -/
def ofDirectives (directives : List LogDirective) : LogFilter :=
  if directives.isEmpty then ⟨[⟨none, none, .upTo .error⟩]⟩
  else directives.foldl addDirective ⟨[]⟩

/-- The filter of a text with directives between commas, if all of them can be read. -/
def read? (text : String) : Option LogFilter :=
  let directives := (Text.pieces ',' text.toList).filter (· ≠ [])
  (directives.mapM LogDirective.read?).map ofDirectives

/-- The filter that lets the events up to a level through. -/
def upTo (level : LogLevel) : LogFilter := ⟨[⟨none, none, .upTo level⟩]⟩

/-- The filter with further directives, and those of them that cannot be read. -/
def extend (filter : LogFilter) : List (List Char) → LogFilter × List String
  | [] => (filter, [])
  | text :: more =>
    match LogDirective.read? text with
    | some directive => extend (filter.addDirective directive) more
    | none =>
      let (extended, faulty) := extend filter more
      (extended, String.ofList text :: faulty)

/-- The filter of an environment, and the directives that cannot be read. `RUST_LOG` comes before
the level of the settings if all its directives can be read; those of the settings are added. -/
def ofEnvironment (environment : Environment) : LogFilter × List String :=
  let settings := LogSettings.ofEnvironment environment
  let filter := ((environment.lookup "RUST_LOG").bind read?).getD (upTo settings.level)
  let further := (Text.pieces ',' (settings.directives?.getD "").toList).map Text.trim
  filter.extend (further.filter (· ≠ []))

end LogFilter

end RequestBinding
