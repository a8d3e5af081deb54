import RequestBinding.Source.Token

/-!
# Problems of a source

What can be wrong with a source, where it is, and how it is said.

An expectation is something that may stand at a place in the tokens. A problem lists the
expectations that nothing there meets; if the tokens end at the place, the message says so first.
-/

namespace RequestBinding.Source

/-! ## Expectations -/

inductive Expectation where
  /-- A mark of one or more characters. -/
  | mark (text : String)
  | word (text : String)
  | identifier
  | lifetime
  | literal
  | stringLiteral
  | group (delimiter : Delimiter)
  | expression
  /-- The name after `::`. -/
  | segment
  /-- A group with any delimiter. -/
  | anyGroup
  /-- The name or number of a field. -/
  | member
  /-- The name after `as`. -/
  | rename
  /-- What a label stands before. -/
  | labeled
  | upperBound
  | semicolon
deriving Repr, DecidableEq

namespace Expectation

/-- The expectation as a message names it. -/
def text : Expectation → String
  | mark t => "`" ++ t ++ "`"
  | word t => "`" ++ t ++ "`"
  | identifier => "identifier"
  | lifetime => "lifetime"
  | literal => "literal"
  | stringLiteral => "string literal"
  | group .parenthesis => "parentheses"
  | group .bracket => "square brackets"
  | group .brace => "curly braces"
  | expression => "an expression"
  | segment => "path segment after `::`"
  | anyGroup => "delimiter"
  | member => "identifier or integer"
  | rename => "identifier or underscore"
  | labeled => "loop or block expression"
  | upperBound => "range upper bound"
  | semicolon => "semicolon"

end Expectation

/-! ## Problems -/

inductive Problem where
  /-- The text has no token trees. -/
  | noTokens
  /-- None of these stands here. -/
  | expected (what : List Expectation)
  /-- A keyword stands where a name should. -/
  | keyword (name : String)
  /-- A token stands after the end of what can be read; inside a group its delimiter should. -/
  | leftover (enclosing : Option Delimiter)
  | missingSemicolon
  | nestedAttribute
  /-- A value of the named attribute is no string literal. -/
  | noStringValue (attr : String)
  /-- The named attribute has no value at all. -/
  | noValue (attr : String)
  | objectWithoutTrait
  | traitMissing
  | captureNotAllowed
  | constNotAllowed (form : String)
  | binderBeforeMaybe
  | negativeInherent
  | secondReceiver
  | misplacedReceiver
  | chainedComparison
  /-- A cast is followed by something that binds tighter. -/
  | afterCast (what : String)
  | labeledBreak
  | suffixedIndex
  | fractionalIndex
  | openRangeInSlice
  /-- The rules nest deeper than there are tokens; this does not arise. -/
  | tooDeep
deriving Repr, DecidableEq

namespace Problem

/-- A list of expectations as a message names it. -/
def oneOf : List Expectation → String
  | [e] => "expected " ++ e.text
  | [e, f] => "expected " ++ e.text ++ " or " ++ f.text
  | es => "expected one of: " ++ ", ".intercalate (es.map Expectation.text)

/-- The message of a problem that does not lie at the end of the tokens. -/
def message : Problem → String
  | noTokens => "cannot parse string into token stream"
  | expected [] => "unexpected token"
  | expected es => oneOf es
  | keyword name => "expected identifier, found keyword `" ++ name ++ "`"
  | leftover none => "unexpected token"
  | leftover (some d) => "unexpected token, expected `" ++ String.ofList [d.closing] ++ "`"
  | missingSemicolon => "unexpected token, expected `;`"
  | nestedAttribute => "unexpected attribute inside of attribute"
  | noStringValue attr => "expected string literal in #[" ++ attr ++ " = \"...\"]"
  | noValue attr => "expected #[" ++ attr ++ " = \"...\"]"
  | objectWithoutTrait => "at least one trait is required for an object type"
  | traitMissing => "at least one trait must be specified"
  | captureNotAllowed => "`use<...>` precise capturing syntax is not allowed here"
  | constNotAllowed form => "`" ++ form ++ "` is not allowed here"
  | binderBeforeMaybe => "`for<...>` binder not allowed with `?` trait polarity modifier"
  | negativeInherent => "inherent impls cannot be negative"
  | secondReceiver => "unexpected second method receiver"
  | misplacedReceiver => "unexpected method receiver"
  | chainedComparison => "comparison operators cannot be chained"
  | afterCast what => "casts cannot be followed by " ++ what
  | labeledBreak => "parentheses required"
  | suffixedIndex => "expected unsuffixed integer"
  | fractionalIndex => "expected integer literal"
  | openRangeInSlice => "range pattern is not allowed unparenthesized inside slice pattern"
  | tooDeep => "source nested too deeply"

end Problem

/-- The first problem of a source. -/
structure SourceError where
  position : Position
  /-- The tokens end where something is expected. -/
  atEnd : Bool
  problem : Problem
deriving Repr, DecidableEq

namespace SourceError

/-- What is wrong, without the place. -/
def text (error : SourceError) : String :=
  if error.atEnd then
    match error.problem with
    | .expected [] => "unexpected end of input"
    | problem => "unexpected end of input, " ++ problem.message
  else error.problem.message

/-- What is wrong and where. -/
def message (error : SourceError) : String :=
  "syntax error at " ++ toString error.position.line ++ ":" ++ toString error.position.column
    ++ ": " ++ error.text

end SourceError

end RequestBinding.Source
