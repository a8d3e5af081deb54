import RequestBinding.Text.LetterCase

/-!
# Log levels

How much an event matters, from errors to traces.
-/

namespace RequestBinding

inductive LogLevel where
  | error
  | warn
  | info
  | debug
  | trace
deriving Repr, DecidableEq

namespace LogLevel

/-- The level in log lines. -/
def word : LogLevel → String
  | error => "ERROR"
  | warn => "WARN"
  | info => "INFO"
  | debug => "DEBUG"
  | trace => "TRACE"

/-- The place of a level in the order, the weightiest first. -/
def rank : LogLevel → Nat
  | error => 1
  | warn => 2
  | info => 3
  | debug => 4
  | trace => 5

def all : List LogLevel := [error, warn, info, debug, trace]

/-- The level with this name; the case of ASCII letters does not count. -/
def named? (name : String) : Option LogLevel :=
  all.find? fun level => Text.sameAsciiLetters level.word name

end LogLevel

end RequestBinding
