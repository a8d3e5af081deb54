import RequestBinding.Source.Grammar.Rules

/-!
# Operators

The binary operators and how tight they bind.
-/

namespace RequestBinding.Source.Grammar

/-- The binary operators; one that starts with another comes before it. -/
def operators : List (String × Precedence) := [
  ("+=", .assign), ("-=", .assign), ("*=", .assign), ("/=", .assign), ("%=", .assign),
  ("^=", .assign), ("&=", .assign), ("|=", .assign), ("<<=", .assign), (">>=", .assign),
  ("&&", .and), ("||", .or), ("<<", .shift), (">>", .shift), ("==", .compare), ("<=", .compare),
  ("!=", .compare), (">=", .compare), ("+", .sum), ("-", .sum), ("*", .product), ("/", .product),
  ("%", .product), ("^", .bitXor), ("&", .bitAnd), ("|", .bitOr), ("<", .compare), (">", .compare)]

/-- The binary operator at the front of the tokens. -/
def operator? (trees : List TokenTree) : Option (String × Precedence) :=
  operators.find? fun entry => startsMark entry.1.toList trees

/-- A single equals sign, which is no arrow. -/
def startsAssignment (trees : List TokenTree) : Bool :=
  startsMark ['='] trees && !startsMark ['=', '>'] trees

/-- How tight what stands here binds as an operator. -/
def nextPrecedence (trees : List TokenTree) : Precedence :=
  match operator? trees with
  | some (_, precedence) => precedence
  | none =>
    if startsAssignment trees then .assign
    else if startsMark ['.', '.'] trees then .range
    else if (Expectation.word "as").holds trees then .cast
    else .lowest

end RequestBinding.Source.Grammar
