import RequestBinding.Source.Parser

/-!
# The rules of the grammar

The rules refer to each other in a circle: a type holds expressions, an expression holds types. Each
module of the grammar therefore defines its rules over a record `Rules` of the rules that are one
level deeper, and `Source/Grammar/Levels` makes the record of a level from that of the next.

A rule reports no tree. It says only what later rules ask about what was read: its shape.
-/

namespace RequestBinding.Source

/-- What was read as a type. -/
inductive TypeShape where
  /-- A single name, with generic arguments or without. -/
  | name
  /-- Another path without a qualified part. -/
  | path
  /-- A lone bound without `dyn`. -/
  | bound
  | other
deriving Repr, DecidableEq

/-- What was read as a bound. -/
inductive BoundShape where
  | lifetime
  | capture
  | trait
deriving Repr, DecidableEq

/-- What was read as a pattern. -/
inductive PatternShape where
  /-- The two dots for all else. -/
  | rest
  /-- A range with one end, and the place of its dots. -/
  | openRange (dots : Position)
  | other
deriving Repr, DecidableEq

/-- What was read as an expression. -/
inductive ExpressionShape where
  | range
  | comparison
  /-- A block, or what ends in one and so needs no semicolon. -/
  | blockLike
  | bracedMacro
  | other
deriving Repr, DecidableEq

/-- How tight an operator binds, from the loosest on. -/
inductive Precedence where
  | lowest
  | assign
  | range
  | or
  | and
  | compare
  | bitOr
  | bitXor
  | bitAnd
  | shift
  | sum
  | product
  | cast
deriving Repr, DecidableEq

/-- The place of a precedence in the order. -/
def Precedence.rank : Precedence → Nat
  | lowest => 0
  | assign => 1
  | range => 2
  | or => 3
  | and => 4
  | compare => 5
  | bitOr => 6
  | bitXor => 7
  | bitAnd => 8
  | shift => 9
  | sum => 10
  | product => 11
  | cast => 12

/-- The rules one level deeper. -/
structure Rules where
  /-- A type, in which bounds may be joined with `+` or not. -/
  type : Bool → Parser TypeShape
  /-- A bound, which may be a captured set or `const` or not. -/
  bound : Bool → Bool → Parser BoundShape
  /-- A pattern without alternatives. -/
  pattern : Parser PatternShape
  /-- An expression, in which braces may follow a path or not. -/
  expression : Bool → Parser ExpressionShape
  /-- An expression without binary operators. -/
  unary : Bool → Parser ExpressionShape
  /-- The operators from a precedence on, with their right sides, after a left side. -/
  binary : Bool → Precedence → ExpressionShape → Parser ExpressionShape
  /-- An expression that ends with the block it may start with: a statement, the body of an arm. -/
  boundary : Parser ExpressionShape
  /-- The statements of a block. -/
  statements : Parser Unit
  /-- An item after its attributes, which start at the given state. -/
  item : ParserState → List Attribute → Parser Unit
  /-- What a `use` brings in, which may start at the root or not. -/
  useTree : Bool → Parser Unit

/-- The rules below the deepest level: all fail. -/
def Rules.failing : Rules where
  type _ := Parser.fail .tooDeep
  bound _ _ := Parser.fail .tooDeep
  pattern := Parser.fail .tooDeep
  expression _ := Parser.fail .tooDeep
  unary _ := Parser.fail .tooDeep
  binary _ _ _ := Parser.fail .tooDeep
  boundary := Parser.fail .tooDeep
  statements := Parser.fail .tooDeep
  item _ _ := Parser.fail .tooDeep
  useTree _ := Parser.fail .tooDeep

end RequestBinding.Source
