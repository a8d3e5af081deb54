import RequestBinding.Source.Grammar.Operator
import RequestBinding.Source.Grammar.Pattern
import RequestBinding.Text.Pieces

/-!
# Expressions

An expression is a unary expression followed by binary operators with their right sides. A unary
expression is an atom with what trails it (calls, fields, indices), behind prefix operators.

Where a block follows, as after `if`, braces after a path belong to that block: there the argument
`structs` is false.
-/

namespace RequestBinding.Source.Grammar

open Source.Parser

/-! ## Operators -/

/-- The right side of an operator, with the operators in it that bind tighter. -/
def rightSide (g : Rules) (structs : Bool) (precedence : Precedence) : Parser Unit := do
  let first ← g.unary structs
  discard <| iterate (fun left => do
    let before ← rest
    let next := nextPrecedence before
    if precedence.rank < next.rank || next = precedence && precedence = .assign then
      let shape ← g.binary structs next left
      return if (← rest).length = before.length then none else some shape
    else return none) first

/-- A range without an upper end ends here. -/
def endsRange (structs : Bool) : Parser Bool := do
  return (← atEnd)
    || (← peekAny ([.mark ",", .mark ";", .mark "?", .mark "=>", .mark "=", .mark "+", .mark "/",
      .mark "%", .mark "^", .mark ">", .mark "<=", .mark "!=", .mark "-=", .mark "*=", .mark "&=",
      .mark "|=", .mark "<<=", .word "as"]))
    || (← peekMark "." [".."])
    || (!structs && (← peek (.group .brace)))

/-- The dots of a range and its upper end. -/
def rangeUpper (g : Rules) (structs : Bool) : Parser Unit := do
  let inclusive ← rangeDots false
  if !inclusive && (← endsRange structs) then return
  rightSide g structs .range

/-- What binds tighter than a cast and so may not follow one. -/
def checkAfterCast : Parser Unit := do
  let here ← position
  if ← peekMark "." [".."] then
    if ← peek2 (.word "await") then failAt here (.afterCast "`.await`")
    else if (← peek2 .identifier)
        && ((← peek3 (.group .parenthesis)) || (← peek3 (.mark "::"))) then
      failAt here (.afterCast "a method call")
    else failAt here (.afterCast "a field access")
  else if ← peek (.mark "?") then failAt here (.afterCast "`?`")
  else if ← peek (.group .bracket) then failAt here (.afterCast "indexing")
  else if ← peek (.group .parenthesis) then failAt here (.afterCast "a function call")

/-- The next operator with its right side, if it binds tight enough. -/
def binaryStep (g : Rules) (structs : Bool) (base : Precedence) (left : ExpressionShape) :
    Parser (Option ExpressionShape) := do
  if left = .range then return none
  let trees ← rest
  let next := nextPrecedence trees
  if next.rank < base.rank then return none
  match operator? trees with
  | some (text, precedence) =>
    if precedence = .compare && left = .comparison then fail .chainedComparison
    mark text
    rightSide g structs precedence
    return some (if precedence = .compare then .comparison else .other)
  | none =>
    match next with
    | .assign =>
      mark "="
      rightSide g structs .assign
      return some .other
    | .range =>
      rangeUpper g structs
      return some .range
    | .cast =>
      word "as"
      discard <| g.type false
      checkAfterCast
      return some .other
    | _ => return none

/-- The operators from a precedence on, with their right sides. -/
def binary (g : Rules) (structs : Bool) (base : Precedence) (left : ExpressionShape) :
    Parser ExpressionShape :=
  iterate (binaryStep g structs base) left

/-- An expression. -/
def expression (g : Rules) (structs : Bool) : Parser ExpressionShape := do
  let left ← g.unary structs
  binary g structs .lowest left

/-! ## Trailers -/

/-- Expressions in parentheses with commas between them. -/
def arguments (g : Rules) : Parser Unit :=
  discard <| group .parenthesis (separated (g.expression true))

/-- The parts of a number between its dots. -/
def dotPieces (text : String) : List String := (Text.pieces '.' text.toList).map String.ofList

/-- The numbers of fields that are written like a fraction; whether a further field follows. -/
def fractionFields : Parser Bool := do
  match ← rest with
  | .literal p text :: more =>
    let pieces := (dotPieces text).filter (· ≠ "")
    match pieces.find? fun piece => !piece.toList.all Lexeme.isDigitOrUnderscore with
    | some piece => failAt p (if isFloatText piece then .fractionalIndex else .suffixedIndex)
    | none => pure ()
    advance more
    (pieces.intersperse ".").forM fun piece =>
      print (if piece = "." then .mark p .dot false else .literal p piece)
    let trailing := text.toList.getLast? = some '.'
    if trailing then print (.mark p .dot false)
    return trailing
  | _ => return false

/-- A number with a dot or an exponent stands here. -/
def startsFraction : Parser Bool := do
  match ← rest with
  | .literal _ text :: _ => return isFloatText text
  | _ => return false

/-- What stands after a dot: a field, a call of a method, `await`. -/
def afterDot (g : Rules) : Parser Unit := do
  if ← startsFraction then
    if !(← fractionFields) then return
  if ← word? "await" then return
  let named ← member
  if named && (← peek (.mark "::")) then
    mark "::"
    genericArguments g
    arguments g
  else if named && (← peek (.group .parenthesis)) then arguments g

/-- What trails an expression. -/
def trailers (g : Rules) (shape : ExpressionShape) : Parser ExpressionShape :=
  iterate (fun shape => do
    if ← peek (.group .parenthesis) then
      arguments g
      return some .other
    else if shape ≠ .range && (← peekMark "." [".."]) then
      mark "."
      afterDot g
      return some .other
    else if ← peek (.group .bracket) then
      group .bracket (discard <| g.expression true)
      return some .other
    else if shape ≠ .range && (← peek (.mark "?")) then
      mark "?"
      return some .other
    else return none) shape

/-! ## Closures -/

/-- What follows an introducing word is generic parameters and no qualified path. -/
def startsGenerics (trees : List TokenTree) : Bool :=
  let second := skipTree trees
  let third := skipTree second
  startsMark ['<'] trees
    && (startsMark ['>'] second || startsMark ['#'] second
      || (Expectation.word "const").holds second
      || ((Expectation.identifier.holds second || Expectation.lifetime.holds second)
        && (startsMark [':'] third && !startsMark [':', ':'] third || startsMark [','] third
          || startsMark ['>'] third || startsMark ['='] third)))

/-- A `for` that introduces lifetimes stands here. -/
def startsBinder : Parser Bool := do
  return (← peek (.word "for")) && startsGenerics (skipTree (← rest))

/-- An argument of a closure. -/
def closureArgument (g : Rules) : Parser Unit := do
  discard <| outerAttributes g
  discard g.pattern
  if ← mark? ":" then discard <| g.type true

/-- A closure. -/
def closure (g : Rules) (structs : Bool) : Parser Unit := do
  discard <| binder? g
  for modifier in ["const", "static", "async", "move"] do discard <| word? modifier
  mark "|"
  loop do
    if ← peek (.mark "|") then return false
    closureArgument g
    if ← peek (.mark "|") then return false
    mark ","
    return true
  mark "|"
  if ← mark? "->" then
    discard <| g.type true
    block g false
  else discard <| g.expression structs

/-- A closure starts here. -/
def startsClosure : Parser Bool := do
  return (← peekAny [.mark "|", .word "move", .word "static"])
    || (← startsBinder)
    || (← peek (.word "const")) && !(← peek2 (.group .brace))
    || (← peek (.word "async")) && ((← peek2 (.mark "|")) || (← peek2 (.word "move")))

/-! ## Control flow -/

/-- `if` with its branches. -/
def conditional (g : Rules) : Parser Unit := loop do
  word "if"
  discard <| g.expression false
  block g false
  if !(← word? "else") then return false
  if ← peek (.word "if") then return true
  if ← peek (.group .brace) then
    block g false
    return false
  refuse [.word "if", .group .brace]

/-- `while` with its body. -/
def whileLoop (g : Rules) : Parser Unit := do
  word "while"
  discard <| g.expression false
  block g true

/-- `for` with its body. -/
def forLoop (g : Rules) : Parser Unit := do
  word "for"
  discard <| alternatives g
  word "in"
  discard <| g.expression false
  block g true

/-- An arm of a `match`. -/
def arm (g : Rules) : Parser Unit := do
  discard <| outerAttributes g
  discard <| alternatives g
  if ← word? "if" then discard <| g.expression true
  mark "=>"
  let shape ← g.boundary
  if shape ≠ .blockLike && !(← atEnd) then mark "," else discard <| mark? ","

/-- `match` with its arms. -/
def matchExpression (g : Rules) : Parser Unit := do
  word "match"
  discard <| g.expression false
  group .brace do
    discard <| innerAttributes g
    discard <| untilEnd (arm g)

/-- A loop or block of one keyword. -/
def keywordBlock (g : Rules) (keyword : String) (attributes : Bool) : Parser Unit := do
  word keyword
  block g attributes

/-- A label before a loop or block. -/
def labeled (g : Rules) : Parser Unit := do
  lifetime
  mark ":"
  if ← peek (.word "while") then whileLoop g
  else if ← peek (.word "for") then forLoop g
  else if ← peek (.word "loop") then keywordBlock g "loop" true
  else if ← peek (.group .brace) then block g true
  else fail (.expected [.labeled])

/-- An expression may start here. -/
def startsExpression : Parser Bool := do
  return (← peekWord)
    || (← peekAny [.group .parenthesis, .group .bracket, .group .brace, .literal, .mark "..",
      .mark "::", .lifetime, .mark "#"])
    || (← peekMark "!" ["!="]) || (← peekMark "-" ["-=", "->"]) || (← peekMark "*" ["*="])
    || (← peekMark "|" ["|="]) || (← peekMark "&" ["&="]) || (← peekMark "<" ["<=", "<<="])

/-- The value that is given back, if one stands here. -/
def optionalValue (g : Rules) : Parser Unit := do
  if ← startsExpression then discard <| g.expression true

/-- `break` with a label and a value. -/
def breakExpression (g : Rules) (structs : Bool) : Parser Unit := do
  word "break"
  let here ← position
  if (← peek .lifetime) && (← peek2 (.mark ":")) then
    discard <| g.expression true
    failAt here .labeledBreak
  discard lifetime?
  if (← startsExpression) && (structs || !(← peek (.group .brace))) then
    discard <| g.expression true

/-! ## Atoms -/

/-- A field with its value in a struct expression. -/
def fieldValue (g : Rules) : Parser Unit := do
  discard <| outerAttributes g
  let named ← member
  if !named || (← peek (.mark ":")) then
    mark ":"
    discard <| g.expression true

/-- The fields of a struct expression; two dots with what else they stand for end them. -/
def structFields (g : Rules) : Parser Unit := group .brace <| loop do
  if ← atEnd then return false
  if ← mark? ".." then
    if !(← atEnd) then discard <| g.expression true
    return false
  fieldValue g
  if ← atEnd then return false
  mark ","
  return true

/-- An expression that starts with a path: a macro, a struct or the path itself. -/
def pathExpression (g : Rules) (structs : Bool) : Parser ExpressionShape := do
  let (qualified, shape) ← qualifiedPath g true
  if !qualified && shape.plain && (← peekMark "!" ["!="]) then
    mark "!"
    let (delimiter, _, _) ← anyGroup
    return if delimiter = .brace then .bracedMacro else .other
  if structs && (← peek (.group .brace)) then structFields g
  return .other

/-- What the brackets of an array hold: elements, or one and how often it is repeated. -/
def arrayContent (g : Rules) : Parser Unit := do
  if ← atEnd then return
  discard <| g.expression true
  if ← atEnd then return
  if ← mark? "," then discard <| separated (g.expression true)
  else if ← mark? ";" then discard <| g.expression true
  else fail (.expected [.mark ",", .mark ";"])

/-- A pattern that an expression is matched with in a condition. -/
def letExpression (g : Rules) (structs : Bool) : Parser Unit := do
  word "let"
  discard <| alternatives g
  mark "="
  let left ← g.unary structs
  discard <| binary g structs .compare left

/-- What follows a word that stands for a built-in. -/
def builtin : Parser Unit := do
  let since ← get
  discard anyWord
  mark "#"
  discard identifier
  if ← peek (.group .parenthesis) then discard anyGroup
  verbatim since

/-- The expressions that end in a block, if one stands here; whether one does. -/
def blockLike? (g : Rules) : Parser Bool := do
  if ← peek (.word "if") then conditional g
  else if ← peek (.word "while") then whileLoop g
  else if ← peek (.word "for") then forLoop g
  else if ← peek (.word "loop") then keywordBlock g "loop" true
  else if ← peek (.word "match") then matchExpression g
  else if (← peek (.word "try")) && (← peek2 (.group .brace)) then keywordBlock g "try" false
  else if ← peek (.word "unsafe") then keywordBlock g "unsafe" true
  else if (← peek (.word "const")) && (← peek2 (.group .brace)) then constBlock g
  else if ← peek (.group .brace) then block g true
  else if ← peek .lifetime then labeled g
  else return false
  return true

/-- A single path, macro, struct or other expression that ends in no block. -/
def plainAtom (g : Rules) (structs : Bool) : Parser ExpressionShape := do
  if ← peek (.group .parenthesis) then arguments g
  else if ← peek (.word "break") then breakExpression g structs
  else if ← peek (.word "continue") then
    word "continue"
    discard lifetime?
  else if ← peek (.word "return") then
    word "return"
    optionalValue g
  else if ← peek (.word "become") then
    let since ← get
    word "become"
    discard <| g.expression true
    verbatim since
  else if ← peek (.group .bracket) then group .bracket (arrayContent g)
  else if ← peek (.word "let") then letExpression g structs
  else if ← peek (.word "yield") then
    word "yield"
    optionalValue g
  else if ← peek (.mark "..") then
    rangeUpper g structs
    return .range
  else if ← peek (.word "_") then discard anyWord
  else fail (.expected [.expression])
  return .other

/-- A path starts here as an expression. -/
def startsPath : Parser Bool := do
  return (← peekAny pathStarts)
    || (← peek (.word "try")) && ((← peek2 (.mark "!")) || (← peek2 (.mark "::")))

/-- An asynchronous block starts here. -/
def startsAsync : Parser Bool := do
  return (← peek (.word "async")) && ((← peek2 (.group .brace))
    || (← peek2 (.word "move")) && (← peek3 (.group .brace)))

/-- An expression without operators and trailers. -/
def atom (g : Rules) (structs : Bool) : Parser ExpressionShape := do
  if ← peek .literal then
    discard literal
    return .other
  else if ← startsAsync then
    word "async"
    discard <| word? "move"
    block g false
    return .other
  else if ← startsClosure then
    closure g structs
    return .other
  else if (← peek (.word "builtin")) && (← peek2 (.mark "#")) then
    builtin
    return .other
  else if ← startsPath then pathExpression g structs
  else if ← blockLike? g then return .blockLike
  else plainAtom g structs

/-! ## Statements and arms -/

/--
An expression as a statement or as the body of an arm: one that ends in a block ends there, unless a
dot or a question mark follows.
-/
def boundary (g : Rules) : Parser ExpressionShape := do
  discard <| outerAttributes g
  let ended ← if ← startsBinder then pure false else blockLike? g
  if !ended then return ← binary g true .lowest (← g.unary true)
  if (← peekMark "." [".."]) || (← peek (.mark "?")) then
    binary g true .lowest (← trailers g .blockLike)
  else return .blockLike

/-- An expression without binary operators. -/
def unary (g : Rules) (structs : Bool) : Parser ExpressionShape := do
  discard <| outerAttributes g
  if ← mark? "&" then
    let raw := (← peek (.word "raw")) && ((← peek2 (.word "mut")) || (← peek2 (.word "const")))
    if raw then
      word "raw"
      if !(← word? "mut") then word "const"
    else discard <| word? "mut"
    discard <| g.unary structs
    return .other
  for sign in ["*", "!", "-"] do
    if ← mark? sign then
      discard <| g.unary structs
      return .other
  trailers g (← atom g structs)

end RequestBinding.Source.Grammar
