import RequestBinding.Source.Lexeme.Literal
import RequestBinding.Text.Blank

/-!
# Values of string literals

The text that a string literal stands for. In a cooked string an escape stands for one character, a
line end for a line feed, and a backslash at the end of a line for nothing: it takes the blanks at
the start of the following lines with it. A raw string stands for what is between its quotes.
-/

namespace RequestBinding.Source.Lexeme

/-- The value of a cooked string, from after its opening quote. -/
def cookedValue : List Char → List Char
  | [] => []
  | '"' :: _ => []
  | '\r' :: '\n' :: cs => '\n' :: cookedValue cs
  | '\\' :: c :: cs =>
    if c = '\n' || c = '\r' then cookedValue (cs.drop (cs.takeWhile Text.isBlank).length)
    else
      match takeEscape .anything (c :: cs) with
      | some (char, text, _) => char :: cookedValue (cs.drop (text.length - 1))
      | none => cookedValue cs
  | c :: cs => c :: cookedValue cs
termination_by cs => cs.length
decreasing_by all_goals simp only [List.length_drop, List.length_cons]; omega

/-- The text before its last quote. -/
def beforeLastQuote (cs : List Char) : List Char :=
  ((cs.reverse.dropWhile (· != '"')).drop 1).reverse

/-- The value of a string literal, with its quotes and its suffix. -/
def stringValue : List Char → List Char
  | '"' :: cs => cookedValue cs
  | 'r' :: cs => beforeLastQuote ((cs.dropWhile (· == '#')).drop 1)
  | _ => []

end RequestBinding.Source.Lexeme
