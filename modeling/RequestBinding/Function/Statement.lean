import RequestBinding.Function.Comparison
import RequestBinding.Text.Quoted

/-!
# Statements of generated functions

The bodies of generated functions are lists of these statements, followed by the answer that all is
well. `Statement.lines` writes a statement; every line but a nested one is indented by four spaces.
-/

namespace RequestBinding.Function

/-- A value of the request: where to look, and under which key. -/
structure Lookup where
  source : BindSource
  key : String
deriving Repr, DecidableEq

/-- The start of a call of the helper for a source. -/
def helperCall : BindSource → String
  | .header => "header_value(req, "
  | .query => "query_value(req, "
  | .path => "path_value(path_params, "

/-- The call of the helper for the source. -/
def Lookup.text (l : Lookup) : String := helperCall l.source ++ Text.quoted l.key ++ ")"

/-- A text that a statement tests for emptiness. -/
inductive Tested where
  /-- The text last fetched. -/
  | raw
  /-- A field that holds a text. -/
  | field (name : String)
deriving Repr, DecidableEq

def Tested.text : Tested → String
  | raw => "raw"
  | field name => "s." ++ name

inductive Statement where
  /-- A text of the request becomes the value of a field. -/
  | store (field : String) (lookup : Lookup)
  /-- A text of the request is kept at hand. -/
  | fetch (lookup : Lookup)
  /-- The function fails with a message if the text is empty. -/
  | demand (tested : Tested) (message : String)
  /--
  The text at hand is read as an integer into a field; the function fails if it is none, with a
  message for the key.
  -/
  | convert (field key : String)
  /-- The same, if the text at hand is not empty. -/
  | convertPresent (field key : String)
  /-- A line that does nothing. -/
  | remark (text : String)
  /-- The function fails with a message if the comparison holds. -/
  | refuse (comparison : Comparison) (message : String)
deriving Repr, DecidableEq

namespace Statement

def indent : String := "    "

/-- The line that leaves the function with a message. -/
def failLine (message : String) : String :=
  indent ++ indent ++ "return Err(" ++ Text.quoted message ++ ".to_string());"

def convertText (field key : String) : String :=
  "s." ++ field ++ " = parse_integer(&raw, " ++ Text.quoted key ++ ")?;"

/-- The written lines of a statement, without their line ends. -/
def lines : Statement → List String
  | store field lookup => [indent ++ "s." ++ field ++ " = " ++ lookup.text ++ ";"]
  | fetch lookup => [indent ++ "let raw = " ++ lookup.text ++ ";"]
  | demand tested message =>
    [indent ++ "if " ++ tested.text ++ ".is_empty() \x7b", failLine message, indent ++ "\x7d"]
  | convert field key => [indent ++ convertText field key]
  | convertPresent field key =>
    [indent ++ "if !raw.is_empty() \x7b", indent ++ indent ++ convertText field key,
      indent ++ "\x7d"]
  | remark text => [indent ++ "// " ++ text]
  | refuse comparison message =>
    [indent ++ "if " ++ comparison.text ++ " \x7b", failLine message, indent ++ "\x7d"]

end Statement

/-- Lines as a text in which each is ended. -/
def endLines (lines : List String) : String := String.join (lines.map (· ++ "\n"))

theorem endLines_append (lines more : List String) :
    endLines (lines ++ more) = endLines lines ++ endLines more := by
  simp [endLines, String.join_append]

theorem toList_endLines (lines : List String) :
    (endLines lines).toList = lines.flatMap fun line => line.toList ++ ['\n'] := by
  induction lines with
  | nil => rfl
  | cons line lines ih =>
    rw [← List.singleton_append, endLines_append, String.toList_append, ih]
    simp [endLines]

end RequestBinding.Function
