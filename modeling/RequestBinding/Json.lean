import RequestBinding.Text.Quoted

/-!
# JSON values

The values of the JSON format that listings and log lines need, and their two layouts: on one line
(`compact`) and indented by two blanks for each level (`pretty`).
-/

namespace RequestBinding

inductive Json where
  | null
  | bool (value : Bool)
  | number (value : Int)
  | text (value : String)
  | list (values : List Json)
  | object (members : List (String × Json))

namespace Json

/-! ## Texts -/

/-- Four hexadecimal digits of a small number. -/
def fourDigits (n : Nat) : List Char :=
  let digits := Text.hexDigits n
  List.replicate (4 - digits.length) '0' ++ digits

/-- A character within a text: quotes, backslashes and control characters are escaped. -/
def escapeChar (c : Char) : List Char :=
  match c with
  | '"' => ['\\', '"']
  | '\\' => ['\\', '\\']
  | '\n' => ['\\', 'n']
  | '\r' => ['\\', 'r']
  | '\t' => ['\\', 't']
  | '\x08' => ['\\', 'b']
  | '\x0c' => ['\\', 'f']
  | c => if c < ' ' then '\\' :: 'u' :: fourDigits c.toNat else [c]

/-- A text in quotes. -/
def quote (s : String) : String := String.ofList ('"' :: s.toList.flatMap escapeChar ++ ['"'])

/-- A value that has no parts. -/
def leaf : Json → String
  | null => "null"
  | bool true => "true"
  | bool false => "false"
  | number n => toString n
  | text s => quote s
  | list _ => "[]"
  | object _ => "\x7b\x7d"

/-! ## On one line -/

mutual

/-- The value on one line without blanks. -/
def compact : Json → String
  | list values => "[" ++ compactItems values ++ "]"
  | object members => "\x7b" ++ compactMembers members ++ "\x7d"
  | value => leaf value

def compactItems : List Json → String
  | [] => ""
  | [value] => compact value
  | value :: more => compact value ++ "," ++ compactItems more

def compactMembers : List (String × Json) → String
  | [] => ""
  | [(key, value)] => quote key ++ ":" ++ compact value
  | (key, value) :: more => quote key ++ ":" ++ compact value ++ "," ++ compactMembers more

end

/-! ## Indented -/

/-- The start of a line at a level. -/
def lineStart (level : Nat) : String := "\n" ++ String.ofList (List.replicate (2 * level) ' ')

mutual

/-- The value indented, as it stands at a level; what is empty stays on its line. -/
def prettyAt (level : Nat) : Json → String
  | list (value :: more) =>
    "[" ++ prettyItems (level + 1) (value :: more) ++ lineStart level ++ "]"
  | object (member :: more) =>
    "\x7b" ++ prettyMembers (level + 1) (member :: more) ++ lineStart level ++ "\x7d"
  | value => leaf value

def prettyItems (level : Nat) : List Json → String
  | [] => ""
  | [value] => lineStart level ++ prettyAt level value
  | value :: more => lineStart level ++ prettyAt level value ++ "," ++ prettyItems level more

def prettyMembers (level : Nat) : List (String × Json) → String
  | [] => ""
  | [(key, value)] => lineStart level ++ quote key ++ ": " ++ prettyAt level value
  | (key, value) :: more =>
    lineStart level ++ quote key ++ ": " ++ prettyAt level value ++ "," ++ prettyMembers level more

end

/-- The value indented. -/
def pretty (value : Json) : String := prettyAt 0 value

end Json

end RequestBinding
