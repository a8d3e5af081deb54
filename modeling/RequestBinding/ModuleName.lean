import RequestBinding.Source.Tokens
import RequestBinding.Source.Parser

/-!
# Module names

The name of a module is a single identifier, plain or raw, and no keyword. Blanks and comments may
stand around it, and a byte order mark before it.
-/

namespace RequestBinding

open Source

/-- The text is the name of a module. -/
def isModuleName (text : String) : Bool :=
  match readTokens text.toList with
  | .ok [.word _ word] => word.isName
  | _ => false

end RequestBinding
