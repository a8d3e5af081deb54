import RequestBinding.Source.Tokens
import RequestBinding.Source.Grammar.Levels

/-!
# Source files

`declarations` reads the text of a file. It fails at the first position where the text has no
tokens, else at the first where the tokens follow no rule, else at the first token left over in a
group.
-/

namespace RequestBinding.Source

open Source.Parser Source.Grammar

/-- The items of a file after its own attributes. -/
def fileItems (g : Rules) : Parser Unit := do
  discard <| innerAttributes g
  discard <| untilEnd (attributedItem g)

/-- The declarations in the tokens of a file. -/
def declarationsOf (tokens : List TokenTree) : Except SourceError (List Declaration) := do
  let (_, s) ←
    (fileItems (rulesFor (sizeOfTokens tokens))).run ⟨tokens, Position.start, [], [], none⟩
  match s.leftover with
  | some error => throw error
  | none => return s.found.reverse

/-- The declarations of a file. -/
def declarations (text : String) : Except SourceError (List Declaration) := do
  match readTokens (withoutPreamble text.toList) with
  | .error position => throw ⟨position, false, .noTokens⟩
  | .ok tokens => declarationsOf tokens

end RequestBinding.Source
