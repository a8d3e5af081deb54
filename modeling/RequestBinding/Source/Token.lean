import RequestBinding.Source.Position
import RequestBinding.Source.Word
import RequestBinding.Text.Quoted

/-!
# Token trees

A source is read as words, marks and literals, with the tokens between two delimiters as a group.
`printTokens` writes token trees in a fixed layout, whatever blanks and comments stood between them.

## The printed layout

Tokens are separated by one space; a joint mark is not followed by one. Nothing stands between a
parenthesis or bracket and what it holds; braces have a space inside, `{ }` if they hold nothing.
-/

namespace RequestBinding.Source

inductive Delimiter where
  | parenthesis
  | bracket
  | brace
deriving Repr, DecidableEq

namespace Delimiter

def opening : Delimiter → Char
  | parenthesis => '('
  | bracket => '['
  | brace => '\x7b'

def closing : Delimiter → Char
  | parenthesis => ')'
  | bracket => ']'
  | brace => '\x7d'

/-- The delimiter that a character opens. -/
def ofOpening? : Char → Option Delimiter
  | '(' => some parenthesis
  | '[' => some bracket
  | '\x7b' => some brace
  | _ => none

/-- The delimiter that a character closes. -/
def ofClosing? : Char → Option Delimiter
  | ')' => some parenthesis
  | ']' => some bracket
  | '\x7d' => some brace
  | _ => none

end Delimiter

/-- The punctuation characters. -/
def punctuation : List Char := [
  '~', '!', '@', '#', '$', '%', '^', '&', '*', '-', '=', '+', '|', ';', ':', ',', '<', '.', '>',
  '/', '?', '\'']

/-- A punctuation character. -/
abbrev Mark := { c : Char // c ∈ punctuation }

namespace Mark

def comma : Mark := ⟨',', by decide⟩

def colon : Mark := ⟨':', by decide⟩

def dot : Mark := ⟨'.', by decide⟩

def minus : Mark := ⟨'-', by decide⟩

def equals : Mark := ⟨'=', by decide⟩

def hash : Mark := ⟨'#', by decide⟩

def bang : Mark := ⟨'!', by decide⟩

end Mark

inductive TokenTree where
  /-- An identifier or keyword. -/
  | word (position : Position) (word : Word)
  /-- A punctuation character; a joint one belongs together with the next mark or name. -/
  | mark (position : Position) (mark : Mark) (joint : Bool)
  /-- A literal as written. -/
  | literal (position : Position) (text : String)
  /-- The tokens between two delimiters. -/
  | group (position : Position) (delimiter : Delimiter) (inner : List TokenTree) (close : Position)
deriving Repr

namespace TokenTree

def position : TokenTree → Position
  | word p _ => p
  | mark p _ _ => p
  | literal p _ => p
  | group p _ _ _ => p

/-- The token is a mark that is joined to the next token. -/
def isJoint : TokenTree → Bool
  | mark _ _ joint => joint
  | _ => false

end TokenTree

mutual

/-- The printed form of a token tree. -/
def TokenTree.print : TokenTree → String
  | .word _ word => word.text
  | .mark _ mark _ => String.ofList [mark.val]
  | .literal _ text => text
  | .group _ .parenthesis inner _ => "(" ++ printTokens inner ++ ")"
  | .group _ .bracket inner _ => "[" ++ printTokens inner ++ "]"
  | .group _ .brace inner _ =>
    "\x7b " ++ printTokens inner ++ (if inner.isEmpty then "" else " ") ++ "\x7d"

/-- The printed form of a list of token trees. -/
def printTokens : List TokenTree → String
  | [] => ""
  | [tree] => tree.print
  | tree :: next :: more =>
    tree.print ++ (if tree.isJoint then "" else " ") ++ printTokens (next :: more)

end

/-- The last tokens are printed at the end. -/
theorem printTokens_append (before : List TokenTree) {trees : List TokenTree} (h : trees ≠ []) :
    ∃ start, printTokens (before ++ trees) = start ++ printTokens trees := by
  induction before with
  | nil => exact ⟨"", by simp⟩
  | cons tree before ih =>
    obtain ⟨start, hstart⟩ := ih
    cases hmore : before ++ trees with
    | nil => exact absurd (List.append_eq_nil_iff.mp hmore).2 h
    | cons next more =>
      rw [hmore] at hstart
      refine ⟨tree.print ++ (if tree.isJoint then "" else " ") ++ start, ?_⟩
      simp only [List.cons_append, hmore, printTokens, hstart, String.append_assoc]

mutual

/-- The number of tokens in a tree, delimiters included. -/
def TokenTree.size : TokenTree → Nat
  | .group _ _ inner _ => 2 + sizeOfTokens inner
  | _ => 1

def sizeOfTokens : List TokenTree → Nat
  | [] => 0
  | tree :: more => tree.size + sizeOfTokens more

end

end RequestBinding.Source
