import RequestBinding.Text.CodePoints
import RequestBinding.Text.Table.Uppercase
import RequestBinding.Text.Table.Lowercase
import RequestBinding.Text.Table.LowercaseMapping

/-!
# Upper and lower case

Which characters are uppercase or lowercase, and the lowercase text of a character. ASCII is decided
without the tables.
-/

namespace RequestBinding.Text

/-- The character has the property `Uppercase`. -/
def isUpper (c : Char) : Bool :=
  if c.toNat < 0x80 then 'A' ≤ c && c ≤ 'Z' else Table.uppercase.has c.toNat

/-- The character has the property `Lowercase`. -/
def isLower (c : Char) : Bool :=
  if c.toNat < 0x80 then 'a' ≤ c && c ≤ 'z' else Table.lowercase.has c.toNat

def isAsciiDigit (c : Char) : Bool := '0' ≤ c && c ≤ '9'

def isAsciiLetter (c : Char) : Bool := 'a' ≤ c && c ≤ 'z' || 'A' ≤ c && c ≤ 'Z'

def isAsciiAlphanumeric (c : Char) : Bool := isAsciiLetter c || isAsciiDigit c

/--
The lowercase text of a character. U+0130 is the only character with two: `i` and a combining dot.
-/
def lowercase (c : Char) : List Char :=
  if c.toNat < 0x80 then [if 'A' ≤ c && c ≤ 'Z' then Char.ofNat (c.toNat + 32) else c]
  else if c.toNat == 0x130 then ['i', Char.ofNat 0x307]
  else [Char.ofNat (mapCode Table.lowercaseRuns c.toNat)]

/-- The text with each character in lowercase. -/
def lowercased (s : String) : String := String.ofList (s.toList.flatMap lowercase)

/-- The two texts are equal up to the case of ASCII letters. -/
def sameAsciiLetters (s t : String) : Bool :=
  s.toList.map Char.toLower == t.toList.map Char.toLower

/-- A character has at least one lowercase character. -/
theorem lowercase_ne_nil (c : Char) : lowercase c ≠ [] := by
  unfold lowercase
  split
  · simp
  · split <;> simp

end RequestBinding.Text
