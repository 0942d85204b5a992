import PhraseAudit.Json.Value
import PhraseAudit.Text.Numeral

/-!
# Printing JSON

The one form in which a value is written: each item of a list and each member of an object on a line
of its own, indented by two spaces for each level, and nothing between the brackets of an empty one.
Characters outside ASCII stand for themselves.
-/

namespace PhraseAudit.Json

/-- How a character is written inside a text: quote, backslash and control characters are escaped,
the common ones by a letter. -/
def escapeChar (c : Char) : Text :=
  if c = '"' ∨ c = '\\' then ['\\', c]
  else if c = '\n' then ['\\', 'n']
  else if c = '\r' then ['\\', 'r']
  else if c = '\t' then ['\\', 't']
  else if c = '\x08' then ['\\', 'b']
  else if c = '\x0c' then ['\\', 'f']
  else if c.toNat < 0x20 then '\\' :: 'u' :: Text.hexDigits 4 c.toNat
  else [c]

/-- A text between double quotes. -/
def printText (characters : Text) : Text :=
  '"' :: characters.flatMap escapeChar ++ ['"']

/-- The line break in front of something at the given level. -/
def lineBreak (level : Nat) : Text :=
  '\n' :: List.replicate (2 * level) ' '

mutual

/-- Writes a value that stands at the given level. -/
def printAt (level : Nat) : Json → Text
  | .text characters => printText characters
  | .number value => Text.ofInt value
  | .list [] => ['[', ']']
  | .list (first :: rest) =>
    '[' :: printItems (level + 1) (first :: rest) ++ lineBreak level ++ [']']
  | .object [] => ['\x7b', '\x7d']
  | .object (first :: rest) =>
    '\x7b' :: printMembers (level + 1) (first :: rest) ++ lineBreak level ++ ['\x7d']

/-- Writes the items of a list, each on a line of its own. -/
def printItems (level : Nat) : List Json → Text
  | [] => []
  | [item] => lineBreak level ++ printAt level item
  | item :: next :: rest =>
    lineBreak level ++ printAt level item ++ ',' :: printItems level (next :: rest)

/-- Writes the members of an object, each on a line of its own. -/
def printMembers (level : Nat) : List (Text × Json) → Text
  | [] => []
  | [member] => lineBreak level ++ printMember level member
  | member :: next :: rest =>
    lineBreak level ++ printMember level member ++ ',' :: printMembers level (next :: rest)

/-- Writes one member of an object: its key, a colon and a space, and its value. -/
def printMember (level : Nat) : Text × Json → Text
  | (key, value) => printText key ++ ':' :: ' ' :: printAt level value

end

/-- Writes a value. -/
def print (value : Json) : Text :=
  printAt 0 value

end PhraseAudit.Json
