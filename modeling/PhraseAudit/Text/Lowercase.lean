import PhraseAudit.Text.Basic
import PhraseAudit.Unicode.Casing
import PhraseAudit.Unicode.Lowercase

/-!
# Small letters of a whole text

Unlike the comparison of two characters, putting a text into small letters may change its length
and looks at the neighbours of a letter: the dotted capital I becomes two characters, and a capital
sigma at the end of a word takes its final form.
-/

namespace PhraseAudit.Text

open Unicode

/-- The nearest character of a run of neighbours that is not case-ignorable is cased. -/
def meetsCased (neighbours : Text) : Bool :=
  match neighbours.dropWhile isCaseIgnorable with
  | [] => false
  | c :: _ => isCased c

/-- A capital sigma takes its final form after a cased letter, when no cased letter follows. The
text in front is given from the nearest character on. -/
def sigmaIsFinal (front following : Text) : Bool :=
  meetsCased front && !meetsCased following

/-- The small letters of one character, between the text in front (nearest first) and the text
behind it. -/
def lowerWithin (front : Text) (c : Char) (following : Text) : Text :=
  if c = '\u0130' then ['i', '\u0307']
  else if c = '\u03a3' then [if sigmaIsFinal front following then '\u03c2' else '\u03c3']
  else [lower c]

/-- Puts the rest of a text into small letters, given the text in front, nearest first. -/
def lowercaseFrom (front : Text) : Text → Text
  | [] => []
  | c :: following => lowerWithin front c following ++ lowercaseFrom (c :: front) following

/-- The text in small letters. -/
def lowercase (text : Text) : Text :=
  lowercaseFrom [] text

end PhraseAudit.Text
