/-!
# Texts

A text is the list of its code points, so that every position and every length counts code points.
This module holds the type and the white space around a text.
-/

namespace PhraseAudit

/-- A text is a list of code points. -/
abbrev Text := List Char

/-- White space is what a text is stripped of at its ends. It includes the four separator
controls from U+001C to U+001F and the next-line control U+0085. -/
def isBlank (c : Char) : Bool :=
  let code := c.toNat
  (0x9 ≤ code && code ≤ 0xD) || (0x1C ≤ code && code ≤ 0x20) || code == 0x85 || code == 0xA0 ||
    code == 0x1680 || (0x2000 ≤ code && code ≤ 0x200A) || code == 0x2028 || code == 0x2029 ||
    code == 0x202F || code == 0x205F || code == 0x3000

namespace Text

/-- Removes white space at the head. -/
def stripLeft (text : Text) : Text :=
  text.dropWhile isBlank

/-- Removes white space at the end. -/
def stripRight (text : Text) : Text :=
  (text.reverse.dropWhile isBlank).reverse

/-- Removes white space at both ends. -/
def strip (text : Text) : Text :=
  stripRight (stripLeft text)

/-- The part of a text before a bound. A negative bound counts back from the end, and leaves
nothing when it reaches past the head. -/
def before (text : Text) (bound : Int) : Text :=
  if 0 ≤ bound then text.take bound.toNat else text.take (text.length + bound).toNat

end Text

end PhraseAudit
