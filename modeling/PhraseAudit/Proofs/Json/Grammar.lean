import PhraseAudit.Encoding.Utf16

/-!
# The grammar of JSON

Which texts are JSON, and what each of them spells. A value is one of three names, a number, a text,
a list or an object, and blanks may stand around every value and every key. This is the whole of
JSON, in which most values can be written in more than one way, and not only the form of which the
printer makes use.

Between quotes stand characters and escapes. An escape for one half of a surrogate pair, without the
other half, stands for no character, so that a text with such an escape spells nothing.
-/

namespace PhraseAudit

/-- A number in the way JSON writes it: an integer times a power of ten. -/
structure Decimal where
  digits : Int
  exponent : Int
deriving Repr, DecidableEq

/-- What a JSON text spells. The members of an object keep their order, and a key may come more
than once. -/
inductive JsonValue where
  | null
  | boolean (truth : Bool)
  | number (decimal : Decimal)
  | text (characters : Text)
  | list (items : List JsonValue)
  | object (members : List (Text × JsonValue))

/-- No object in a value has two members with one key, so that it is told by looking up its keys. -/
inductive JsonValue.DistinctKeys : JsonValue → Prop where
  | null : DistinctKeys .null
  | boolean (truth : Bool) : DistinctKeys (.boolean truth)
  | number (decimal : Decimal) : DistinctKeys (.number decimal)
  | text (characters : Text) : DistinctKeys (.text characters)
  | list {items : List JsonValue} (inside : ∀ item ∈ items, DistinctKeys item) :
      DistinctKeys (.list items)
  | object {members : List (Text × JsonValue)} (keys : (members.map (·.1)).Nodup)
      (inside : ∀ member ∈ members, DistinctKeys member.2) : DistinctKeys (.object members)

namespace JsonText

/-! ## Blanks and sequences -/

/-- The characters that may stand between the parts of a JSON text. -/
def isSpace (c : Char) : Bool :=
  c == ' ' || c == '\t' || c == '\n' || c == '\r'

/-- An entry with blanks around it. -/
inductive Padded {α : Type} (spells : Text → α → Prop) : Text → α → Prop where
  | around {before text after : Text} {entry : α} (blankBefore : before.all isSpace = true)
      (spelled : spells text entry) (blankAfter : after.all isSpace = true) :
      Padded spells (before ++ (text ++ after)) entry

/-- One entry or more, each with blanks around it, with commas between them. -/
inductive SpellsSequence {α : Type} (spells : Text → α → Prop) : Text → List α → Prop where
  | last {text : Text} {entry : α} (padded : Padded spells text entry) :
      SpellsSequence spells text [entry]
  | more {text rest : Text} {entry : α} {entries : List α} (padded : Padded spells text entry)
      (behind : SpellsSequence spells rest entries) :
      SpellsSequence spells (text ++ ',' :: rest) (entry :: entries)

/-! ## Texts -/

/-- What a letter behind a backslash stands for, except for the letter of a code unit. -/
def letters : List (Char × Char) :=
  [('"', '"'), ('\\', '\\'), ('/', '/'), ('b', '\x08'), ('f', '\x0c'), ('n', '\n'), ('r', '\r'),
    ('t', '\t')]

/-- The value of a hexadecimal digit, small or large. -/
def hexValue? (c : Char) : Option Nat :=
  if '0' ≤ c ∧ c ≤ '9' then some (c.toNat - '0'.toNat)
  else if 'a' ≤ c ∧ c ≤ 'f' then some (c.toNat - 'a'.toNat + 10)
  else if 'A' ≤ c ∧ c ≤ 'F' then some (c.toNat - 'A'.toNat + 10)
  else none

/-- The number that hexadecimal digits stand for, with another number in front of them. -/
def hexNumber? (front : Nat) : Text → Option Nat
  | [] => some front
  | c :: rest => (hexValue? c).bind fun value => hexNumber? (front * 16 + value) rest

/-- Four hexadecimal digits behind a backslash and a letter spell a code unit. -/
inductive SpellsUnit : Text → Nat → Prop where
  | digits {digits : Text} {unit : Nat} (four : digits.length = 4)
      (number : hexNumber? 0 digits = some unit) : SpellsUnit ('\\' :: 'u' :: digits) unit

/-- A character by its code units: one that is no surrogate, or two surrogates, the high one first.
-/
inductive SpellsUnits : Text → Char → Prop where
  | single {text : Text} {unit : Nat} (spelled : SpellsUnit text unit)
      (notLow : Utf16.isLow unit = false) (notHigh : Utf16.isHigh unit = false) :
      SpellsUnits text (Char.ofNat unit)
  | pair {text rest : Text} {high low : Nat} (spelled : SpellsUnit text high)
      (begins : Utf16.isHigh high = true) (behind : SpellsUnit rest low)
      (ends : Utf16.isLow low = true) :
      SpellsUnits (text ++ rest) (Utf16.pairOf high low)

/-- The ways to write a character between quotes: as itself, unless it is a control, the quote or
the backslash, or as an escape. -/
inductive SpellsChar : Text → Char → Prop where
  | plain {c : Char} (noControl : 0x20 ≤ c.toNat) (noQuote : c ≠ '"') (noEscape : c ≠ '\\') :
      SpellsChar [c] c
  | letter {letter c : Char} (known : (letter, c) ∈ letters) : SpellsChar ['\\', letter] c
  | units {text : Text} {c : Char} (spelled : SpellsUnits text c) : SpellsChar text c

/-- Characters are written one after the other. -/
inductive SpellsCharacters : Text → Text → Prop where
  | nil : SpellsCharacters [] []
  | cons {text rest : Text} {c : Char} {characters : Text} (spelled : SpellsChar text c)
      (behind : SpellsCharacters rest characters) :
      SpellsCharacters (text ++ rest) (c :: characters)

/-- A text stands between quotes. -/
inductive SpellsText : Text → Text → Prop where
  | quoted {text characters : Text} (spelled : SpellsCharacters text characters) :
      SpellsText ('"' :: (text ++ ['"'])) characters

/-! ## Numbers -/

/-- One decimal digit or more. -/
def IsDigits (text : Text) : Prop :=
  text ≠ [] ∧ text.all Char.isDigit = true

/-- The digits in front of the point: a zero, or digits that do not begin with one. -/
def IsWhole (text : Text) : Prop :=
  IsDigits text ∧ (text = ['0'] ∨ text.head? ≠ some '0')

/-- The sign of a number, which can only be a minus. -/
inductive SpellsMinus : Text → Bool → Prop where
  | absent : SpellsMinus [] false
  | minus : SpellsMinus ['-'] true

/-- The sign of a power. -/
inductive SpellsSign : Text → Bool → Prop where
  | absent : SpellsSign [] false
  | plus : SpellsSign ['+'] false
  | minus : SpellsSign ['-'] true

/-- The digits behind the point, if there is a point. -/
inductive SpellsFraction : Text → Text → Prop where
  | absent : SpellsFraction [] []
  | present {digits : Text} (proper : IsDigits digits) : SpellsFraction ('.' :: digits) digits

/-- The integer that digits stand for, with or without a minus. -/
def signed (negative : Bool) (digits : Text) : Int :=
  if negative then -(Nat.ofDigitChars 10 digits 0 : Int) else Nat.ofDigitChars 10 digits 0

/-- The power of ten behind a number, if there is one. -/
inductive SpellsPower : Text → Int → Prop where
  | absent : SpellsPower [] 0
  | present {mark : Char} {sign digits : Text} {negative : Bool} (isMark : mark = 'e' ∨ mark = 'E')
      (signs : SpellsSign sign negative) (proper : IsDigits digits) :
      SpellsPower (mark :: (sign ++ digits)) (signed negative digits)

/-- The decimal that the parts of a number make. The digits behind the point count as digits of the
integer, and each of them takes one from the power. -/
def decimalOf (negative : Bool) (whole fraction : Text) (power : Int) : Decimal :=
  ⟨signed negative (whole ++ fraction), power - fraction.length⟩

/-- A number has its parts in a fixed order. -/
inductive SpellsNumber : Text → Decimal → Prop where
  | parts {sign whole point scale : Text} {negative : Bool} {fraction : Text} {power : Int}
      (signs : SpellsMinus sign negative) (proper : IsWhole whole)
      (behind : SpellsFraction point fraction) (scaled : SpellsPower scale power) :
      SpellsNumber (sign ++ (whole ++ (point ++ scale))) (decimalOf negative whole fraction power)

/-! ## Values -/

/-- The names and what they stand for. -/
def names : List (Text × JsonValue) :=
  [("null".toList, .null), ("true".toList, .boolean true), ("false".toList, .boolean false)]

/-- A member of an object is a key, a colon and a value. -/
inductive SpellsMember (spells : Text → JsonValue → Prop) : Text → Text × JsonValue → Prop where
  | pair {keyText before after text : Text} {key : Text} {value : JsonValue}
      (named : SpellsText keyText key) (blankBefore : before.all isSpace = true)
      (blankAfter : after.all isSpace = true) (spelled : spells text value) :
      SpellsMember spells (keyText ++ (before ++ ':' :: (after ++ text))) (key, value)

/-- The ways to write a value. -/
inductive Spells : Text → JsonValue → Prop where
  | name {text : Text} {value : JsonValue} (known : (text, value) ∈ names) : Spells text value
  | number {text : Text} {decimal : Decimal} (spelled : SpellsNumber text decimal) :
      Spells text (.number decimal)
  | text {text characters : Text} (spelled : SpellsText text characters) :
      Spells text (.text characters)
  | emptyList {gap : Text} (blank : gap.all isSpace = true) :
      Spells ('[' :: (gap ++ [']'])) (.list [])
  | list {text : Text} {items : List JsonValue} (spelled : SpellsSequence Spells text items) :
      Spells ('[' :: (text ++ [']'])) (.list items)
  | emptyObject {gap : Text} (blank : gap.all isSpace = true) :
      Spells ('\x7b' :: (gap ++ ['\x7d'])) (.object [])
  | object {text : Text} {members : List (Text × JsonValue)}
      (spelled : SpellsSequence (SpellsMember Spells) text members) :
      Spells ('\x7b' :: (text ++ ['\x7d'])) (.object members)

/-- A text is JSON and denotes a value when it spells this value with blanks around it. -/
def Denotes (text : Text) (value : JsonValue) : Prop :=
  Padded Spells text value

end JsonText

end PhraseAudit
