import PhraseAudit.Proofs.Json.Grammar

/-!
# Reading JSON

A reader for all JSON texts. It goes through the text once, from the left, and what it reads next is
told by the next character, except for a number, which ends where the characters of a number end.

The recursion into brackets is bounded by the length of the text, and so are the loops over the
entries between brackets and over the characters between quotes. No text reaches these bounds.
-/

namespace PhraseAudit.JsonText

/-! ## Blanks and sequences -/

section Entries

variable {α : Type} (readEntry : Text → Option (α × Text)) (close : Char)

/-- What is left behind the blanks at the head. -/
def skip (text : Text) : Text :=
  text.dropWhile isSpace

/-- Reads an entry with blanks around it. -/
def readPadded (text : Text) : Option (α × Text) :=
  (readEntry (skip text)).map fun (entry, rest) => (entry, skip rest)

/-- Reads one entry or more, up to the closing bracket and with it. -/
def readSequence : (bound : Nat) → Text → Option (List α × Text)
  | 0, _ => none
  | bound + 1, text =>
    match readPadded readEntry text with
    | none => none
    | some (_, []) => none
    | some (entry, c :: rest) =>
      if c = close then some ([entry], rest)
      else if c = ',' then
        (readSequence bound rest).map fun (entries, rest) => (entry :: entries, rest)
      else none

/-- Reads what stands between brackets, behind the opening one. -/
def readEntries (text : Text) : Option (List α × Text) :=
  if (skip text).head? = some close then some ([], (skip text).tail)
  else readSequence readEntry close text.length text

end Entries

/-! ## Texts -/

/-- Reads the escape for a code unit. -/
def readUnit : Text → Option (Nat × Text)
  | '\\' :: 'u' :: a :: b :: c :: d :: rest =>
    (hexNumber? 0 [a, b, c, d]).map fun unit => (unit, rest)
  | _ => none

/-- Reads the escape for a code unit, and a second one where the first begins a pair. -/
def readUnits (text : Text) : Option (Char × Text) :=
  match readUnit text with
  | none => none
  | some (unit, rest) =>
    if Utf16.isLow unit then none
    else if Utf16.isHigh unit then
      match readUnit rest with
      | none => none
      | some (low, rest) => if Utf16.isLow low then some (Utf16.pairOf unit low, rest) else none
    else some (Char.ofNat unit, rest)

/-- Reads a character between quotes. -/
def readChar : Text → Option (Char × Text)
  | [] => none
  | c :: rest =>
    if c = '\\' then
      match rest with
      | [] => none
      | letter :: behind =>
        if letter = 'u' then readUnits (c :: rest)
        else (letters.lookup letter).map fun c => (c, behind)
    else if c.toNat < 0x20 ∨ c = '"' then none
    else some (c, rest)

/-- Reads characters up to the closing quote and with it. -/
def readCharacters : (bound : Nat) → Text → Option (Text × Text)
  | 0, _ => none
  | bound + 1, text =>
    if text.head? = some '"' then some ([], text.tail)
    else
      match readChar text with
      | none => none
      | some (c, rest) =>
        (readCharacters bound rest).map fun (characters, rest) => (c :: characters, rest)

/-- Reads a text between quotes. -/
def readText : Text → Option (Text × Text)
  | [] => none
  | c :: rest => if c = '"' then readCharacters rest.length rest else none

/-! ## Numbers -/

/-- Reads decimal digits, as many as there are. -/
def readDigits (text : Text) : Option (Text × Text) :=
  if text.takeWhile Char.isDigit = [] then none
  else some (text.takeWhile Char.isDigit, text.dropWhile Char.isDigit)

/-- Reads the sign of a number. -/
def readMinus : Text → Bool × Text
  | [] => (false, [])
  | c :: rest => if c = '-' then (true, rest) else (false, c :: rest)

/-- Reads the sign of a power. -/
def readSign : Text → Bool × Text
  | [] => (false, [])
  | c :: rest =>
    if c = '-' then (true, rest) else if c = '+' then (false, rest) else (false, c :: rest)

/-- Reads the digits in front of the point. -/
def readWhole (text : Text) : Option (Text × Text) :=
  match readDigits text with
  | none => none
  | some (digits, rest) =>
    if digits = ['0'] ∨ digits.head? ≠ some '0' then some (digits, rest) else none

/-- Reads the digits behind the point, if there is a point. -/
def readFraction : Text → Option (Text × Text)
  | [] => some ([], [])
  | c :: rest => if c = '.' then readDigits rest else some ([], c :: rest)

/-- Reads the power of ten, if there is one. -/
def readPower : Text → Option (Int × Text)
  | [] => some (0, [])
  | c :: rest =>
    if c = 'e' ∨ c = 'E' then
      let (negative, rest) := readSign rest
      (readDigits rest).map fun (digits, rest) => (signed negative digits, rest)
    else some (0, c :: rest)

/-- Reads a number. -/
def readNumber (text : Text) : Option (Decimal × Text) := do
  let (negative, text) := readMinus text
  let (whole, text) ← readWhole text
  let (fraction, text) ← readFraction text
  let (power, text) ← readPower text
  return (decimalOf negative whole fraction power, text)

/-! ## Values -/

/-- Reads a name. -/
def readName (text : Text) : Option (JsonValue × Text) :=
  names.findSome? fun (name, value) =>
    if name.isPrefixOf text then some (value, text.drop name.length) else none

/-- Reads a member of an object. -/
def readMember (readEntry : Text → Option (JsonValue × Text)) (text : Text) :
    Option ((Text × JsonValue) × Text) :=
  match readText text with
  | none => none
  | some (key, rest) =>
    match skip rest with
    | [] => none
    | c :: rest =>
      if c = ':' then (readEntry (skip rest)).map fun (value, rest) => ((key, value), rest)
      else none

/-- Reads a value, in which brackets are nested less deeply than the bound says. -/
def readValue : (bound : Nat) → Text → Option (JsonValue × Text)
  | 0, _ => none
  | _ + 1, [] => none
  | bound + 1, c :: rest =>
    if c = '"' then
      (readText (c :: rest)).map fun (characters, rest) => (.text characters, rest)
    else if c = '[' then
      (readEntries (readValue bound) ']' rest).map fun (items, rest) => (.list items, rest)
    else if c = '\x7b' then
      (readEntries (readMember (readValue bound)) '\x7d' rest).map fun (members, rest) =>
        (.object members, rest)
    else if c = '-' ∨ c.isDigit then
      (readNumber (c :: rest)).map fun (decimal, rest) => (.number decimal, rest)
    else readName (c :: rest)

/-- Reads a JSON text, all of it. -/
def read (text : Text) : Option JsonValue :=
  match readPadded (readValue text.length) text with
  | some (value, []) => some value
  | _ => none

end PhraseAudit.JsonText
