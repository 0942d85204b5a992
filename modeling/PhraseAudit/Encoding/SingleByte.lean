import PhraseAudit.Encoding.Fault

/-!
# Encodings with one byte for each character

ASCII refuses the upper half of the bytes, Latin-1 reads every byte as the code point of its value,
and Windows-1252 fills most of the controls of the upper half with characters of its own.
-/

namespace PhraseAudit.SingleByte

/-- Decodes bytes one by one, of which the first has the given position. -/
def decodeFrom (scheme : Scheme) (malformation : Malformation) (charOf : UInt8 → Option Char)
    (position : Nat) : List UInt8 → Except DecodeFault Decoded
  | [] => .ok ⟨[], []⟩
  | byte :: rest =>
    match charOf byte with
    | some c => (decodeFrom scheme malformation charOf (position + 1) rest).map (.push c)
    | none => .error ⟨scheme, position, [byte], malformation⟩

/-- The character of a byte in ASCII. -/
def asciiChar (byte : UInt8) : Option Char :=
  if byte < 0x80 then some (Char.ofNat byte.toNat) else none

/-- The character of a byte in Latin-1. -/
def latinChar (byte : UInt8) : Char :=
  Char.ofNat byte.toNat

/-- The code points of the bytes from 0x80 to 0x9F in Windows-1252; zero stands for none. -/
def windowsUpper : List Nat := [
  0x20AC, 0, 0x201A, 0x0192, 0x201E, 0x2026, 0x2020, 0x2021,
  0x02C6, 0x2030, 0x0160, 0x2039, 0x0152, 0, 0x017D, 0,
  0, 0x2018, 0x2019, 0x201C, 0x201D, 0x2022, 0x2013, 0x2014,
  0x02DC, 0x2122, 0x0161, 0x203A, 0x0153, 0, 0x017E, 0x0178]

/-- The character of a byte in Windows-1252. -/
def windowsChar (byte : UInt8) : Option Char :=
  if 0x80 ≤ byte ∧ byte < 0xA0 then
    match windowsUpper[byte.toNat - 0x80]? with
    | some 0 | none => none
    | some code => some (Char.ofNat code)
  else some (latinChar byte)

/-- Decodes Latin-1, which no bytes can fail. -/
def decodeLatin (bytes : List UInt8) : Text :=
  bytes.map latinChar

end PhraseAudit.SingleByte
