import PhraseAudit.Text.Numeral

/-!
# Faults in encoded text

A decoder that meets bytes it cannot read says which bytes they are, where they stand, and what is
wrong with them.
-/

namespace PhraseAudit

/-- The order in which the bytes of a code unit are stored. -/
inductive ByteOrder where
  | little
  | big
deriving Repr, DecidableEq

/-- The ways of reading bytes that can find fault with them. -/
inductive Scheme where
  | utf8
  | utf16 (order : ByteOrder)
  | utf32 (order : ByteOrder)
  | ascii
  | characterMap
deriving Repr, DecidableEq

/-- The name of a scheme in messages. -/
def Scheme.name : Scheme → String
  | .utf8 => "utf-8"
  | .utf16 .little => "utf-16-le"
  | .utf16 .big => "utf-16-be"
  | .utf32 .little => "utf-32-le"
  | .utf32 .big => "utf-32-be"
  | .ascii => "ascii"
  | .characterMap => "charmap"

/-- What can be wrong with bytes. -/
inductive Malformation where
  | invalidStart
  | invalidContinuation
  | endOfData
  | truncated
  | loneLowSurrogate
  | unpairedHighSurrogate
  | surrogateCodePoint
  | codePointTooLarge
  | notAscii
  | unassigned
deriving Repr, DecidableEq

/-- The wording of what is wrong. -/
def Malformation.message : Malformation → String
  | .invalidStart => "invalid start byte"
  | .invalidContinuation => "invalid continuation byte"
  | .endOfData => "unexpected end of data"
  | .truncated => "truncated data"
  | .loneLowSurrogate => "illegal encoding"
  | .unpairedHighSurrogate => "illegal UTF-16 surrogate"
  | .surrogateCodePoint => "code point in surrogate code point range(0xd800, 0xe000)"
  | .codePointTooLarge => "code point not in range(0x110000)"
  | .notAscii => "ordinal not in range(128)"
  | .unassigned => "character maps to <undefined>"

/-- Bytes that cannot be read, and their position. -/
structure DecodeFault where
  scheme : Scheme
  position : Nat
  bytes : List UInt8
  malformation : Malformation
deriving Repr, DecidableEq

/-- The wording of a fault. A single byte is shown; of several bytes the first and the last position
are given. -/
def DecodeFault.message (fault : DecodeFault) : String :=
  let place := match fault.bytes with
    | [byte] =>
      s!"byte 0x{String.ofList (Text.hexDigits 2 byte.toNat)} in position " ++
        String.ofList (Text.ofNat fault.position)
    | bytes =>
      s!"bytes in position {String.ofList (Text.ofNat fault.position)}-" ++
        String.ofList (Text.ofNat (fault.position + bytes.length - 1))
  s!"'{fault.scheme.name}' codec can't decode {place}: {fault.malformation.message}"

/-- What a decoder made of bytes: the text it read, and the bytes at the end that are the beginning
of a character and wait for more. -/
structure Decoded where
  text : Text
  pending : List UInt8
deriving Repr, DecidableEq

/-- One more character in front of what was decoded behind it. -/
def Decoded.push (c : Char) (decoded : Decoded) : Decoded :=
  { decoded with text := c :: decoded.text }

/-- What was decoded with a character in front was decoded without it, too. -/
theorem Decoded.exists_of_map_push {c : Char} {read : Except DecodeFault Decoded}
    {decoded : Decoded} (pushed : read.map (.push c) = .ok decoded) :
    ∃ inner, read = .ok inner ∧ decoded = inner.push c := by
  cases read with
  | error fault => cases pushed
  | ok inner => exact ⟨inner, rfl, (Except.ok.inj pushed).symm⟩

end PhraseAudit
