import PhraseAudit.Encoding.Fault

/-!
# UTF-16

Code units of two bytes, in either byte order. A character beyond the first 65536 is a pair of
surrogates, the high one first.
-/

namespace PhraseAudit.Utf16

/-- The two bytes of a code unit. -/
def unitBytes (order : ByteOrder) (unit : Nat) : List UInt8 :=
  match order with
  | .little => [(unit % 256).toUInt8, (unit / 256).toUInt8]
  | .big => [(unit / 256).toUInt8, (unit % 256).toUInt8]

/-- The code units of a character. -/
def units (c : Char) : List Nat :=
  let code := c.toNat
  if code < 0x10000 then [code]
  else [0xD800 + (code - 0x10000) / 0x400, 0xDC00 + (code - 0x10000) % 0x400]

/-- The UTF-16 form of a text. -/
def encode (order : ByteOrder) (text : Text) : List UInt8 :=
  text.flatMap fun c => (units c).flatMap (unitBytes order)

/-- The code unit that two bytes stand for. -/
def unitOf (order : ByteOrder) (first second : UInt8) : Nat :=
  match order with
  | .little => first.toNat + 256 * second.toNat
  | .big => 256 * first.toNat + second.toNat

/-- A code unit that begins a pair. -/
def isHigh (unit : Nat) : Bool :=
  0xD800 ≤ unit && unit < 0xDC00

/-- A code unit that ends a pair. -/
def isLow (unit : Nat) : Bool :=
  0xDC00 ≤ unit && unit < 0xE000

/-- The character that a pair of surrogates stands for. -/
def pairOf (high low : Nat) : Char :=
  Char.ofNat (0x10000 + (high - 0xD800) * 0x400 + (low - 0xDC00))

/-- The fault of bytes at a position. -/
def fault (order : ByteOrder) (position : Nat) (bytes : List UInt8)
    (malformation : Malformation) : DecodeFault :=
  ⟨.utf16 order, position, bytes, malformation⟩

/-- Decodes bytes, of which the first has the given position. -/
def decodeFrom (order : ByteOrder) (position : Nat) : List UInt8 → Except DecodeFault Decoded
  | [] => .ok ⟨[], []⟩
  | [a] => .ok ⟨[], [a]⟩
  | a :: b :: rest =>
    let unit := unitOf order a b
    if isLow unit then .error (fault order position [a, b] .loneLowSurrogate)
    else if isHigh unit then
      match rest with
      | [] => .ok ⟨[], [a, b]⟩
      | [c] => .ok ⟨[], [a, b, c]⟩
      | c :: d :: rest =>
        let second := unitOf order c d
        if isLow second then
          (decodeFrom order (position + 4) rest).map (.push (pairOf unit second))
        else .error (fault order position [a, b] .unpairedHighSurrogate)
    else (decodeFrom order (position + 2) rest).map (.push (Char.ofNat unit))

/-- The fault of bytes that were left waiting when no more bytes follow: half a code unit, or a high
surrogate alone. Its position counts from the first of them. -/
def finish (order : ByteOrder) : List UInt8 → Option DecodeFault
  | [] => none
  | [a] => some (fault order 0 [a] .truncated)
  | pending => some (fault order 0 pending .endOfData)

end PhraseAudit.Utf16
