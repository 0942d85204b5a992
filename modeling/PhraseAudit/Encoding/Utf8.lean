import PhraseAudit.Encoding.Fault

/-!
# UTF-8

Reading is strict: overlong forms, surrogates and code points beyond the last one are refused at the
first byte that shows them. A sequence that is cut off by the end of the bytes is no fault yet; it
becomes one when no more bytes follow.
-/

namespace PhraseAudit.Utf8

/-- The UTF-8 form of a text. -/
def encode (text : Text) : List UInt8 :=
  text.flatMap String.utf8EncodeChar

/-- What the first byte of a sequence announces. For the longer sequences it limits the second
byte, which rules out overlong forms, surrogates and code points that are too large. -/
inductive Lead where
  | one
  | two
  | three (low high : UInt8)
  | four (low high : UInt8)
  | invalid
deriving Repr, DecidableEq

/-- Reads a first byte. -/
def Lead.ofByte (byte : UInt8) : Lead :=
  if byte < 0x80 then .one
  else if byte < 0xC2 then .invalid
  else if byte < 0xE0 then .two
  else if byte < 0xF0 then
    .three (if byte = 0xE0 then 0xA0 else 0x80) (if byte = 0xED then 0x9F else 0xBF)
  else if byte < 0xF5 then
    .four (if byte = 0xF0 then 0x90 else 0x80) (if byte = 0xF4 then 0x8F else 0xBF)
  else .invalid

/-- A byte lies between two others. -/
def within (low high byte : UInt8) : Bool :=
  low ≤ byte && byte ≤ high

/-- A byte that continues a sequence. -/
def isContinuation (byte : UInt8) : Bool :=
  within 0x80 0xBF byte

/-- A byte that continues some sequence although the first byte of this one excludes it: it would
make a surrogate. The decoder waits for a third byte before it says so. -/
def hidesSurrogate (first second : UInt8) : Bool :=
  first == 0xED && within 0xA0 0xBF second

/-- The character that a sequence stands for, from the bits of its first byte that count. -/
def charOf (bits : Nat) (continuation : List UInt8) : Char :=
  Char.ofNat (continuation.foldl (fun code byte => code * 64 + byte.toNat % 64) bits)

/-- The fault of bytes at a position. -/
def fault (position : Nat) (bytes : List UInt8) (malformation : Malformation) : DecodeFault :=
  ⟨.utf8, position, bytes, malformation⟩

/-- Decodes bytes, of which the first has the given position. -/
def decodeFrom (position : Nat) : List UInt8 → Except DecodeFault Decoded
  | [] => .ok ⟨[], []⟩
  | a :: rest =>
    match Lead.ofByte a with
    | .one => (decodeFrom (position + 1) rest).map (.push (charOf a.toNat []))
    | .invalid => .error (fault position [a] .invalidStart)
    | .two =>
      match rest with
      | [] => .ok ⟨[], [a]⟩
      | b :: rest =>
        if isContinuation b then
          (decodeFrom (position + 2) rest).map (.push (charOf (a.toNat % 32) [b]))
        else .error (fault position [a] .invalidContinuation)
    | .three low high =>
      match rest with
      | [] => .ok ⟨[], [a]⟩
      | b :: rest =>
        if within low high b then
          match rest with
          | [] => .ok ⟨[], [a, b]⟩
          | c :: rest =>
            if isContinuation c then
              (decodeFrom (position + 3) rest).map (.push (charOf (a.toNat % 16) [b, c]))
            else .error (fault position [a, b] .invalidContinuation)
        else if rest.isEmpty && hidesSurrogate a b then .ok ⟨[], [a, b]⟩
        else .error (fault position [a] .invalidContinuation)
    | .four low high =>
      match rest with
      | [] => .ok ⟨[], [a]⟩
      | b :: rest =>
        if within low high b then
          match rest with
          | [] => .ok ⟨[], [a, b]⟩
          | c :: rest =>
            if isContinuation c then
              match rest with
              | [] => .ok ⟨[], [a, b, c]⟩
              | d :: rest =>
                if isContinuation d then
                  (decodeFrom (position + 4) rest).map (.push (charOf (a.toNat % 8) [b, c, d]))
                else .error (fault position [a, b, c] .invalidContinuation)
            else .error (fault position [a, b] .invalidContinuation)
        else .error (fault position [a] .invalidContinuation)

/-- Decodes bytes from their beginning. -/
def decode (bytes : List UInt8) : Except DecodeFault Decoded :=
  decodeFrom 0 bytes

/-- The fault of bytes that were left waiting when no more bytes follow. Its position counts from
the first of them. -/
def finish : List UInt8 → Option DecodeFault
  | [] => none
  | [a, b] =>
    if hidesSurrogate a b then some (fault 0 [a] .invalidContinuation)
    else some (fault 0 [a, b] .endOfData)
  | pending => some (fault 0 pending .endOfData)

end PhraseAudit.Utf8
