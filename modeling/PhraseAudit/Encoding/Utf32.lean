import PhraseAudit.Encoding.Fault

/-!
# UTF-32

Four bytes for each character, in either byte order.
-/

namespace PhraseAudit.Utf32

/-- The number that four bytes stand for. -/
def codeOf (order : ByteOrder) (a b c d : UInt8) : Nat :=
  match order with
  | .little => a.toNat + 256 * (b.toNat + 256 * (c.toNat + 256 * d.toNat))
  | .big => d.toNat + 256 * (c.toNat + 256 * (b.toNat + 256 * a.toNat))

/-- The fault of bytes at a position. -/
def fault (order : ByteOrder) (position : Nat) (bytes : List UInt8)
    (malformation : Malformation) : DecodeFault :=
  ⟨.utf32 order, position, bytes, malformation⟩

/-- Decodes bytes, of which the first has the given position. -/
def decodeFrom (order : ByteOrder) (position : Nat) : List UInt8 → Except DecodeFault Decoded
  | a :: b :: c :: d :: rest =>
    let code := codeOf order a b c d
    if 0xD800 ≤ code ∧ code < 0xE000 then
      .error (fault order position [a, b, c, d] .surrogateCodePoint)
    else if 0x110000 ≤ code then
      .error (fault order position [a, b, c, d] .codePointTooLarge)
    else (decodeFrom order (position + 4) rest).map (.push (Char.ofNat code))
  | pending => .ok ⟨[], pending⟩

/-- The fault of bytes that were left waiting when no more bytes follow. Its position counts from
the first of them. -/
def finish (order : ByteOrder) : List UInt8 → Option DecodeFault
  | [] => none
  | pending => some (fault order 0 pending .truncated)

end PhraseAudit.Utf32
