import PhraseAudit.Encoding.Chunks
import PhraseAudit.Encoding.Fault

/-!
# Decoding chunk by chunk

A decoder reads one chunk after the other. The bytes at the end of a chunk that are the beginning of
a character wait for the next chunk, or are a fault when there is none. When a chunk has a fault, the
text of the chunks before it has been read, and nothing of the chunk itself.
-/

namespace PhraseAudit

/-- Why bytes could not be decoded. A codec of the host has its own words for it. -/
inductive DecodeError where
  | malformed (fault : DecodeFault)
  | unmarked (bits : Nat)
  | foreign (message : String)
deriving Repr, DecidableEq

/-- The wording of a decoding error. -/
def DecodeError.message : DecodeError → String
  | .malformed fault => fault.message
  | .unmarked bits => s!"UTF-{String.ofList (Text.ofNat bits)} stream does not start with BOM"
  | .foreign message => message

/-- A decoded source: the text that was read, and why the rest of it could not be, if there is one. -/
structure Decoding where
  text : Text
  fault : Option DecodeError
deriving Repr, DecidableEq

/-- More text in front of what was decoded behind it. -/
def Decoding.prepend (text : Text) (decoding : Decoding) : Decoding :=
  { decoding with text := text ++ decoding.text }

/-- A codec makes a text of the bytes of a source, as far as it can. -/
abbrev Codec := List UInt8 → Decoding

/-- A way of decoding that can stop behind every chunk: how it reads bytes, of which the first has
the given position, and what is wrong with bytes that wait when no more follow. -/
structure Decoder where
  decode : (position : Nat) → List UInt8 → Except DecodeFault Decoded
  finish : List UInt8 → Option DecodeFault

namespace Decoder

/-- Decodes chunks behind bytes that wait. Positions count from the first of these, and in the first
chunk of a source from the given one. -/
def run (decoder : Decoder) (position : Nat) (pending : List UInt8) :
    List (List UInt8) → Decoding
  | [] => ⟨[], (decoder.finish pending).map .malformed⟩
  | chunk :: rest =>
    match decoder.decode position (pending ++ chunk) with
    | .error fault => ⟨[], some (.malformed fault)⟩
    | .ok decoded => (decoder.run 0 decoded.pending rest).prepend decoded.text

/-- Decodes the bytes behind a mark of the given length, which stands in the first chunk, too. -/
def runBehind (decoder : Decoder) (mark position : Nat) (bytes : List UInt8) : Decoding :=
  decoder.run position [] (Chunks.cut (Chunks.size - mark) bytes)

/-- Reads a source that should have had a byte order mark and has none: as soon as anything can be
read of the first chunk, the missing mark is an error. -/
def runUnmarked (decoder : Decoder) (bits : Nat) (bytes : List UInt8) : Decoding :=
  let chunk := bytes.take Chunks.size
  match decoder.decode 0 chunk with
  | .error fault => ⟨[], some (.malformed fault)⟩
  | .ok decoded =>
    if decoded.pending.length < chunk.length then ⟨[], some (.unmarked bits)⟩
    else ⟨decoded.text, (decoder.finish decoded.pending).map .malformed⟩

end Decoder

end PhraseAudit
