import PhraseAudit.Encoding.Decoder
import PhraseAudit.Encoding.SingleByte
import PhraseAudit.Encoding.Utf16
import PhraseAudit.Encoding.Utf32
import PhraseAudit.Encoding.Utf8

/-!
# Encodings of a source

The encodings in which every host can read a source, how one is told from the first bytes, and how
each of them is decoded.
-/

namespace PhraseAudit

/-- The encodings of a source. Those of UTF-16 and UTF-32 without a byte order take it from the byte
order mark at the beginning, and `utf8Signed` passes over a mark. -/
inductive Encoding where
  | utf8
  | utf8Signed
  | utf16 (order : Option ByteOrder)
  | utf32 (order : Option ByteOrder)
  | latin1
  | ascii
  | windows1252
deriving Repr, DecidableEq

namespace Encoding

/-- The usual name of an encoding. -/
def name : Encoding → String
  | .utf8 => "utf-8"
  | .utf8Signed => "utf-8-sig"
  | .utf16 none => "utf-16"
  | .utf16 (some order) => (Scheme.utf16 order).name
  | .utf32 none => "utf-32"
  | .utf32 (some order) => (Scheme.utf32 order).name
  | .latin1 => "latin-1"
  | .ascii => "ascii"
  | .windows1252 => "cp1252"

/-- Tells the encoding of a source from a byte order mark at its beginning. -/
def detect : List UInt8 → Encoding
  | 0xEF :: 0xBB :: 0xBF :: _ => .utf8Signed
  | 0xFF :: 0xFE :: _ => .utf16 none
  | 0xFE :: 0xFF :: _ => .utf16 none
  | _ => .utf8

/-- How UTF-8 is decoded. -/
def utf8Decoder : Decoder :=
  ⟨Utf8.decodeFrom, Utf8.finish⟩

/-- How UTF-16 is decoded. -/
def utf16Decoder (order : ByteOrder) : Decoder :=
  ⟨Utf16.decodeFrom order, Utf16.finish order⟩

/-- How UTF-32 is decoded. -/
def utf32Decoder (order : ByteOrder) : Decoder :=
  ⟨Utf32.decodeFrom order, Utf32.finish order⟩

/-- How ASCII is decoded. -/
def asciiDecoder : Decoder :=
  ⟨SingleByte.decodeFrom .ascii .notAscii SingleByte.asciiChar, fun _ => none⟩

/-- How Windows-1252 is decoded. -/
def windowsDecoder : Decoder :=
  ⟨SingleByte.decodeFrom .characterMap .unassigned SingleByte.windowsChar, fun _ => none⟩

/-- Decodes UTF-8 behind a byte order mark, which is not counted in positions. Less than a whole
mark is taken for an empty source. -/
def decodeSigned : Codec
  | [] | [0xEF] | [0xEF, 0xBB] => ⟨[], none⟩
  | 0xEF :: 0xBB :: 0xBF :: rest => utf8Decoder.runBehind 3 0 rest
  | bytes => utf8Decoder.runBehind 0 0 bytes

/-- Decodes UTF-16 in the order of its byte order mark, which is counted in positions. Without a
mark the order would be the little-endian one. -/
def decodeMarkedUtf16 : Codec
  | 0xFF :: 0xFE :: rest => (utf16Decoder .little).runBehind 2 2 rest
  | 0xFE :: 0xFF :: rest => (utf16Decoder .big).runBehind 2 2 rest
  | bytes => (utf16Decoder .little).runUnmarked 16 bytes

/-- Decodes UTF-32 in the order of its byte order mark, which is counted in positions. Without a
mark the order would be the little-endian one. -/
def decodeMarkedUtf32 : Codec
  | 0xFF :: 0xFE :: 0x00 :: 0x00 :: rest => (utf32Decoder .little).runBehind 4 4 rest
  | 0x00 :: 0x00 :: 0xFE :: 0xFF :: rest => (utf32Decoder .big).runBehind 4 4 rest
  | bytes => (utf32Decoder .little).runUnmarked 32 bytes

/-- Decodes a source. -/
def decode : Encoding → Codec
  | .utf8 => utf8Decoder.runBehind 0 0
  | .utf8Signed => decodeSigned
  | .utf16 none => decodeMarkedUtf16
  | .utf16 (some order) => (utf16Decoder order).runBehind 0 0
  | .utf32 none => decodeMarkedUtf32
  | .utf32 (some order) => (utf32Decoder order).runBehind 0 0
  | .latin1 => fun bytes => ⟨SingleByte.decodeLatin bytes, none⟩
  | .ascii => asciiDecoder.runBehind 0 0
  | .windows1252 => windowsDecoder.runBehind 0 0

end Encoding

end PhraseAudit
