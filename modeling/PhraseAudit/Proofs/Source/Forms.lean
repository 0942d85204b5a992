import PhraseAudit.Proofs.Encoding.Chunked
import PhraseAudit.Proofs.Source.Reading

/-!
# The forms of a text

A file can hold a text in several forms whose encoding shows: behind the byte order mark of one of
three encodings, or in plain UTF-8, unless the text itself begins with the character of the mark. All
of them are read as the lines of the text. The mark in front is dropped, once.
-/

namespace PhraseAudit

/-- The character that a byte order mark is the form of. -/
def Text.markCharacter : Char :=
  '\ufeff'

namespace Source

/-- The contents that hold a text so that its encoding shows. -/
inductive Holds (text : Text) : List UInt8 → Prop where
  | signedUtf8 : Holds text (0xEF :: 0xBB :: 0xBF :: Utf8.encode text)
  | utf16Little : Holds text (0xFF :: 0xFE :: Utf16.encode .little text)
  | utf16Big : Holds text (0xFE :: 0xFF :: Utf16.encode .big text)
  | plainUtf8 (unmarked : text.head? ≠ some Text.markCharacter) : Holds text (Utf8.encode text)

/-- Bytes from which UTF-8 is read show no other encoding, unless what is read begins with the
character of the mark. Of the three marks one is read as this character, and the two others are not
read at all. -/
theorem detect_of_decodeFrom {bytes : List UInt8} {decoded : Decoded}
    (read : Utf8.decodeFrom 0 bytes = .ok decoded)
    (unmarked : decoded.text.head? ≠ some Text.markCharacter) :
    Encoding.detect bytes = .utf8 := by
  unfold Encoding.detect
  split
  · rename_i rest
    have lead : Utf8.Lead.ofByte 0xEF = .three 0x80 0xBF := by decide
    have mark : Utf8.decodeFrom 0 (0xEF :: 0xBB :: 0xBF :: rest) =
        (Utf8.decodeFrom 3 rest).map (.push Text.markCharacter) :=
      Utf8.decodeFrom_three lead (by decide) (by decide)
    rw [mark] at read
    obtain ⟨inner, _, rfl⟩ := Decoded.exists_of_map_push read
    exact absurd rfl unmarked
  · rw [Utf8.decodeFrom.eq_def] at read
    cases read
  · rw [Utf8.decodeFrom.eq_def] at read
    cases read
  · rfl

/-- The UTF-8 form of a text shows no other encoding, unless the text begins with the character of
the mark. -/
theorem detect_encode {text : Text} (unmarked : text.head? ≠ some Text.markCharacter) :
    Encoding.detect (Utf8.encode text) = .utf8 :=
  detect_of_decodeFrom (Utf8.decodeFrom_encode 0 text) unmarked

/-- A content that is decoded without fault, in the encoding that it shows, stands for the text that
was decoded, whatever codecs there are. -/
theorem decodesTo_of_decode {codecs : Codecs} {content : List UInt8} {text : Text}
    (decoded : (Encoding.detect content).decode content = ⟨text, none⟩) :
    DecodesTo codecs [] content text :=
  ⟨_, codecOf_detected content, decoded⟩

/-- Every content that holds a text is decoded as this text. -/
theorem decode_of_holds {text : Text} {content : List UInt8} (held : Holds text content) :
    (Encoding.detect content).decode content = ⟨text, none⟩ := by
  have utf8 : ∀ mark, Encoding.utf8Decoder.runBehind mark 0 (Utf8.encode text) = ⟨text, none⟩ :=
    Encoding.lawful_utf8Decoder.runBehind_of_decode (Utf8.decodeFrom_encode 0 text)
  have utf16 : ∀ order,
      (Encoding.utf16Decoder order).runBehind 2 2 (Utf16.encode order text) = ⟨text, none⟩ :=
    fun order => (Encoding.lawful_utf16Decoder order).runBehind_of_decode
      (Utf16.decodeFrom_encode order 2 text) 2
  cases held with
  | signedUtf8 => exact utf8 3
  | utf16Little => exact utf16 .little
  | utf16Big => exact utf16 .big
  | plainUtf8 unmarked =>
    rw [detect_encode unmarked]
    exact utf8 0

/-- A content that holds a text stands for it when the encoding is detected. -/
theorem decodesTo_of_holds {codecs : Codecs} {text : Text} {content : List UInt8}
    (held : Holds text content) : DecodesTo codecs [] content text :=
  decodesTo_of_decode (decode_of_holds held)

/-- A file that holds a text is read as the lines of the text, to its end. -/
theorem lines_of_holds {codecs : Codecs} {text : Text} {content : List UInt8}
    (held : Holds text content) {tree : FileTree} {source : Path}
    (read : tree.read source = .ok content) :
    lines codecs tree [] source = ⟨number 1 (Lines.ofText text).all, none⟩ :=
  lines_of_decodesTo read (decodesTo_of_holds held)

end Source

end PhraseAudit
