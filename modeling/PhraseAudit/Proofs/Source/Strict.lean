import PhraseAudit.Proofs.Encoding.Chunked
import PhraseAudit.Proofs.Source.Reading

/-!
# Files in plain UTF-8

A file that begins with no byte order mark is taken for UTF-8. It is read to its end exactly when its
bytes are well-formed, and everything else is reported as a fault of the file. No byte is lost: the
lines that are read, with the terminators that they had, make up the file again.
-/

namespace PhraseAudit

namespace Encoding

/-- The byte order marks that show an encoding. -/
def marks : List (List UInt8) :=
  [[0xEF, 0xBB, 0xBF], [0xFF, 0xFE], [0xFE, 0xFF]]

/-- Where no mark comes first, the encoding is UTF-8. -/
theorem detect_of_unmarked {content : List UInt8} (unmarked : ∀ mark ∈ marks, ¬ mark <+: content) :
    detect content = .utf8 := by
  unfold detect
  split
  · exact absurd ⟨_, rfl⟩ (unmarked [0xEF, 0xBB, 0xBF] (by decide))
  · exact absurd ⟨_, rfl⟩ (unmarked [0xFF, 0xFE] (by decide))
  · exact absurd ⟨_, rfl⟩ (unmarked [0xFE, 0xFF] (by decide))
  · rfl

/-- Bytes are decoded to a text without fault exactly when they are its form. The cuts between chunks
make no difference to this. -/
theorem decode_utf8_eq_iff (bytes : List UInt8) (text : Text) :
    Encoding.utf8.decode bytes = ⟨text, none⟩ ↔ bytes = Utf8.encode text := by
  refine (lawful_utf8Decoder.runBehind_eq_iff 0 text).trans ⟨?_, ?_⟩
  · rintro ⟨pending, read, finished⟩
    obtain rfl := (Utf8.finish_eq_none_iff pending).1 finished
    rw [Utf8.eq_encode_append_of_decodeFrom read, List.append_nil]
  · rintro rfl
    exact ⟨[], Utf8.decodeFrom_encode 0 text, rfl⟩

end Encoding

namespace Utf8

/-- Bytes are well-formed exactly when they are decoded without fault. -/
theorem wellFormed_iff_decoded (bytes : List UInt8) :
    WellFormed bytes ↔ (Encoding.utf8.decode bytes).fault = none := by
  rw [wellFormed_iff]
  simp only [← Encoding.decode_utf8_eq_iff]
  constructor
  · rintro ⟨text, decoded⟩
    rw [decoded]
  · intro complete
    exact ⟨(Encoding.utf8.decode bytes).text, congrArg (Decoding.mk _) complete⟩

instance decidableWellFormed (bytes : List UInt8) : Decidable (WellFormed bytes) :=
  decidable_of_iff' _ (wellFormed_iff_decoded bytes)

/-- An overlong form, a surrogate, a number that is too large, and a sequence that is cut off. -/
example : ∀ bytes ∈ [[0xC0, 0x80], [0xED, 0xA0, 0x80], [0xF4, 0x90, 0x80, 0x80], [0xE2, 0x82]],
    ¬ WellFormed bytes := by
  decide

end Utf8

namespace Source

section Unmarked

variable {content : List UInt8} (unmarked : ∀ mark ∈ Encoding.marks, ¬ mark <+: content)
include unmarked

/-- A content without a mark stands for the text of which it is the form. -/
theorem decodesTo_iff_of_unmarked (codecs : Codecs) (text : Text) :
    DecodesTo codecs [] content text ↔ content = Utf8.encode text := by
  have detected : codecOf codecs [] content = .ok Encoding.utf8.decode := by
    rw [codecOf_detected, Encoding.detect_of_unmarked unmarked]
  rw [← Encoding.decode_utf8_eq_iff]
  constructor
  · rintro ⟨codec, named, decoded⟩
    rw [detected] at named
    cases named
    exact decoded
  · intro decoded
    exact ⟨_, detected, decoded⟩

/-- A file that begins with no mark is read to its end exactly when its bytes are well-formed UTF-8.
Then they are the form of its lines, each with the terminator behind it, of which only a last line
that is not empty may have none. Otherwise the fault is reported, and it is a fault of this file. -/
theorem strict_reads_well_formed {codecs : Codecs} {tree : FileTree} {source : Path}
    (read : tree.read source = .ok content) :
    ((lines codecs tree [] source).failure = none ↔ Utf8.WellFormed content) ∧
      (Utf8.WellFormed content → ∃ split : Lines,
        (lines codecs tree [] source).items.map (·.2) = split.all ∧
          Utf8.encode split.toText = content) ∧
      ∀ error, (lines codecs tree [] source).failure = some error →
        error.source = source ∧ error.cause.isReported = true := by
  refine ⟨?_, ?_, ?_⟩
  · rw [failure_lines_eq_none_iff read, Utf8.wellFormed_iff]
    exact exists_congr (decodesTo_iff_of_unmarked unmarked codecs)
  · intro formed
    obtain ⟨text, form⟩ := (Utf8.wellFormed_iff content).1 formed
    have decoded := (decodesTo_iff_of_unmarked unmarked codecs text).2 form
    refine ⟨Lines.ofText text, ?_, ?_⟩
    · rw [lines_of_decodesTo read decoded, map_snd_number]
    · rw [Lines.toText_ofText, form]
  · intro error failed
    simp only [lines, read, Option.map_eq_some_iff] at failed
    obtain ⟨cause, failed, rfl⟩ := failed
    exact ⟨rfl, isReported_of_detected failed⟩

end Unmarked

/-- A file with characters of each length and all terminators, and one that breaks off within a
character. -/
theorem strict_reads_well_formed_mixed :
    let content := Utf8.encode "aß€😀\r\n\r\n\rb\nc".toList
    let broken : List UInt8 := [0x61, 0x0A, 0xE2, 0x82]
    let tree : FileTree := ⟨[(["doc.txt".toList], .file content),
      (["broken.txt".toList], .file broken)], []⟩
    let source : Path := Path.ofText "doc.txt".toList
    let other : Path := Path.ofText "broken.txt".toList
    (∀ mark ∈ Encoding.marks, ¬ mark <+: content) ∧ (∀ mark ∈ Encoding.marks, ¬ mark <+: broken) ∧
      tree.read source = .ok content ∧ tree.read other = .ok broken ∧
      (lines .plain tree [] source).failure = none ∧ ¬ Utf8.WellFormed broken := by
  intro content broken tree source other
  have unmarked : ∀ mark ∈ Encoding.marks, ¬ mark <+: content := by decide
  have unmarkedToo : ∀ mark ∈ Encoding.marks, ¬ mark <+: broken := by decide
  have read : tree.read source = .ok content := rfl
  have readToo : tree.read other = .ok broken := rfl
  have formed : Utf8.WellFormed content := (Utf8.wellFormed_iff content).2 ⟨_, rfl⟩
  have stopped : (lines .plain tree [] other).failure ≠ none := by decide
  refine ⟨unmarked, unmarkedToo, read, readToo, ?_, ?_⟩
  · exact (strict_reads_well_formed unmarked read).1.2 formed
  · intro formed
    exact stopped ((strict_reads_well_formed unmarkedToo readToo).1.2 formed)

end Source

end PhraseAudit
