import PhraseAudit.Encoding.Basic
import PhraseAudit.Proofs.Encoding.Resuming

/-!
# Decoding in chunks and at once

The cuts between chunks are not seen in what is decoded, when a decoder can go on behind the bytes
that wait. Bytes that can be read at once are read in chunks to the same text, with the same bytes
waiting at the end, and bytes that cannot be read at once have a fault in some chunk. Only then do
the chunks make a difference: the text of those before the fault has been read.
-/

namespace PhraseAudit

/-- A failure behind a function is a failure in front of it. -/
theorem Except.error_of_map {ε α β : Type} {f : α → β} {result : Except ε α} {error : ε}
    (fails : result.map f = .error error) : result = .error error := by
  cases result with
  | error other => exact congrArg Except.error (Except.error.inj fails)
  | ok value => cases fails

namespace Decoder

/-- What a decoder needs so that chunks are not seen: it goes on behind the bytes that wait, only its
faults depend on positions, and no more bytes make good a fault. -/
structure Lawful (decoder : Decoder) : Prop where
  empty : ∀ position, decoder.decode position [] = .ok ⟨[], []⟩
  resumes : ∀ {position bytes decoded}, decoder.decode position bytes = .ok decoded →
    Resumes decoder.decode position bytes decoded
  moves : ∀ {position bytes decoded} other, decoder.decode position bytes = .ok decoded →
    decoder.decode other bytes = .ok decoded
  stays : ∀ {position bytes fault} more, decoder.decode position bytes = .error fault →
    decoder.decode position (bytes ++ more) = .error fault

namespace Lawful

variable {decoder : Decoder} (lawful : decoder.Lawful) {position : Nat}
  {bytes pending : List UInt8} {decoded : Decoded} {fault : DecodeFault}
include lawful

/-- Bytes that wait go on waiting when nothing follows. -/
theorem waits_of_decode (read : decoder.decode position bytes = .ok decoded) (other : Nat) :
    decoder.decode other decoded.pending = .ok ⟨[], decoded.pending⟩ := by
  obtain ⟨count, _, goes⟩ := lawful.resumes read
  have again := goes []
  rw [List.append_nil, List.append_nil, read] at again
  cases later : decoder.decode (position + count) decoded.pending with
  | error fault =>
    rw [later] at again
    cases again
  | ok behind =>
    rw [later] at again
    have same : decoded = behind.prepend decoded.text := Except.ok.inj again
    have nothing : behind.text = [] :=
      List.append_right_eq_self.1 (congrArg Decoded.text same).symm
    have waiting : behind.pending = decoded.pending := (congrArg Decoded.pending same).symm
    rw [lawful.moves other later, ← nothing, ← waiting]

/-- Chunks are read as what they hold together, when that can be read. The induction is on the
chunks: what waits behind one of them goes on with the next. -/
theorem run_of_decode {chunks : List (List UInt8)}
    (waits : decoder.decode position pending = .ok ⟨[], pending⟩)
    (read : decoder.decode position (pending ++ chunks.flatten) = .ok decoded) :
    decoder.run position pending chunks =
      ⟨decoded.text, (decoder.finish decoded.pending).map .malformed⟩ := by
  induction chunks generalizing position pending decoded with
  | nil =>
    rw [List.flatten_nil, List.append_nil, waits] at read
    cases read
    rfl
  | cons chunk rest ih =>
    rw [List.flatten_cons, ← List.append_assoc] at read
    cases first : decoder.decode position (pending ++ chunk) with
    | error fault =>
      rw [lawful.stays _ first] at read
      cases read
    | ok inner =>
      obtain ⟨count, _, goes⟩ := lawful.resumes first
      rw [goes] at read
      cases later : decoder.decode (position + count) (inner.pending ++ rest.flatten) with
      | error fault =>
        rw [later] at read
        cases read
      | ok behind =>
        rw [later] at read
        cases read
        rw [run, first]
        change (decoder.run 0 inner.pending rest).prepend inner.text = _
        rw [ih (lawful.waits_of_decode first 0) (lawful.moves 0 later)]
        rfl

/-- Chunks that cannot be read together have a fault. -/
theorem fault_run_of_error {chunks : List (List UInt8)}
    (waits : decoder.decode position pending = .ok ⟨[], pending⟩)
    (fails : decoder.decode position (pending ++ chunks.flatten) = .error fault) :
    ∃ other, (decoder.run position pending chunks).fault = some (.malformed other) := by
  induction chunks generalizing position pending fault with
  | nil =>
    rw [List.flatten_nil, List.append_nil, waits] at fails
    cases fails
  | cons chunk rest ih =>
    rw [List.flatten_cons, ← List.append_assoc] at fails
    rw [run]
    cases first : decoder.decode position (pending ++ chunk) with
    | error fault => exact ⟨fault, rfl⟩
    | ok inner =>
      obtain ⟨count, _, goes⟩ := lawful.resumes first
      rw [goes] at fails
      cases later : decoder.decode 0 (inner.pending ++ rest.flatten) with
      | error fault => exact ih (lawful.waits_of_decode first 0) later
      | ok behind =>
        rw [lawful.moves (position + count) later] at fails
        cases fails

/-- Bytes that can be read at once are read in chunks to the same end. -/
theorem runBehind_of_decode (read : decoder.decode position bytes = .ok decoded) (mark : Nat) :
    decoder.runBehind mark position bytes =
      ⟨decoded.text, (decoder.finish decoded.pending).map .malformed⟩ := by
  refine lawful.run_of_decode (lawful.empty position) ?_
  rwa [Chunks.flatten_cut]

/-- Bytes that cannot be read at once have a fault when they are read in chunks. -/
theorem fault_runBehind_of_error (fails : decoder.decode position bytes = .error fault)
    (mark : Nat) :
    ∃ other, (decoder.runBehind mark position bytes).fault = some (.malformed other) := by
  have together : decoder.decode position
      ([] ++ (Chunks.cut (Chunks.size - mark) bytes).flatten) = .error fault := by
    rwa [Chunks.flatten_cut]
  exact lawful.fault_run_of_error (lawful.empty position) together

/-- Bytes are read in chunks to a text without fault exactly when they are read at once to this text
and to bytes that may stand at the end. -/
theorem runBehind_eq_iff (mark : Nat) (text : Text) :
    decoder.runBehind mark position bytes = ⟨text, none⟩ ↔
      ∃ pending, decoder.decode position bytes = .ok ⟨text, pending⟩ ∧
        decoder.finish pending = none := by
  constructor
  · intro completed
    cases read : decoder.decode position bytes with
    | error fault =>
      obtain ⟨other, faulty⟩ := lawful.fault_runBehind_of_error read mark
      rw [completed] at faulty
      cases faulty
    | ok decoded =>
      rw [lawful.runBehind_of_decode read] at completed
      obtain ⟨rfl, finished⟩ := Decoding.mk.inj completed
      exact ⟨decoded.pending, rfl, Option.map_eq_none_iff.1 finished⟩
  · rintro ⟨pending, read, finished⟩
    rw [lawful.runBehind_of_decode read, finished]
    rfl

end Lawful

/-- When the bytes of a source make up one chunk, nothing has been read before a fault. -/
theorem runBehind_of_error {decoder : Decoder} (lawful : decoder.Lawful) {mark position : Nat}
    {bytes : List UInt8} {fault : DecodeFault}
    (small : mark + bytes.length ≤ Chunks.size)
    (fails : decoder.decode position bytes = .error fault) :
    decoder.runBehind mark position bytes = ⟨[], some (.malformed fault)⟩ := by
  have nonempty : bytes ≠ [] := by
    rintro rfl
    rw [lawful.empty] at fails
    cases fails
  rw [runBehind, Chunks.cut_of_length_le nonempty (by omega), run, List.nil_append, fails]

end Decoder

namespace Utf8

/-- Only the faults of UTF-8 depend on the position. -/
theorem decodeFrom_moves {position : Nat} {bytes : List UInt8} {decoded : Decoded} (other : Nat)
    (read : decodeFrom position bytes = .ok decoded) : decodeFrom other bytes = .ok decoded := by
  fun_induction decodeFrom position bytes generalizing other decoded with
  | case1 position => exact read
  | case2 position a rest lead ih =>
    obtain ⟨inner, behind, rfl⟩ := Decoded.exists_of_map_push read
    rw [decodeFrom_one lead, ih _ behind]
    rfl
  | case5 position a lead b rest second ih =>
    obtain ⟨inner, behind, rfl⟩ := Decoded.exists_of_map_push read
    rw [decodeFrom_two lead second, ih _ behind]
    rfl
  | case9 position a low high lead b second c rest third ih =>
    obtain ⟨inner, behind, rfl⟩ := Decoded.exists_of_map_push read
    rw [decodeFrom_three lead second third, ih _ behind]
    rfl
  | case16 position a low high lead b second c third d rest fourth ih =>
    obtain ⟨inner, behind, rfl⟩ := Decoded.exists_of_map_push read
    rw [decodeFrom_four lead second third fourth, ih _ behind]
    rfl
  | _ =>
    cases read <;> rw [decodeFrom.eq_def] <;> simp_all

/-- What is a fault in UTF-8 stays one whatever follows. -/
theorem decodeFrom_stays {position : Nat} {bytes : List UInt8} {fault : DecodeFault}
    (more : List UInt8) (fails : decodeFrom position bytes = .error fault) :
    decodeFrom position (bytes ++ more) = .error fault := by
  fun_induction decodeFrom position bytes generalizing fault with
  | case2 position a rest lead ih =>
    rw [List.cons_append, decodeFrom_one lead, ih (Except.error_of_map fails)]
    rfl
  | case5 position a lead b rest second ih =>
    rw [List.cons_append, List.cons_append, decodeFrom_two lead second,
      ih (Except.error_of_map fails)]
    rfl
  | case9 position a low high lead b second c rest third ih =>
    simp only [List.cons_append]
    rw [decodeFrom_three lead second third, ih (Except.error_of_map fails)]
    rfl
  | case16 position a low high lead b second c third d rest fourth ih =>
    simp only [List.cons_append]
    rw [decodeFrom_four lead second third fourth, ih (Except.error_of_map fails)]
    rfl
  | _ =>
    cases fails <;> rw [List.cons_append, decodeFrom.eq_def] <;> simp_all

end Utf8

namespace Utf16

/-- Only the faults of UTF-16 depend on the position. -/
theorem decodeFrom_moves {order : ByteOrder} {position : Nat} {bytes : List UInt8}
    {decoded : Decoded} (other : Nat) (read : decodeFrom order position bytes = .ok decoded) :
    decodeFrom order other bytes = .ok decoded := by
  fun_induction decodeFrom order position bytes generalizing other decoded with
  | case6 position a b unit notLow high c d rest second low =>
    rename_i ih
    obtain ⟨inner, behind, rfl⟩ := Decoded.exists_of_map_push read
    rw [decodeFrom_double notLow high low, ih _ behind]
    rfl
  | case8 position a b rest unit notLow notHigh =>
    rename_i ih
    obtain ⟨inner, behind, rfl⟩ := Decoded.exists_of_map_push read
    rw [decodeFrom_single notLow notHigh, ih _ behind]
    rfl
  | case4 position a b unit notLow =>
    rename_i high
    cases read
    rw [decodeFrom.eq_def]
    simp only [if_neg (show ¬ isLow (unitOf order a b) = true from notLow),
      if_pos (show isHigh (unitOf order a b) = true from high)]
  | case5 position a b unit notLow high =>
    cases read
    rw [decodeFrom.eq_def]
    simp only [if_neg (show ¬ isLow (unitOf order a b) = true from notLow),
      if_pos (show isHigh (unitOf order a b) = true from high)]
  | _ => cases read <;> rw [decodeFrom.eq_def]

/-- What is a fault in UTF-16 stays one whatever follows. -/
theorem decodeFrom_stays {order : ByteOrder} {position : Nat} {bytes : List UInt8}
    {fault : DecodeFault} (more : List UInt8)
    (fails : decodeFrom order position bytes = .error fault) :
    decodeFrom order position (bytes ++ more) = .error fault := by
  fun_induction decodeFrom order position bytes generalizing fault with
  | case6 position a b unit notLow high c d rest second low =>
    rename_i ih
    simp only [List.cons_append]
    rw [decodeFrom_double notLow high low, ih (Except.error_of_map fails)]
    rfl
  | case8 position a b rest unit notLow notHigh =>
    rename_i ih
    simp only [List.cons_append]
    rw [decodeFrom_single notLow notHigh, ih (Except.error_of_map fails)]
    rfl
  | case3 position a b rest unit =>
    rename_i low
    cases fails
    rw [List.cons_append, List.cons_append, decodeFrom.eq_def]
    simp only [if_pos (show isLow (unitOf order a b) = true from low)]
  | case7 position a b unit notLow high c d rest second =>
    rename_i unpaired
    cases fails
    simp only [List.cons_append]
    rw [decodeFrom.eq_def]
    simp only [if_neg (show ¬ isLow (unitOf order a b) = true from notLow),
      if_pos (show isHigh (unitOf order a b) = true from high),
      if_neg (show ¬ isLow (unitOf order c d) = true from unpaired)]
  | _ => cases fails

end Utf16

namespace Encoding

/-- The cuts between chunks are not seen in UTF-8. -/
theorem lawful_utf8Decoder : utf8Decoder.Lawful where
  empty _ := rfl
  resumes := Utf8.resumes
  moves := Utf8.decodeFrom_moves
  stays := Utf8.decodeFrom_stays

/-- The cuts between chunks are not seen in UTF-16. -/
theorem lawful_utf16Decoder (order : ByteOrder) : (utf16Decoder order).Lawful where
  empty _ := rfl
  resumes := Utf16.resumes
  moves := Utf16.decodeFrom_moves
  stays := Utf16.decodeFrom_stays

end Encoding

end PhraseAudit
