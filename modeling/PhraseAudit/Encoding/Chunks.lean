/-!
# Chunks of a source

A source is not decoded at once. It is read in chunks, all of one size but the last, and each chunk
is decoded when it is needed.
-/

namespace PhraseAudit.Chunks

/-- How many bytes of a source are read at a time. -/
def size : Nat :=
  8192

/-- One more byte at the beginning of the first chunk. -/
def addByte (byte : UInt8) : List (List UInt8) → List (List UInt8)
  | [] => [[byte]]
  | chunk :: rest => (byte :: chunk) :: rest

/-- Cuts bytes into chunks, the first of which has only the given room. There is room for one byte
at least. -/
def cut : (room : Nat) → List UInt8 → List (List UInt8)
  | _, [] => []
  | room, byte :: rest =>
    if room ≤ 1 then [byte] :: cut size rest else addByte byte (cut (room - 1) rest)

/-- One more byte in front of chunks is one more byte in front of what they hold. -/
theorem flatten_addByte (byte : UInt8) (chunks : List (List UInt8)) :
    (addByte byte chunks).flatten = byte :: chunks.flatten := by
  cases chunks <;> rfl

/-- Cutting loses nothing. -/
theorem flatten_cut (room : Nat) (bytes : List UInt8) : (cut room bytes).flatten = bytes := by
  induction bytes generalizing room with
  | nil => rfl
  | cons byte rest ih =>
    unfold cut
    split
    · rw [List.flatten_cons, ih, List.singleton_append]
    · rw [flatten_addByte, ih]

/-- The first chunk is filled, and the next one begins behind it. -/
theorem cut_eq_take_cons {room : Nat} (roomy : 0 < room) {bytes : List UInt8}
    (nonempty : bytes ≠ []) :
    cut room bytes = bytes.take room :: cut size (bytes.drop room) := by
  induction bytes generalizing room with
  | nil => exact absurd rfl nonempty
  | cons byte rest ih =>
    obtain ⟨more, rfl⟩ : ∃ more, room = more + 1 := ⟨room - 1, by omega⟩
    rw [cut, Nat.add_sub_cancel, List.take_succ_cons, List.drop_succ_cons]
    cases more with
    | zero => rfl
    | succ more =>
      rw [if_neg (by omega)]
      cases rest with
      | nil => rfl
      | cons next behind => rw [ih (by omega) (List.cons_ne_nil _ _), addByte]

/-- Bytes for which there is room make up one chunk. -/
theorem cut_of_length_le {room : Nat} {bytes : List UInt8} (nonempty : bytes ≠ [])
    (fits : bytes.length ≤ room) : cut room bytes = [bytes] := by
  have roomy : 0 < room := Nat.lt_of_lt_of_le (List.length_pos_iff.2 nonempty) fits
  rw [cut_eq_take_cons roomy nonempty, List.take_of_length_le fits, List.drop_of_length_le fits]
  rfl

end PhraseAudit.Chunks
