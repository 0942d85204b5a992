import PhraseAudit.Encoding.Utf8

/-!
# Reading back UTF-8

The UTF-8 form of a text is read as this text, with nothing left over. The step is at one character:
its first byte announces how many follow, every other byte continues the sequence, and the bits that
count make up the code point. The limits on the second byte let every character pass, since a
character is no surrogate.
-/

namespace PhraseAudit.Utf8

/-- Bounds on a byte are bounds on its number. -/
theorem within_iff (low high byte : UInt8) :
    within low high byte = true ↔ low.toNat ≤ byte.toNat ∧ byte.toNat ≤ high.toNat := by
  rw [within, Bool.and_eq_true, decide_eq_true_iff, decide_eq_true_iff, UInt8.le_iff_toNat_le,
    UInt8.le_iff_toNat_le]

/-- Six bits behind the mark of a continuation make a continuation. -/
theorem isContinuation_ofNat (bits : Nat) :
    isContinuation (UInt8.ofNat (bits % 64 + 128)) = true := by
  rw [isContinuation, within_iff, UInt8.toNat_ofNat']
  simp only [UInt8.toNat_ofNat, Nat.reducePow, Nat.reduceMod]
  omega

/-- What a first byte announces, told by its number. -/
theorem Lead.ofByte_eq (byte : UInt8) :
    ofByte byte =
      if byte.toNat < 0x80 then .one
      else if byte.toNat < 0xC2 then .invalid
      else if byte.toNat < 0xE0 then .two
      else if byte.toNat < 0xF0 then
        .three (if byte.toNat = 0xE0 then 0xA0 else 0x80) (if byte.toNat = 0xED then 0x9F else 0xBF)
      else if byte.toNat < 0xF5 then
        .four (if byte.toNat = 0xF0 then 0x90 else 0x80) (if byte.toNat = 0xF4 then 0x8F else 0xBF)
      else .invalid := by
  simp only [ofByte, UInt8.lt_iff_toNat_lt, ← UInt8.toNat_inj, UInt8.toNat_ofNat, Nat.reducePow,
    Nat.reduceMod]

section Sequences

variable {position : Nat} {a b c d low high : UInt8} {rest : List UInt8}

/-- A byte that stands alone is read. -/
theorem decodeFrom_one (lead : Lead.ofByte a = .one) :
    decodeFrom position (a :: rest) =
      (decodeFrom (position + 1) rest).map (.push (charOf a.toNat [])) := by
  rw [decodeFrom.eq_def]
  simp only [lead]

/-- A sequence of two bytes is read. -/
theorem decodeFrom_two (lead : Lead.ofByte a = .two) (second : isContinuation b = true) :
    decodeFrom position (a :: b :: rest) =
      (decodeFrom (position + 2) rest).map (.push (charOf (a.toNat % 32) [b])) := by
  rw [decodeFrom.eq_def]
  simp only [lead, second, if_true]

/-- A sequence of three bytes is read. -/
theorem decodeFrom_three (lead : Lead.ofByte a = .three low high)
    (second : within low high b = true) (third : isContinuation c = true) :
    decodeFrom position (a :: b :: c :: rest) =
      (decodeFrom (position + 3) rest).map (.push (charOf (a.toNat % 16) [b, c])) := by
  rw [decodeFrom.eq_def]
  simp only [lead, second, third, if_true]

/-- A sequence of four bytes is read. -/
theorem decodeFrom_four (lead : Lead.ofByte a = .four low high)
    (second : within low high b = true) (third : isContinuation c = true)
    (fourth : isContinuation d = true) :
    decodeFrom position (a :: b :: c :: d :: rest) =
      (decodeFrom (position + 4) rest).map (.push (charOf (a.toNat % 8) [b, c, d])) := by
  rw [decodeFrom.eq_def]
  simp only [lead, second, third, fourth, if_true]

end Sequences

/-- A character is read from its code point. -/
theorem charOf_eq {bits : Nat} {continuation : List UInt8} {character : Char}
    (code : continuation.foldl (fun code byte => code * 64 + byte.toNat % 64) bits =
      character.toNat) : charOf bits continuation = character := by
  rw [charOf, code, Char.ofNat_toNat]

/-- A number that fits into a byte is the number of this byte. -/
theorem toNat_byte {number : Nat} (small : number < 256) : (UInt8.ofNat number).toNat = number :=
  UInt8.toNat_ofNat_of_lt' small

/-- The second of three bytes is within the limits that the first one sets, unless the code point
is a surrogate. -/
theorem within_second_of_three {code : Nat} (large : 0x7FF < code) (small : code ≤ 0xFFFF)
    (proper : code < 0xD800 ∨ 0xDFFF < code) :
    within (if code / 4096 % 16 + 224 = 0xE0 then 0xA0 else 0x80)
      (if code / 4096 % 16 + 224 = 0xED then 0x9F else 0xBF)
      (UInt8.ofNat (code / 64 % 64 + 128)) = true := by
  rw [within_iff, toNat_byte (by omega)]
  constructor
  · split
    · exact show 0xA0 ≤ _ by omega
    · exact show 0x80 ≤ _ by omega
  · split
    · exact show _ ≤ 0x9F by omega
    · exact show _ ≤ 0xBF by omega

/-- The second of four bytes is within the limits that the first one sets, unless the code point is
too large. -/
theorem within_second_of_four {code : Nat} (large : 0xFFFF < code) (small : code < 0x110000) :
    within (if code / 262144 % 8 + 240 = 0xF0 then 0x90 else 0x80)
      (if code / 262144 % 8 + 240 = 0xF4 then 0x8F else 0xBF)
      (UInt8.ofNat (code / 4096 % 64 + 128)) = true := by
  rw [within_iff, toNat_byte (by omega)]
  constructor
  · split
    · exact show 0x90 ≤ _ by omega
    · exact show 0x80 ≤ _ by omega
  · split
    · exact show _ ≤ 0x8F by omega
    · exact show _ ≤ 0xBF by omega

/-- The bytes of a character are read as this character. The cases are the lengths of the sequence,
and a character is neither a surrogate nor beyond the last code point. -/
theorem decodeFrom_utf8EncodeChar (position : Nat) (character : Char) (rest : List UInt8) :
    decodeFrom position (String.utf8EncodeChar character ++ rest) =
      (decodeFrom (position + (String.utf8EncodeChar character).length) rest).map
        (.push character) := by
  have valid : character.toNat < 0xD800 ∨ 0xDFFF < character.toNat ∧ character.toNat < 0x110000 :=
    character.valid
  have value : character.val.toNat = character.toNat := rfl
  rw [String.utf8EncodeChar, value]
  by_cases one : character.toNat ≤ 0x7F
  · have lead := Lead.ofByte_eq (UInt8.ofNat character.toNat)
    rw [toNat_byte (by omega), if_pos (by omega)] at lead
    rw [if_pos one, List.singleton_append, decodeFrom_one lead, toNat_byte (by omega),
      charOf_eq rfl]
    rfl
  rw [if_neg one]
  by_cases two : character.toNat ≤ 0x7FF
  · have lead := Lead.ofByte_eq (UInt8.ofNat (character.toNat / 64 % 32 + 192))
    rw [toNat_byte (by omega), if_neg (by omega), if_neg (by omega), if_pos (by omega)] at lead
    rw [if_pos two, List.cons_append, List.singleton_append,
      decodeFrom_two lead (isContinuation_ofNat _), charOf_eq]
    · rfl
    · simp only [List.foldl_cons, List.foldl_nil]
      rw [toNat_byte (by omega), toNat_byte (by omega)]
      omega
  rw [if_neg two]
  by_cases three : character.toNat ≤ 0xFFFF
  · have lead := Lead.ofByte_eq (UInt8.ofNat (character.toNat / 4096 % 16 + 224))
    rw [toNat_byte (by omega), if_neg (by omega), if_neg (by omega), if_neg (by omega),
      if_pos (by omega)] at lead
    have second := within_second_of_three (Nat.lt_of_not_le two) three (by omega)
    rw [if_pos three, List.cons_append, List.cons_append, List.singleton_append,
      decodeFrom_three lead second (isContinuation_ofNat _), charOf_eq]
    · rfl
    · simp only [List.foldl_cons, List.foldl_nil]
      rw [toNat_byte (by omega), toNat_byte (by omega), toNat_byte (by omega)]
      omega
  · have lead := Lead.ofByte_eq (UInt8.ofNat (character.toNat / 262144 % 8 + 240))
    rw [toNat_byte (by omega), if_neg (by omega), if_neg (by omega), if_neg (by omega),
      if_neg (by omega), if_pos (by omega)] at lead
    have second := within_second_of_four (Nat.lt_of_not_le three) (by omega)
    rw [if_neg three, List.cons_append, List.cons_append, List.cons_append, List.singleton_append,
      decodeFrom_four lead second (isContinuation_ofNat _) (isContinuation_ofNat _), charOf_eq]
    · rfl
    · simp only [List.foldl_cons, List.foldl_nil]
      rw [toNat_byte (by omega), toNat_byte (by omega), toNat_byte (by omega),
        toNat_byte (by omega)]
      omega

/-- The UTF-8 form of a text is read as this text. -/
theorem decodeFrom_encode (position : Nat) (text : Text) :
    decodeFrom position (encode text) = .ok ⟨text, []⟩ := by
  induction text generalizing position with
  | nil => rfl
  | cons character rest ih =>
    have form : encode (character :: rest) = String.utf8EncodeChar character ++ encode rest :=
      List.flatMap_cons
    rw [form, decodeFrom_utf8EncodeChar, ih]
    rfl

end PhraseAudit.Utf8
