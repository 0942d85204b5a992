import PhraseAudit.Proofs.Encoding.Utf8

/-!
# Well-formed UTF-8

The bits of a number can be spread over one to four bytes, of which the first says how many there are.
A sequence that does so is in order when no shorter one spells the same number, and when the number
is the code point of a character, so that it is neither a surrogate nor too large. Well-formed bytes
are sequences that are in order, one behind the other, and nothing else.

They are the UTF-8 forms of texts. The decoder reads just these to their end: whatever it reads of
some bytes, the form of the text it made of them and the bytes that it left waiting are these bytes.
-/

namespace PhraseAudit.Utf8

/-- Some bytes spell a number: the bits in front of the first byte count the bytes, every other byte
has the mark of a continuation in front, and the remaining bits are those of the number. -/
inductive Spells : Nat → List UInt8 → Prop where
  | one {a : UInt8} (lead : a.toNat / 128 = 0b0) : Spells (a.toNat % 128) [a]
  | two {a b : UInt8} (lead : a.toNat / 32 = 0b110) (second : b.toNat / 64 = 0b10) :
      Spells (a.toNat % 32 * 64 + b.toNat % 64) [a, b]
  | three {a b c : UInt8} (lead : a.toNat / 16 = 0b1110) (second : b.toNat / 64 = 0b10)
      (third : c.toNat / 64 = 0b10) :
      Spells ((a.toNat % 16 * 64 + b.toNat % 64) * 64 + c.toNat % 64) [a, b, c]
  | four {a b c d : UInt8} (lead : a.toNat / 8 = 0b11110) (second : b.toNat / 64 = 0b10)
      (third : c.toNat / 64 = 0b10) (fourth : d.toNat / 64 = 0b10) :
      Spells (((a.toNat % 8 * 64 + b.toNat % 64) * 64 + c.toNat % 64) * 64 + d.toNat % 64)
        [a, b, c, d]

/-- A sequence is in order when it is the shortest for its number, and the number is the code point
of a character. -/
structure IsSequence (code : Nat) (bytes : List UInt8) : Prop where
  spelled : Spells code bytes
  shortest : ∀ other, Spells code other → bytes.length ≤ other.length
  scalar : code.isValidChar

/-- Bytes are well-formed when they are sequences in order, none of them cut off. -/
inductive WellFormed : List UInt8 → Prop where
  | nil : WellFormed []
  | cons {code : Nat} {bytes rest : List UInt8} (first : IsSequence code bytes)
      (others : WellFormed rest) : WellFormed (bytes ++ rest)

/-- How many bytes a number takes at least. -/
def leastLength (code : Nat) : Nat :=
  if code ≤ 0x7F then 1 else if code ≤ 0x7FF then 2 else if code ≤ 0xFFFF then 3 else 4

/-- No sequence is shorter than its number allows. -/
theorem Spells.leastLength_le {code : Nat} {bytes : List UInt8} (spelled : Spells code bytes) :
    leastLength code ≤ bytes.length := by
  unfold leastLength
  cases spelled <;> simp only [List.length_cons, List.length_nil] <;> grind

/-- The form of a character has the least length. -/
theorem length_utf8EncodeChar (c : Char) :
    (String.utf8EncodeChar c).length = leastLength c.toNat := by
  have value : c.val.toNat = c.toNat := rfl
  rw [String.utf8EncodeChar, value, leastLength]
  split
  · rfl
  · split
    · rfl
    · split
      · rfl
      · rfl

/-- A number takes so many bytes at least exactly when it is so large. -/
theorem le_leastLength_iff (code : Nat) :
    (2 ≤ leastLength code ↔ 0x7F < code) ∧ (3 ≤ leastLength code ↔ 0x7FF < code) ∧
      (4 ≤ leastLength code ↔ 0xFFFF < code) := by
  unfold leastLength
  grind

/-- The form of a character spells its code point. -/
theorem spells_utf8EncodeChar (c : Char) : Spells c.toNat (String.utf8EncodeChar c) := by
  have value : c.val.toNat = c.toNat := rfl
  have valid : c.toNat < 0xD800 ∨ 0xDFFF < c.toNat ∧ c.toNat < 0x110000 := c.valid
  have of_eq : ∀ {code : Nat} {bytes : List UInt8}, Spells code bytes → code = c.toNat →
      Spells c.toNat bytes := fun spelled same => same ▸ spelled
  have bits : ∀ number, (UInt8.ofNat (number % 64 + 128)).toNat = number % 64 + 128 :=
    fun number => toNat_byte (by omega)
  have mark : ∀ number, (UInt8.ofNat (number % 64 + 128)).toNat / 64 = 0b10 := by
    intro number
    rw [bits]
    omega
  rw [String.utf8EncodeChar, value]
  split
  · apply of_eq (.one ?_)
    · rw [toNat_byte (by omega)]
      omega
    · rw [toNat_byte (by omega)]
      omega
  · split
    · apply of_eq (.two ?_ (mark _))
      · rw [toNat_byte (by omega), bits]
        omega
      · rw [toNat_byte (by omega)]
        omega
    · split
      · apply of_eq (.three ?_ (mark _) (mark _))
        · rw [toNat_byte (by omega), bits, bits]
          omega
        · rw [toNat_byte (by omega)]
          omega
      · apply of_eq (.four ?_ (mark _) (mark _) (mark _))
        · rw [toNat_byte (by omega), bits, bits, bits]
          omega
        · rw [toNat_byte (by omega)]
          omega

/-- A sequence of the least length is the form of the character that it spells. -/
theorem Spells.eq_utf8EncodeChar {c : Char} {code : Nat} {bytes : List UInt8}
    (spelled : Spells code bytes) (same : code = c.toNat)
    (short : bytes.length ≤ leastLength code) : bytes = String.utf8EncodeChar c := by
  have value : c.val.toNat = c.toNat := rfl
  have byte_eq : ∀ {byte : UInt8} {number : Nat}, byte.toNat = number →
      byte = UInt8.ofNat number := by
    rintro byte number rfl
    exact UInt8.ofNat_toNat.symm
  obtain ⟨two, three, four⟩ := le_leastLength_iff code
  rw [String.utf8EncodeChar, value, ← same]
  cases spelled with
  | one lead =>
    rw [if_pos (by omega)]
    congr
    exact byte_eq (by omega)
  | two lead second =>
    have large := two.1 short
    rw [if_neg (by omega), if_pos (by omega)]
    congr
    · exact byte_eq (by omega)
    · exact byte_eq (by omega)
  | three lead second third =>
    have large := three.1 short
    rw [if_neg (by omega), if_neg (by omega), if_pos (by omega)]
    congr
    · exact byte_eq (by omega)
    · exact byte_eq (by omega)
    · exact byte_eq (by omega)
  | four lead second third fourth =>
    have large := four.1 short
    rw [if_neg (by omega), if_neg (by omega), if_neg (by omega)]
    congr
    · exact byte_eq (by omega)
    · exact byte_eq (by omega)
    · exact byte_eq (by omega)
    · exact byte_eq (by omega)

/-- The code point of a character is that of the character it is made into. -/
theorem toNat_ofNat_of_scalar {code : Nat} (scalar : code.isValidChar) :
    (Char.ofNat code).toNat = code := by
  rw [Char.ofNat, dif_pos scalar]
  rfl

/-- A sequence of the least length is the form of the character with the code point that it
spells. -/
theorem Spells.eq_form {code : Nat} {bytes : List UInt8} (spelled : Spells code bytes)
    (scalar : code.isValidChar) (short : bytes.length ≤ leastLength code) :
    bytes = String.utf8EncodeChar (Char.ofNat code) :=
  spelled.eq_utf8EncodeChar (toNat_ofNat_of_scalar scalar).symm short

/-- The sequences in order are the forms of the characters. -/
theorem isSequence_iff (code : Nat) (bytes : List UInt8) :
    IsSequence code bytes ↔ ∃ c : Char, c.toNat = code ∧ bytes = String.utf8EncodeChar c := by
  constructor
  · rintro ⟨spelled, shortest, scalar⟩
    have same := toNat_ofNat_of_scalar scalar
    refine ⟨Char.ofNat code, same, spelled.eq_form scalar ?_⟩
    have form := spells_utf8EncodeChar (Char.ofNat code)
    have shorter := shortest _ (same ▸ form)
    rwa [length_utf8EncodeChar, same] at shorter
  · rintro ⟨c, rfl, rfl⟩
    refine ⟨spells_utf8EncodeChar c, ?_, c.valid⟩
    intro other spelled
    rw [length_utf8EncodeChar]
    exact spelled.leastLength_le

/-- The well-formed bytes are the forms of the texts. -/
theorem wellFormed_iff (bytes : List UInt8) : WellFormed bytes ↔ ∃ text, bytes = encode text := by
  constructor
  · intro formed
    induction formed with
    | nil => exact ⟨[], rfl⟩
    | cons first _ ih =>
      obtain ⟨text, rfl⟩ := ih
      obtain ⟨c, _, rfl⟩ := (isSequence_iff _ _).1 first
      exact ⟨c :: text, List.flatMap_cons.symm⟩
  · rintro ⟨text, rfl⟩
    induction text with
    | nil => exact .nil
    | cons c text ih =>
      have form : encode (c :: text) = String.utf8EncodeChar c ++ encode text := List.flatMap_cons
      rw [form]
      exact .cons ((isSequence_iff c.toNat _).2 ⟨c, rfl, rfl⟩) ih

/-- The first of two bytes is within these limits. -/
theorem Lead.bounds_of_two {a : UInt8} (lead : ofByte a = .two) :
    0xC2 ≤ a.toNat ∧ a.toNat < 0xE0 := by
  rw [ofByte_eq] at lead
  grind

/-- The first of three bytes is within these limits, and sets those of the second. -/
theorem Lead.bounds_of_three {a low high : UInt8} (lead : ofByte a = .three low high) :
    0xE0 ≤ a.toNat ∧ a.toNat < 0xF0 ∧ low = (if a.toNat = 0xE0 then 0xA0 else 0x80) ∧
      high = if a.toNat = 0xED then 0x9F else 0xBF := by
  rw [ofByte_eq] at lead
  split at lead
  · cases lead
  split at lead
  · cases lead
  split at lead
  · cases lead
  split at lead
  · cases lead
    exact ⟨by omega, by omega, rfl, rfl⟩
  split at lead
  · cases lead
  · cases lead

/-- The first of four bytes is within these limits, and sets those of the second. -/
theorem Lead.bounds_of_four {a low high : UInt8} (lead : ofByte a = .four low high) :
    0xF0 ≤ a.toNat ∧ a.toNat < 0xF5 ∧ low = (if a.toNat = 0xF0 then 0x90 else 0x80) ∧
      high = if a.toNat = 0xF4 then 0x8F else 0xBF := by
  rw [ofByte_eq] at lead
  split at lead
  · cases lead
  split at lead
  · cases lead
  split at lead
  · cases lead
  split at lead
  · cases lead
  split at lead
  · cases lead
    exact ⟨by omega, by omega, rfl, rfl⟩
  · cases lead

/-- A continuation carries the mark of one. -/
theorem mark_of_isContinuation {byte : UInt8} (continues : isContinuation byte = true) :
    byte.toNat / 64 = 0b10 := by
  have bounds : 0x80 ≤ byte.toNat ∧ byte.toNat ≤ 0xBF := (within_iff 0x80 0xBF byte).1 continues
  omega

section Sequences

variable {a b c d low high : UInt8}

/-- A byte that stands alone is the form of the character that is read. -/
theorem eq_form_of_one (lead : Lead.ofByte a = .one) :
    [a] = String.utf8EncodeChar (charOf a.toNat []) := by
  have small : a.toNat < 0x80 := by
    rw [Lead.ofByte_eq] at lead
    grind
  have spelled := Spells.one (show a.toNat / 128 = 0b0 by omega)
  rw [Nat.mod_eq_of_lt small] at spelled
  exact spelled.eq_form (.inl (by omega)) (Nat.one_le_iff_ne_zero.2 (by unfold leastLength; grind))

/-- Two bytes that are read together are the form of the character that is read. -/
theorem eq_form_of_two (lead : Lead.ofByte a = .two) (second : isContinuation b = true) :
    [a, b] = String.utf8EncodeChar (charOf (a.toNat % 32) [b]) := by
  have bounds := Lead.bounds_of_two lead
  have mark := mark_of_isContinuation second
  have spelled := Spells.two (show a.toNat / 32 = 0b110 by omega) mark
  exact spelled.eq_form (.inl (by omega)) ((le_leastLength_iff _).1.2 (by omega))

/-- Three bytes that are read together are the form of the character that is read. The limits on the
second byte keep out overlong forms and surrogates. -/
theorem eq_form_of_three (lead : Lead.ofByte a = .three low high)
    (second : within low high b = true) (third : isContinuation c = true) :
    [a, b, c] = String.utf8EncodeChar (charOf (a.toNat % 16) [b, c]) := by
  obtain ⟨least, greatest, rfl, rfl⟩ := Lead.bounds_of_three lead
  have limits := (within_iff _ _ b).1 second
  simp only [apply_ite UInt8.toNat, UInt8.toNat_ofNat, Nat.reducePow, Nat.reduceMod] at limits
  have bounds : 0x80 ≤ b.toNat ∧ b.toNat ≤ 0xBF ∧ (a.toNat = 0xE0 → 0xA0 ≤ b.toNat) ∧
      (a.toNat = 0xED → b.toNat ≤ 0x9F) := by grind
  have mark := mark_of_isContinuation third
  have spelled := Spells.three (show a.toNat / 16 = 0b1110 by omega)
    (show b.toNat / 64 = 0b10 by omega) mark
  refine spelled.eq_form ?_ ((le_leastLength_iff _).2.1.2 (by omega))
  by_cases before : a.toNat ≤ 0xED
  · exact .inl (by omega)
  · exact .inr (by omega)

/-- Four bytes that are read together are the form of the character that is read. The limits on the
second byte keep out overlong forms and what is no code point. -/
theorem eq_form_of_four (lead : Lead.ofByte a = .four low high)
    (second : within low high b = true) (third : isContinuation c = true)
    (fourth : isContinuation d = true) :
    [a, b, c, d] = String.utf8EncodeChar (charOf (a.toNat % 8) [b, c, d]) := by
  obtain ⟨least, greatest, rfl, rfl⟩ := Lead.bounds_of_four lead
  have limits := (within_iff _ _ b).1 second
  simp only [apply_ite UInt8.toNat, UInt8.toNat_ofNat, Nat.reducePow, Nat.reduceMod] at limits
  have bounds : 0x80 ≤ b.toNat ∧ b.toNat ≤ 0xBF ∧ (a.toNat = 0xF0 → 0x90 ≤ b.toNat) ∧
      (a.toNat = 0xF4 → b.toNat ≤ 0x8F) := by grind
  have mark := mark_of_isContinuation third
  have last := mark_of_isContinuation fourth
  have spelled := Spells.four (show a.toNat / 8 = 0b11110 by omega)
    (show b.toNat / 64 = 0b10 by omega) mark last
  exact spelled.eq_form (.inr (by omega)) ((le_leastLength_iff _).2.2.2 (by omega))

end Sequences

/-- Reading the form of a character first, and then some more bytes, takes the form in front of what
is read of them. -/
theorem eq_encode_append_push {form rest : List UInt8} {c : Char} {position : Nat}
    {decoded : Decoded} (first : form = String.utf8EncodeChar c)
    (read : (decodeFrom position rest).map (.push c) = .ok decoded)
    (others : ∀ {behind}, decodeFrom position rest = .ok behind →
      rest = encode behind.text ++ behind.pending) :
    form ++ rest = encode decoded.text ++ decoded.pending := by
  obtain ⟨inner, behind, rfl⟩ := Decoded.exists_of_map_push read
  have forms : encode (c :: inner.text) = form ++ encode inner.text := first ▸ List.flatMap_cons
  change form ++ rest = encode (c :: inner.text) ++ inner.pending
  rw [forms, List.append_assoc, ← others behind]

/-- Whatever is read of some bytes, they are the form of the text that was made of them, and the bytes
left waiting behind it. Each step reads the form of a character, or ends with all bytes waiting. -/
theorem eq_encode_append_of_decodeFrom {position : Nat} {bytes : List UInt8} {decoded : Decoded}
    (read : decodeFrom position bytes = .ok decoded) :
    bytes = encode decoded.text ++ decoded.pending := by
  fun_induction decodeFrom position bytes generalizing decoded with
  | case2 position a rest lead ih => exact eq_encode_append_push (eq_form_of_one lead) read ih
  | case5 position a lead b rest second ih =>
    exact eq_encode_append_push (eq_form_of_two lead second) read ih
  | case9 position a low high lead b second c rest third ih =>
    exact eq_encode_append_push (eq_form_of_three lead second third) read ih
  | case16 position a low high lead b second c third d rest fourth ih =>
    exact eq_encode_append_push (eq_form_of_four lead second third fourth) read ih
  | case11 position a low high lead b rest outside hidden =>
    -- Two bytes of a surrogate are left waiting only when nothing stands behind them.
    obtain rfl := List.isEmpty_iff.1 (Bool.and_eq_true_iff.1 hidden).1
    cases read
    rfl
  | _ => cases read <;> rfl

/-- Bytes left waiting at the end are a fault. -/
theorem finish_eq_none_iff (pending : List UInt8) : finish pending = none ↔ pending = [] := by
  unfold finish
  split
  · simp
  · split
    · simp
    · simp
  · rename_i nonempty _
    simpa using nonempty

end PhraseAudit.Utf8
