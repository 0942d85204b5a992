import PhraseAudit.Encoding.Utf16

/-!
# Reading back UTF-16

The UTF-16 form of a text is read as this text in the same byte order, with nothing left over. The
two bytes of a code unit give the unit back; a character that is a unit of its own is no surrogate,
and the two surrogates of any other character give its code point back.
-/

namespace PhraseAudit.Utf16

/-- Two bytes whose unit is no surrogate are read. -/
theorem decodeFrom_single {order : ByteOrder} {position : Nat} {a b : UInt8} {rest : List UInt8}
    (notLow : ¬ isLow (unitOf order a b) = true) (notHigh : ¬ isHigh (unitOf order a b) = true) :
    decodeFrom order position (a :: b :: rest) =
      (decodeFrom order (position + 2) rest).map (.push (Char.ofNat (unitOf order a b))) := by
  rw [decodeFrom.eq_def]
  simp only [if_neg notLow, if_neg notHigh]

/-- Four bytes whose units are a pair of surrogates are read. -/
theorem decodeFrom_double {order : ByteOrder} {position : Nat} {a b c d : UInt8} {rest : List UInt8}
    (notLow : ¬ isLow (unitOf order a b) = true) (high : isHigh (unitOf order a b) = true)
    (low : isLow (unitOf order c d) = true) :
    decodeFrom order position (a :: b :: c :: d :: rest) =
      (decodeFrom order (position + 4) rest).map
        (.push (pairOf (unitOf order a b) (unitOf order c d))) := by
  rw [decodeFrom.eq_def]
  simp only [if_neg notLow, if_pos high, if_pos low]

/-- A code unit is stored in two bytes that stand for it. -/
theorem exists_unitBytes (order : ByteOrder) {unit : Nat} (small : unit < 0x10000) :
    ∃ first second, unitBytes order unit = [first, second] ∧ unitOf order first second = unit := by
  have low : (unit % 256).toUInt8.toNat = unit % 256 :=
    UInt8.toNat_ofNat_of_lt' (show _ < 256 by omega)
  have high : (unit / 256).toUInt8.toNat = unit / 256 :=
    UInt8.toNat_ofNat_of_lt' (show _ < 256 by omega)
  cases order with
  | little => exact ⟨_, _, rfl, by rw [unitOf, low, high]; omega⟩
  | big => exact ⟨_, _, rfl, by rw [unitOf, low, high]; omega⟩

/-- The units that begin a pair. -/
theorem isHigh_iff {unit : Nat} : isHigh unit = true ↔ 0xD800 ≤ unit ∧ unit < 0xDC00 := by
  simp only [isHigh, Bool.and_eq_true, decide_eq_true_eq]

/-- The units that end a pair. -/
theorem isLow_iff {unit : Nat} : isLow unit = true ↔ 0xDC00 ≤ unit ∧ unit < 0xE000 := by
  simp only [isLow, Bool.and_eq_true, decide_eq_true_eq]

/-- A unit outside the surrogates belongs to no pair. -/
theorem proper_of_outside {unit : Nat} (outside : unit < 0xD800 ∨ 0xDFFF < unit) :
    isLow unit = false ∧ isHigh unit = false := by
  rw [← Bool.not_eq_true, ← Bool.not_eq_true, isLow_iff, isHigh_iff]
  omega

/-- A unit that begins a pair does not end one. -/
theorem isLow_eq_false_of_isHigh {unit : Nat} (begins : isHigh unit = true) :
    isLow unit = false := by
  rw [isHigh_iff] at begins
  rw [← Bool.not_eq_true, isLow_iff]
  omega

/-- A unit that is no surrogate is read as a character. -/
theorem decodeFrom_unitBytes (order : ByteOrder) (position : Nat) {unit : Nat}
    (proper : unit < 0xD800 ∨ 0xDFFF < unit) (small : unit < 0x10000) (rest : List UInt8) :
    decodeFrom order position (unitBytes order unit ++ rest) =
      (decodeFrom order (position + 2) rest).map (.push (Char.ofNat unit)) := by
  obtain ⟨first, second, bytes, same⟩ := exists_unitBytes order small
  obtain ⟨notLow, notHigh⟩ := proper_of_outside proper
  rw [bytes, List.cons_append, List.singleton_append,
    decodeFrom_single (by simp [same, notLow]) (by simp [same, notHigh]), same]

/-- Two surrogates, the high one first, are read as one character. -/
theorem decodeFrom_pair (order : ByteOrder) (position : Nat) {high low : Nat}
    (begins : isHigh high = true) (ends : isLow low = true) (rest : List UInt8) :
    decodeFrom order position (unitBytes order high ++ (unitBytes order low ++ rest)) =
      (decodeFrom order (position + 4) rest).map (.push (pairOf high low)) := by
  have smallHigh : high < 0x10000 := Nat.lt_trans (isHigh_iff.1 begins).2 (by decide)
  have smallLow : low < 0x10000 := Nat.lt_trans (isLow_iff.1 ends).2 (by decide)
  obtain ⟨first, second, highBytes, sameHigh⟩ := exists_unitBytes order smallHigh
  obtain ⟨third, fourth, lowBytes, sameLow⟩ := exists_unitBytes order smallLow
  have notLow : isLow high = false := isLow_eq_false_of_isHigh begins
  rw [highBytes, lowBytes]
  simp only [List.cons_append, List.nil_append]
  rw [decodeFrom_double (by simp [sameHigh, notLow]) (by rw [sameHigh, begins])
    (by rw [sameLow, ends]), sameHigh, sameLow]

/-- The surrogates of a character beyond the first 65536 stand for this character. -/
theorem pairOf_units {code : Nat} (large : 0x10000 ≤ code) (small : code < 0x110000) :
    isHigh (0xD800 + (code - 0x10000) / 0x400) = true ∧
      isLow (0xDC00 + (code - 0x10000) % 0x400) = true ∧
      pairOf (0xD800 + (code - 0x10000) / 0x400) (0xDC00 + (code - 0x10000) % 0x400) =
        Char.ofNat code := by
  rw [isHigh_iff, isLow_iff, pairOf]
  refine ⟨by omega, by omega, congrArg Char.ofNat ?_⟩
  omega

/-- The bytes of a character are read as this character. -/
theorem decodeFrom_units (order : ByteOrder) (position : Nat) (character : Char)
    (rest : List UInt8) :
    decodeFrom order position ((units character).flatMap (unitBytes order) ++ rest) =
      (decodeFrom order (position + 2 * (units character).length) rest).map (.push character) := by
  have valid : character.toNat < 0xD800 ∨ 0xDFFF < character.toNat ∧ character.toNat < 0x110000 :=
    character.valid
  by_cases single : character.toNat < 0x10000
  · have read := decodeFrom_unitBytes order position (by omega) single rest
    rw [Char.ofNat_toNat] at read
    have form : units character = [character.toNat] := if_pos single
    rw [form, List.flatMap_singleton, List.length_singleton, Nat.mul_one]
    exact read
  · have large : 0x10000 ≤ character.toNat := Nat.le_of_not_lt single
    obtain ⟨begins, ends, whole⟩ := pairOf_units large (by omega)
    have read := decodeFrom_pair order position begins ends rest
    rw [whole, Char.ofNat_toNat] at read
    have form : units character = [0xD800 + (character.toNat - 0x10000) / 0x400,
        0xDC00 + (character.toNat - 0x10000) % 0x400] := if_neg single
    rw [form, List.flatMap_cons, List.flatMap_singleton, List.append_assoc]
    exact read

/-- The UTF-16 form of a text is read as this text. -/
theorem decodeFrom_encode (order : ByteOrder) (position : Nat) (text : Text) :
    decodeFrom order position (encode order text) = .ok ⟨text, []⟩ := by
  induction text generalizing position with
  | nil => rfl
  | cons character rest ih =>
    have form : encode order (character :: rest) =
        (units character).flatMap (unitBytes order) ++ encode order rest := List.flatMap_cons
    rw [form, decodeFrom_units, ih]
    rfl

end PhraseAudit.Utf16
