import PhraseAudit.Proofs.Encoding.Utf16
import PhraseAudit.Proofs.Encoding.WellFormed

/-!
# Going on behind the bytes that wait

A decoder can stop at any place and go on later. Of more bytes it reads what it read before, and goes
on with those that it left waiting. So what it reads of the first bytes stands in front of what it
reads of all of them.

What waits in UTF-8 is a part of a character, which some bytes complete, with one exception: the two
bytes that would begin a surrogate wait as well, although nothing completes them.
-/

namespace PhraseAudit

/-- More text in front of what was decoded behind it. -/
def Decoded.prepend (text : Text) (decoded : Decoded) : Decoded :=
  { decoded with text := text ++ decoded.text }

/-- A decoder goes on from what it made of some bytes: whatever stands behind them, it reads the same
text first, and then the bytes that it left waiting and those behind them. -/
def Resumes (decode : Nat → List UInt8 → Except DecodeFault Decoded) (position : Nat)
    (bytes : List UInt8) (decoded : Decoded) : Prop :=
  ∃ count, bytes.length = count + decoded.pending.length ∧
    ∀ more, decode position (bytes ++ more) =
      (decode (position + count) (decoded.pending ++ more)).map (.prepend decoded.text)

namespace Resumes

variable {decode : Nat → List UInt8 → Except DecodeFault Decoded} {position : Nat}

/-- Where all bytes wait, a decoder goes on from the beginning. -/
theorem waiting (bytes : List UInt8) : Resumes decode position bytes ⟨[], bytes⟩ := by
  refine ⟨0, (Nat.zero_add _).symm, fun more => ?_⟩
  change _ = (decode position (bytes ++ more)).map _
  cases decode position (bytes ++ more) <;> rfl

/-- Behind a character that is read first, a decoder goes on where it would without the character. -/
theorem push (form : List UInt8) {rest : List UInt8} {c : Char} {decoded : Decoded}
    (first : ∀ behind, decode position (form ++ behind) =
      (decode (position + form.length) behind).map (.push c))
    (read : (decode (position + form.length) rest).map (.push c) = .ok decoded)
    (others : ∀ {inner}, decode (position + form.length) rest = .ok inner →
      Resumes decode (position + form.length) rest inner) :
    Resumes decode position (form ++ rest) decoded := by
  obtain ⟨inner, behind, rfl⟩ := Decoded.exists_of_map_push read
  obtain ⟨count, length, goes⟩ := others behind
  refine ⟨form.length + count, ?_, fun more => ?_⟩
  · rw [List.length_append, length, Nat.add_assoc]
    rfl
  · rw [List.append_assoc, first, goes, ← Nat.add_assoc]
    change _ = (decode _ (inner.pending ++ more)).map _
    cases decode (position + form.length + count) (inner.pending ++ more) <;> rfl

/-- What is read of the first bytes stands in front of what is read of all bytes. -/
theorem text_begins {bytes more : List UInt8} {decoded whole : Decoded}
    (resumes : Resumes decode position bytes decoded)
    (read : decode position (bytes ++ more) = .ok whole) : decoded.text <+: whole.text := by
  obtain ⟨count, _, goes⟩ := resumes
  rw [goes] at read
  cases later : decode (position + count) (decoded.pending ++ more) with
  | error fault =>
    rw [later] at read
    cases read
  | ok behind =>
    rw [later] at read
    cases read
    exact List.prefix_append _ _

end Resumes

/-- UTF-16 is read on behind the bytes that wait. Each step reads one code unit or a pair of them, or
ends with all bytes waiting. -/
theorem Utf16.resumes {order : ByteOrder} {position : Nat} {bytes : List UInt8} {decoded : Decoded}
    (read : decodeFrom order position bytes = .ok decoded) :
    Resumes (decodeFrom order) position bytes decoded := by
  fun_induction decodeFrom order position bytes generalizing decoded with
  | case6 position a b unit notLow high c d rest second low =>
    rename_i ih
    exact .push [a, b, c, d] (fun _ => decodeFrom_double notLow high low) read ih
  | case8 position a b rest unit notLow notHigh =>
    rename_i ih
    exact .push [a, b] (fun _ => decodeFrom_single notLow notHigh) read ih
  | _ => cases read <;> exact .waiting _

namespace Utf8

/-- UTF-8 is read on behind the bytes that wait. Each step reads one character, or ends with all bytes
waiting. -/
theorem resumes {position : Nat} {bytes : List UInt8} {decoded : Decoded}
    (read : decodeFrom position bytes = .ok decoded) :
    Resumes decodeFrom position bytes decoded := by
  fun_induction decodeFrom position bytes generalizing decoded with
  | case2 position a rest lead ih => exact .push [a] (fun _ => decodeFrom_one lead) read ih
  | case5 position a lead b rest second ih =>
    exact .push [a, b] (fun _ => decodeFrom_two lead second) read ih
  | case9 position a low high lead b second c rest third ih =>
    exact .push [a, b, c] (fun _ => decodeFrom_three lead second third) read ih
  | case16 position a low high lead b second c third d rest fourth ih =>
    exact .push [a, b, c, d] (fun _ => decodeFrom_four lead second third fourth) read ih
  | case11 position a low high lead b rest outside hidden =>
    obtain rfl := List.isEmpty_iff.1 (Bool.and_eq_true_iff.1 hidden).1
    cases read
    exact .waiting _
  | _ => cases read <;> exact .waiting _

/-- Bytes that some more bytes complete to the form of a character. -/
def BeginsForm (bytes : List UInt8) : Prop :=
  ∃ behind c, bytes ++ behind = String.utf8EncodeChar c

/-- The two bytes that would begin a surrogate. -/
def BeginsSurrogate (bytes : List UInt8) : Prop :=
  ∃ second, within 0xA0 0xBF second = true ∧ bytes = [0xED, second]

/-- Where some bytes begin a form, so does the first part of them. -/
theorem BeginsForm.of_append {bytes more : List UInt8} (begins : BeginsForm (bytes ++ more)) :
    BeginsForm bytes := by
  obtain ⟨behind, c, form⟩ := begins
  exact ⟨more ++ behind, c, (List.append_assoc _ _ _).symm.trans form⟩

section Pending

variable {a b c low high : UInt8}

/-- The limits that a first byte of three sets let some byte pass. -/
theorem Lead.within_low_of_three (lead : ofByte a = .three low high) :
    within low high low = true := by
  obtain ⟨_, _, rfl, rfl⟩ := bounds_of_three lead
  rw [within_iff]
  simp only [apply_ite UInt8.toNat, UInt8.toNat_ofNat, Nat.reducePow, Nat.reduceMod]
  grind

/-- The limits that a first byte of four sets let some byte pass. -/
theorem Lead.within_low_of_four (lead : ofByte a = .four low high) :
    within low high low = true := by
  obtain ⟨_, _, rfl, rfl⟩ := bounds_of_four lead
  rw [within_iff]
  simp only [apply_ite UInt8.toNat, UInt8.toNat_ofNat, Nat.reducePow, Nat.reduceMod]
  grind

/-- A continuation completes the first of two bytes. -/
theorem beginsForm_of_two (lead : Lead.ofByte a = .two) : BeginsForm [a] :=
  ⟨[0x80], _, eq_form_of_two lead (by decide)⟩

/-- A continuation completes the first two of three bytes. -/
theorem beginsForm_of_three (lead : Lead.ofByte a = .three low high)
    (second : within low high b = true) : BeginsForm [a, b] :=
  ⟨[0x80], _, eq_form_of_three lead second (by decide)⟩

/-- A continuation completes the first three of four bytes. -/
theorem beginsForm_of_four (lead : Lead.ofByte a = .four low high)
    (second : within low high b = true) (third : isContinuation c = true) :
    BeginsForm [a, b, c] :=
  ⟨[0x80], _, eq_form_of_four lead second third (by decide)⟩

/-- Bytes that wait begin the form of a character, or a surrogate. -/
theorem beginsForm_or_beginsSurrogate {position : Nat} {bytes : List UInt8} {decoded : Decoded}
    (read : decodeFrom position bytes = .ok decoded) :
    BeginsForm decoded.pending ∨ BeginsSurrogate decoded.pending := by
  have nothing : BeginsForm [] := ⟨_, 'a', rfl⟩
  have continues : isContinuation 0x80 = true := by decide
  fun_induction decodeFrom position bytes generalizing decoded with
  | case1 position =>
    cases read
    exact .inl nothing
  | case2 position a rest lead ih | case5 position a lead b rest second ih
  | case9 position a low high lead b second c rest third ih
  | case16 position a low high lead b second c third d rest fourth ih =>
    obtain ⟨inner, behind, rfl⟩ := Decoded.exists_of_map_push read
    exact (ih behind :)
  | case4 position a lead =>
    cases read
    exact .inl (beginsForm_of_two lead)
  | case7 position a low high lead =>
    cases read
    exact .inl (beginsForm_of_three lead (Lead.within_low_of_three lead)).of_append
  | case8 position a low high lead b second =>
    cases read
    exact .inl (beginsForm_of_three lead second)
  | case11 position a low high lead b rest outside hidden =>
    cases read
    obtain ⟨first, second⟩ := Bool.and_eq_true_iff.1 (Bool.and_eq_true_iff.1 hidden).2
    obtain rfl := eq_of_beq first
    exact .inr ⟨b, second, rfl⟩
  | case13 position a low high lead =>
    cases read
    exact .inl (beginsForm_of_four lead (Lead.within_low_of_four lead) continues).of_append
  | case14 position a low high lead b second =>
    cases read
    exact .inl (beginsForm_of_four lead second continues).of_append
  | case15 position a low high lead b second c third =>
    cases read
    exact .inl (beginsForm_of_four lead second third)
  | _ => cases read

end Pending

/-- The two bytes that would begin a surrogate wait behind a text when nothing follows. -/
theorem decodeFrom_of_beginsSurrogate {broken : List UInt8} (begins : BeginsSurrogate broken)
    (position : Nat) (text : Text) :
    decodeFrom position (encode text ++ broken) = .ok ⟨text, broken⟩ := by
  obtain ⟨second, hidden, rfl⟩ := begins
  have lead : Lead.ofByte 0xED = .three 0x80 0x9F := by decide
  have outside : ¬ within 0x80 0x9F second = true := by
    have least := ((within_iff 0xA0 0xBF second).1 hidden).1
    rw [within_iff]
    simp only [UInt8.toNat_ofNat, Nat.reducePow, Nat.reduceMod] at least ⊢
    omega
  have waits : ∀ position, decodeFrom position [0xED, second] = .ok ⟨[], [0xED, second]⟩ := by
    intro position
    rw [decodeFrom.eq_def]
    simp only [lead, if_neg outside, hidesSurrogate, hidden]
    rfl
  obtain ⟨count, _, goes⟩ := resumes (decodeFrom_encode position text)
  rw [goes, List.nil_append, waits]
  simp only [Except.map, Decoded.prepend, List.append_nil]

/-- Such bytes are a fault when nothing follows. -/
theorem finish_of_beginsSurrogate {broken : List UInt8} (begins : BeginsSurrogate broken) :
    finish broken = some (fault 0 [0xED] .invalidContinuation) := by
  obtain ⟨second, hidden, rfl⟩ := begins
  have hides : hidesSurrogate 0xED second = true := Bool.and_eq_true_iff.2 ⟨rfl, hidden⟩
  rw [finish, if_pos hides]

end Utf8

end PhraseAudit
