import PhraseAudit.Marker.Kind
import PhraseAudit.Proofs.Unicode.Spelling
import PhraseAudit.Text.Folded

/-!
# Keywords that are found and name no kind

A keyword is found character by character up to case, and its kind is looked up by the small letters
of the whole keyword. The two agree except for three characters outside ASCII. Each is in the case
class of a letter of a keyword, and each leaves something else than that letter among the small
letters.
-/

namespace PhraseAudit

namespace Text

open Unicode

/-- Where no letter depends on its neighbours or becomes two, the small letters of a text are those
of its characters. -/
theorem lowercaseFrom_eq_map {text : Text} (simple : ∀ c ∈ text, c ≠ '\u0130' ∧ c ≠ '\u03a3')
    (front : Text) : lowercaseFrom front text = text.map lower := by
  induction text generalizing front with
  | nil => rfl
  | cons c following ih =>
    obtain ⟨notDotted, notSigma⟩ := simple c List.mem_cons_self
    have rest := ih (fun d inside => simple d (List.mem_cons_of_mem _ inside)) (c :: front)
    rw [lowercaseFrom, rest, lowerWithin, if_neg notDotted, if_neg notSigma]
    rfl

/-- The small letters of each character are among those of the text. -/
theorem lowerWithin_subset {text : Text} {c : Char} (member : c ∈ text) (front : Text) :
    ∃ before following, lowerWithin before c following ⊆ lowercaseFrom front text := by
  induction text generalizing front with
  | nil => cases member
  | cons d rest ih =>
    rcases List.mem_cons.1 member with rfl | later
    · exact ⟨front, rest, List.subset_append_left _ _⟩
    · obtain ⟨before, following, inside⟩ := ih later (d :: front)
      exact ⟨before, following, fun e there => List.mem_append_right _ (inside there)⟩

/-- Texts that are the same up to case are partners, character by character. -/
theorem map_lower_eq_of_sameUpToCase {word text : Text} (same : SameUpToCase word text)
    (partners : ∀ letter ∈ word, ∀ c ∈ text, fold letter = fold c → lower c = letter) :
    text.map lower = word := by
  induction word generalizing text with
  | nil => simpa [SameUpToCase] using same.symm
  | cons letter word ih =>
    cases text with
    | nil => cases same
    | cons c text =>
      obtain ⟨head, tail⟩ := List.cons.inj same
      have rest := ih tail fun other inside d there =>
        partners other (List.mem_cons_of_mem _ inside) d (List.mem_cons_of_mem _ there)
      rw [List.map_cons, rest, partners letter List.mem_cons_self c List.mem_cons_self head]

end Text

namespace MarkerKind

open Unicode Text

/-- The characters outside ASCII that are the same up to case as a letter of a keyword: the dotted
capital I, the dotless small i, and the long s. -/
def strays : List Char :=
  ['\u0130', '\u0131', '\u017f']

/-- What is the same up to case as a letter of a keyword is stray, or has this letter as its small
letter wherever it stands. -/
theorem stray_or_lower_eq {kind : MarkerKind} {letter c : Char} (member : letter ∈ kind.keyword)
    (same : fold letter = fold c) :
    c ∈ strays ∨ lower c = letter ∧ c ≠ '\u0130' ∧ c ≠ '\u03a3' := by
  have letters : ∀ kind : MarkerKind, kind.keyword.all (fun letter =>
      fold letter = letter ∧ letter ≠ '\x00' ∧ ∀ code ∈ spellings letter.toNat,
        Char.ofNat code ∈ strays ∨ lower (Char.ofNat code) = letter ∧
          Char.ofNat code ≠ '\u0130' ∧ Char.ofNat code ≠ '\u03a3') = true := by
    intro kind
    cases kind <;> decide
  obtain ⟨own, proper, table⟩ := of_decide_eq_true (List.all_eq_true.1 (letters kind) letter member)
  have spelled := mem_spellings_of_fold_eq proper (same.symm.trans own)
  simpa only [Char.ofNat_toNat] using table c.toNat spelled

/-- A keyword without a stray character names the kind it was found for. -/
theorem ofText_eq_ok {kind : MarkerKind} {written : Text}
    (same : SameUpToCase kind.keyword written) (pure : ∀ c ∈ written, c ∉ strays) :
    ofText written = .ok kind := by
  have partners : ∀ letter ∈ kind.keyword, ∀ c ∈ written, fold letter = fold c →
      lower c = letter ∧ c ≠ '\u0130' ∧ c ≠ '\u03a3' := by
    intro letter inside c there folded
    exact (stray_or_lower_eq inside folded).resolve_left (pure c there)
  have simple : ∀ c ∈ written, c ≠ '\u0130' ∧ c ≠ '\u03a3' := by
    intro c there
    have folded : fold c ∈ kind.keyword.map fold :=
      (show kind.keyword.map fold = written.map fold from same) ▸ List.mem_map.2 ⟨c, there, rfl⟩
    obtain ⟨letter, inside, equal⟩ := List.mem_map.1 folded
    exact (partners letter inside c there equal).2
  have small : written.lowercase = kind.keyword := by
    rw [lowercase, lowercaseFrom_eq_map simple]
    exact map_lower_eq_of_sameUpToCase same fun letter inside c there folded =>
      (partners letter inside c there folded).1
  unfold ofText
  rw [small]
  cases kind <;> rfl

/-- A stray character leaves a character outside ASCII among the small letters. -/
theorem not_ascii_of_stray {written : Text} {c : Char} (member : c ∈ written)
    (stray : c ∈ strays) : ∃ d ∈ written.lowercase, 127 < d.toNat := by
  obtain ⟨before, following, inside⟩ := lowerWithin_subset member []
  have remains : ∃ d ∈ lowerWithin before c following, 127 < d.toNat := by
    simp only [strays, List.mem_cons, List.not_mem_nil, or_false] at stray
    rcases stray with rfl | rfl | rfl
    · exact ⟨'\u0307', by simp [lowerWithin], by decide⟩
    · exact ⟨lower '\u0131', by simp [lowerWithin], by decide⟩
    · exact ⟨lower '\u017f', by simp [lowerWithin], by decide⟩
  obtain ⟨d, there, beyond⟩ := remains
  exact ⟨d, inside there, beyond⟩

/-- A keyword with a stray character names no kind. -/
theorem ofText_eq_error {written : Text} {c : Char} (member : c ∈ written)
    (stray : c ∈ strays) : ofText written = .error (.unknownKind written.lowercase) := by
  obtain ⟨d, inside, beyond⟩ := not_ascii_of_stray member stray
  have ascii : ∀ kind : MarkerKind, kind.keyword.all (fun letter => letter.toNat ≤ 127) = true := by
    intro kind
    cases kind <;> decide
  have different : ∀ kind : MarkerKind, written.lowercase ≠ kind.keyword := by
    intro kind equal
    have within := of_decide_eq_true (List.all_eq_true.1 (ascii kind) d (equal ▸ inside))
    omega
  simp only [ofText, different, if_false]

end MarkerKind

end PhraseAudit
