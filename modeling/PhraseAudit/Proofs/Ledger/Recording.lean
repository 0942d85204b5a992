import Mathlib.Data.List.Nodup
import PhraseAudit.Ledger

/-!
# Recording in a ledger

Offering an occurrence changes the row of its phrase and no other row. What becomes of it is decided
by that row, and no line comes into a row but the one that is offered.
-/

namespace PhraseAudit

namespace LedgerRow

/-- Recording adds no line to a row but the one that is offered. -/
theorem mem_lines_record {row : LedgerRow} {sighting : Sighting} {hits : Int} {line : Int}
    (member : line ∈ (row.record sighting hits).2.lines) :
    line ∈ row.lines ∨ line = sighting.line := by
  have extended : line ∈ (row.sightings ++ [sighting]).map (·.line) →
      line ∈ row.lines ∨ line = sighting.line := by
    intro inside
    simpa [lines] using inside
  unfold record at member
  simp only at member
  split at member
  · exact extended member
  · split at member
    · exact .inl member
    · split at member
      · exact .inl member
      · exact extended member

end LedgerRow

namespace Ledger

/-- Ledgers with the same rows are the same. -/
theorem eq_of_rows_eq {first second : Ledger} (same : first.rows = second.rows) :
    first = second := by
  cases first
  cases second
  cases same
  rfl

/-- Two rows of a ledger about one phrase are one row. -/
theorem eq_of_phrase_eq {ledger : Ledger} {first second : LedgerRow} (one : first ∈ ledger.rows)
    (two : second ∈ ledger.rows) (same : first.phrase = second.phrase) : first = second := by
  have distinct : (ledger.rows.map (·.phrase)).Nodup := by
    apply ledger.increasing.imp
    intro text other below equal
    exact List.lt_irrefl other (equal ▸ below)
  exact List.inj_on_of_nodup_map distinct one two same

/-- The row of a phrase is the one row of the ledger that is about it. -/
theorem row?_eq_some_iff (ledger : Ledger) (phrase : Text) (row : LedgerRow) :
    ledger.row? phrase = some row ↔ row ∈ ledger.rows ∧ row.phrase = phrase := by
  constructor
  · intro found
    refine ⟨List.mem_of_find?_eq_some found, ?_⟩
    have holds := List.find?_some found
    simpa using holds
  · rintro ⟨member, about⟩
    cases found : ledger.row? phrase with
    | none =>
      have absent := List.find?_eq_none.1 found row member
      simp [about] at absent
    | some other =>
      have holds : other.phrase = phrase := by simpa using List.find?_some found
      have same := eq_of_phrase_eq (List.mem_of_find?_eq_some found) member (holds.trans about.symm)
      rw [same]

/-- Offering an occurrence changes the row of its phrase and no other. -/
theorem rows_record (ledger : Ledger) (phrase : Text) (sighting : Sighting) (hits : Int) :
    (ledger.record phrase sighting hits).2.rows =
      ledger.rows.map fun row =>
        if row.phrase = phrase then (row.record sighting hits).2 else row := by
  unfold record
  cases found : ledger.row? phrase with
  | none =>
    have absent : ∀ row ∈ ledger.rows, row.phrase ≠ phrase := by
      intro row member about
      have there := (ledger.row?_eq_some_iff phrase row).2 ⟨member, about⟩
      rw [found] at there
      cases there
    refine (List.map_id _).symm.trans (List.map_congr_left ?_)
    intro row member
    exact (if_neg (absent row member)).symm
  | some row => rfl

/-- What becomes of an occurrence is decided by the row of its phrase. -/
theorem record_result {ledger : Ledger} {row : LedgerRow} (member : row ∈ ledger.rows)
    (sighting : Sighting) (hits : Int) :
    (ledger.record row.phrase sighting hits).1 = (row.record sighting hits).1 := by
  have found := (ledger.row?_eq_some_iff row.phrase row).2 ⟨member, rfl⟩
  simp [record, found]

/-- Every line in the rows of a ledger is one that was told of the phrase of its row. -/
def Supported (told : Text → Int → Prop) (ledger : Ledger) : Prop :=
  ∀ row ∈ ledger.rows, ∀ line ∈ row.lines, told row.phrase line

/-- Nothing is recorded of the known phrases at first. -/
theorem supported_ofKnown (told : Text → Int → Prop) (known : PhraseSet) :
    (ofKnown known).Supported told := by
  intro row member line inside
  obtain ⟨text, _, rfl⟩ := List.mem_map.1 member
  cases inside

/-- Recording keeps a ledger supported when the line offered was told of the phrase. -/
theorem Supported.record {told : Text → Int → Prop} {ledger : Ledger}
    (supported : ledger.Supported told) {phrase : Text} {sighting : Sighting}
    (offered : told phrase sighting.line) (hits : Int) :
    (ledger.record phrase sighting hits).2.Supported told := by
  intro row member line inside
  rw [rows_record] at member
  obtain ⟨old, there, rfl⟩ := List.mem_map.1 member
  by_cases about : old.phrase = phrase
  · rw [if_pos about] at inside ⊢
    rw [LedgerRow.phrase_record]
    rcases LedgerRow.mem_lines_record inside with before | rfl
    · exact supported old there line before
    · exact about ▸ offered
  · rw [if_neg about] at inside ⊢
    exact supported old there line inside

/-- The rows that are used are those with some line. -/
theorem mem_used_iff (ledger : Ledger) (row : LedgerRow) :
    row ∈ ledger.used ↔ row ∈ ledger.rows ∧ row.sightings ≠ [] := by
  rw [used, List.mem_filter]
  simp [LedgerRow.isUsed]

end Ledger

end PhraseAudit
