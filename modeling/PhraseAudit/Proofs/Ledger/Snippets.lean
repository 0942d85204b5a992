import PhraseAudit.Proofs.Ledger.Recording

/-!
# Ledgers without their snippets

A bare ledger has the phrases, the hits and the lines of a ledger, with an empty snippet for each
line. Recording never looks at a snippet: it accepts or refuses the same occurrences in a ledger and
in its bare form, and keeps the one the bare form of the other.
-/

namespace PhraseAudit

/-- The line of a sighting, with an empty snippet. -/
def Sighting.bare (sighting : Sighting) : Sighting :=
  ⟨sighting.line, []⟩

namespace LedgerRow

/-- The row with an empty snippet for each line. -/
def bare (row : LedgerRow) : LedgerRow :=
  ⟨row.phrase, row.hits, row.sightings.map Sighting.bare⟩

/-- Recording in a bare row gives the bare form of recording in the row. -/
theorem record_bare (row : LedgerRow) (sighting : Sighting) (hits : Int) :
    row.bare.record sighting.bare hits =
      ((row.record sighting hits).1, (row.record sighting hits).2.bare) := by
  cases last : row.sightings.getLast? with
  | none => simp [record, last, bare]
  | some other =>
    by_cases same : other.line = sighting.line
    · simp [record, last, bare, Sighting.bare, same]
    · by_cases below : sighting.line < other.line
      · simp [record, last, bare, Sighting.bare, same, below]
      · simp [record, last, bare, Sighting.bare, same, below]

end LedgerRow

namespace Ledger

/-- The ledger with an empty snippet for each line of each row. -/
def bare (ledger : Ledger) : Ledger where
  rows := ledger.rows.map LedgerRow.bare
  increasing := by
    rw [List.map_map]
    exact ledger.increasing

/-- The rows of a bare ledger are the bare rows. -/
theorem rows_bare (ledger : Ledger) : ledger.bare.rows = ledger.rows.map LedgerRow.bare :=
  rfl

/-- The row of a phrase in a bare ledger is its bare row. -/
theorem row?_bare (ledger : Ledger) (phrase : Text) :
    ledger.bare.row? phrase = (ledger.row? phrase).map LedgerRow.bare := by
  rw [row?, rows_bare, List.find?_map]
  rfl

/-- Recording in a bare ledger gives the bare form of recording in the ledger. -/
theorem record_bare (ledger : Ledger) (phrase : Text) (sighting : Sighting) (hits : Int) :
    ledger.bare.record phrase sighting.bare hits =
      ((ledger.record phrase sighting hits).1, (ledger.record phrase sighting hits).2.bare) := by
  refine Prod.ext ?_ (eq_of_rows_eq ?_)
  · cases found : ledger.row? phrase with
    | none => simp [record, row?_bare, found]
    | some row => simp [record, row?_bare, found, row.record_bare]
  · change _ = (ledger.record phrase sighting hits).2.bare.rows
    rw [rows_record, rows_bare, rows_bare, rows_record, List.map_map, List.map_map]
    apply List.map_congr_left
    intro row _
    rw [Function.comp_apply, Function.comp_apply]
    by_cases about : row.phrase = phrase
    · have aboutBare : row.bare.phrase = phrase := about
      rw [if_pos about, if_pos aboutBare, row.record_bare]
    · have aboutBare : ¬ row.bare.phrase = phrase := about
      rw [if_neg about, if_neg aboutBare]

/-- Two results that agree up to the snippets are both refused, for one reason, or are ledgers that
agree up to the snippets. -/
theorem map_bare_eq {ε : Type} {first second : Except ε Ledger}
    (agree : first.map bare = second.map bare) :
    (∃ error, first = .error error ∧ second = .error error) ∨
      ∃ one other, first = .ok one ∧ second = .ok other ∧ one.bare = other.bare := by
  cases first with
  | error error =>
    cases second with
    | error other => exact .inl ⟨error, rfl, (Except.error.inj agree) ▸ rfl⟩
    | ok ledger => cases agree
  | ok one =>
    cases second with
    | error error => cases agree
    | ok other => exact .inr ⟨one, other, rfl, rfl, Except.ok.inj agree⟩

end Ledger

end PhraseAudit
