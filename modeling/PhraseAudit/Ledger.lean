import PhraseAudit.Phrase.Set
import PhraseAudit.Text.Numeral
import PhraseAudit.Text.Quoted

/-!
# The ledger of unwrapped occurrences

A ledger has one row for each known phrase: how often the phrase was hit, and the lines on which it
was seen, with a snippet of each. The lines of a row increase strictly. Lines have to be offered in
order: a line that was offered before only adds its hits, and a line before the last one is refused.

This is the plain form of what is recorded. A `Store` keeps the same in three dictionaries that are
changed one after the other, and mirrors a ledger through every history of offers.
-/

namespace PhraseAudit

/-- A line on which a phrase was seen, and the snippet taken when it was seen first. -/
structure Sighting where
  line : Int
  snippet : Text
deriving Repr, DecidableEq

/-- What is recorded about one phrase. -/
structure LedgerRow where
  phrase : Text
  hits : Int
  sightings : List Sighting
deriving Repr, DecidableEq

/-- Why an occurrence was not recorded. -/
inductive LedgerError where
  | unknownPhrase (phrase : Text)
  | outOfOrder (line : Int) (phrase : Text)
deriving Repr, DecidableEq

/-- The wording of a ledger error, on a host with a limit of digits. A line that was out of order is
named in it, and a number of too many digits takes the place of the whole wording. -/
def LedgerError.message (limit : DigitLimit) : LedgerError → String
  | .unknownPhrase phrase => s!"Unknown phrase: {phrase.quotedString}"
  | .outOfOrder line phrase =>
    match limit.check [line] with
    | .ok () =>
      s!"Line {String.ofList (Text.ofInt line)} recorded out of order for {phrase.quotedString}"
    | .error error => error.message

/-- Whether an occurrence was on a line that is new for its phrase. -/
inductive Novelty where
  | newLine
  | sameLine
deriving Repr, DecidableEq

namespace LedgerRow

/-- The row of a phrase that was never offered an occurrence. -/
def blank (phrase : Text) : LedgerRow :=
  ⟨phrase, 0, []⟩

/-- The numbers of the lines in a row. -/
def lines (row : LedgerRow) : List Int :=
  row.sightings.map (·.line)

/-- A row is used when it holds some line. -/
def isUsed (row : LedgerRow) : Bool :=
  !row.sightings.isEmpty

/-- Offers an occurrence to a row. The hits count in every case, also when the line is refused. -/
def record (row : LedgerRow) (sighting : Sighting) (hits : Int) :
    Except LedgerError Novelty × LedgerRow :=
  let counted := { row with hits := row.hits + hits }
  let extended := { counted with sightings := row.sightings ++ [sighting] }
  match row.sightings.getLast? with
  | none => (.ok .newLine, extended)
  | some last =>
    if last.line = sighting.line then (.ok .sameLine, counted)
    else if sighting.line < last.line then
      (.error (.outOfOrder sighting.line row.phrase), counted)
    else (.ok .newLine, extended)

/-- Recording never changes which phrase a row is about. -/
theorem phrase_record (row : LedgerRow) (sighting : Sighting) (hits : Int) :
    (row.record sighting hits).2.phrase = row.phrase := by
  unfold record
  simp only
  split
  · rfl
  · split
    · rfl
    · split <;> rfl

end LedgerRow

/-- The rows of all known phrases, in strictly increasing order of the phrases. -/
structure Ledger where
  rows : List LedgerRow
  increasing : (rows.map (·.phrase)).Pairwise (· < ·)

namespace Ledger

/-- The ledger for a set of known phrases, before anything is recorded. -/
def ofKnown (known : PhraseSet) : Ledger where
  rows := known.toList.map LedgerRow.blank
  increasing := by
    have phrases : (known.toList.map LedgerRow.blank).map (·.phrase) = known.toList := by
      rw [List.map_map]
      exact List.map_id _
    rw [phrases]
    exact known.increasing

/-- The known phrases. -/
def known (ledger : Ledger) : PhraseSet :=
  ⟨ledger.rows.map (·.phrase), ledger.increasing⟩

/-- The row of a phrase, if the phrase is known. -/
def row? (ledger : Ledger) (phrase : Text) : Option LedgerRow :=
  ledger.rows.find? fun row => row.phrase = phrase

/-- The rows of the phrases that were seen. -/
def used (ledger : Ledger) : List LedgerRow :=
  ledger.rows.filter (·.isUsed)

/-- How many phrases were seen. -/
def size (ledger : Ledger) : Nat :=
  ledger.used.length

/-- Nothing was seen. -/
def isEmpty (ledger : Ledger) : Bool :=
  ledger.used.isEmpty

/-- Changes the row of one phrase, by a change that keeps the phrase. -/
def updateRow (ledger : Ledger) (phrase : Text) (change : LedgerRow → LedgerRow)
    (keeps : ∀ row, (change row).phrase = row.phrase) : Ledger where
  rows := ledger.rows.map fun row => if row.phrase = phrase then change row else row
  increasing := by
    have phrases : (ledger.rows.map fun row => if row.phrase = phrase then change row else row).map
        (·.phrase) = ledger.rows.map (·.phrase) := by
      rw [List.map_map]
      refine List.map_congr_left ?_
      intro row _
      simp only [Function.comp_apply]
      split
      · exact keeps row
      · rfl
    rw [phrases]
    exact ledger.increasing

/-- Offers an occurrence of a phrase to the ledger: what became of it, and the ledger afterwards. -/
def record (ledger : Ledger) (phrase : Text) (sighting : Sighting) (hits : Int) :
    Except LedgerError Novelty × Ledger :=
  match ledger.row? phrase with
  | none => (.error (.unknownPhrase phrase), ledger)
  | some row =>
    ((row.record sighting hits).1,
      ledger.updateRow phrase (fun row => (row.record sighting hits).2) fun row =>
        row.phrase_record sighting hits)

end Ledger

end PhraseAudit
