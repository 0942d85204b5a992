import PhraseAudit.Ledger

/-!
# The report table

The report for readers: a row for each phrase that was seen, with its lines and its hits. Numbers
are written in decimal, and the line numbers are separated by a comma and a space.
-/

namespace PhraseAudit

/-- On which side the cells of a column are lined up. -/
inductive Alignment where
  | left
  | right
deriving Repr, DecidableEq

/-- A column of the report table. -/
structure Column where
  header : String
  alignment : Alignment
deriving Repr, DecidableEq

/-- The cells of one row. -/
structure TableRow where
  phrase : Text
  lines : Text
  hits : Text
deriving Repr, DecidableEq

namespace Report

/-- The title of the report table. -/
def tableTitle : String :=
  "Unwrapped Phrase Occurrences"

/-- The columns of the report table. -/
def tableColumns : List Column :=
  [⟨"Phrase", .left⟩, ⟨"Lines", .left⟩, ⟨"Hits", .right⟩]

/-- What is printed in place of a table without rows. -/
def emptyMessage : String :=
  "No unwrapped instances of known phrases found."

/-- A control character that would move the cursor of a terminal, which a cell must not hold. -/
def isCursorControl (c : Char) : Bool :=
  [0x07, 0x08, 0x0B, 0x0C, 0x0D].contains c.toNat

/-- What stands between two line numbers of a cell. -/
def separator : Text :=
  [',', ' ']

end Report

/-- The row of the table about a phrase with some lines and hits. -/
def TableRow.about (phrase : Text) (lines : List Int) (hits : Int) : TableRow where
  phrase := phrase.filter fun c => !Report.isCursorControl c
  lines := Report.separator.intercalate (lines.map Text.ofInt)
  hits := Text.ofInt hits

namespace Report

/-- The row of the table for a row of the ledger. -/
def tableRow (row : LedgerRow) : TableRow :=
  .about row.phrase row.lines row.hits

/-- The rows of the table for a ledger. -/
def tableRows (ledger : Ledger) : List TableRow :=
  ledger.used.map tableRow

end Report

end PhraseAudit
