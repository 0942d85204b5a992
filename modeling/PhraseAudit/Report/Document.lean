import PhraseAudit.Json.Value
import PhraseAudit.Ledger

/-!
# The report document

A ledger as the document that is printed or written to a file: the known phrases, the lines of each
phrase that was seen, the snippets of those lines, and, for a whole run, its summary.
-/

namespace PhraseAudit

/-- The figures of a run: where the lines came from, how many lines and markers were read, how many
phrases are known, and how many of them were seen unwrapped. -/
structure Summary where
  source : Text
  lines : Int
  markers : Int
  phrases : Int
  unwrapped : Int
deriving Repr, DecidableEq

/-- What a report says, in the order in which it says it. -/
structure Document where
  phrases : List Text
  occurrences : List (Text × List Int)
  details : List (Text × List Sighting)
  summary : Option Summary
deriving Repr, DecidableEq

/-- A snippet of the details, as JSON. -/
def Sighting.toJson (sighting : Sighting) : Json :=
  .object [("line_no".toList, .number sighting.line), ("snippet".toList, .text sighting.snippet)]

/-- The figures of a run, as JSON. -/
def Summary.toJson (summary : Summary) : Json :=
  .object [
    ("source".toList, .text summary.source),
    ("lines".toList, .number summary.lines),
    ("annotations".toList, .number summary.markers),
    ("phrases".toList, .number summary.phrases),
    ("unwrapped".toList, .number summary.unwrapped)]

namespace Document

/-- The document about a ledger. -/
def ofLedger (ledger : Ledger) (summary : Option Summary) : Document where
  phrases := ledger.known.toList
  occurrences := ledger.used.map fun row => (row.phrase, row.lines)
  details := ledger.used.map fun row => (row.phrase, row.sightings)
  summary := summary

/-- The members that a summary adds to a document. -/
def summaryMembers : Option Summary → List (Text × Json)
  | none => []
  | some summary =>
    [("source".toList, .text summary.source), ("summary".toList, summary.toJson)]

/-- The document as a JSON object. -/
def toJson (document : Document) : Json :=
  .object ([
    ("phrases".toList, .list (document.phrases.map .text)),
    ("occurrences".toList, .object (document.occurrences.map fun (phrase, lines) =>
      (phrase, .list (lines.map .number)))),
    ("details".toList, .object (document.details.map fun (phrase, sightings) =>
      (phrase, .list (sightings.map Sighting.toJson))))] ++ summaryMembers document.summary)

end Document

end PhraseAudit
