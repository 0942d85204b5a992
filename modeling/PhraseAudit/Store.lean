import PhraseAudit.Dictionary
import PhraseAudit.Ledger

/-!
# The store of unwrapped occurrences

The store keeps what a ledger keeps in three dictionaries under the phrases: the lines on which each of
them was seen, how often it was hit, and the first occurrence on each line. They are changed one after
the other, and an occurrence that is refused may have changed some of them before.
-/

namespace PhraseAudit

/-- The known phrases, and three dictionaries about those that were seen. -/
structure Store where
  known : PhraseSet
  lines : Dictionary Text (List Int)
  hits : Dictionary Text Int
  firstSeen : Dictionary Text (Dictionary Int Sighting)

namespace Store

/-- The store for a set of known phrases, before anything is added. -/
def ofKnown (known : PhraseSet) : Store :=
  ⟨known, .empty, .empty, .empty⟩

/-- The lines of a phrase. -/
def linesOf (store : Store) (phrase : Text) : List Int :=
  (store.lines.get? phrase).getD []

/-- How often a phrase was hit. -/
def hitsOf (store : Store) (phrase : Text) : Int :=
  (store.hits.get? phrase).getD 0

/-- The first occurrences of a phrase, each under its line. -/
def detailsOf (store : Store) (phrase : Text) : Dictionary Int Sighting :=
  (store.firstSeen.get? phrase).getD .empty

/-- Counts the hits of a phrase, and makes sure that it has a list of lines. -/
def enter (store : Store) (phrase : Text) (hits : Int) : Store :=
  { store with
    hits := store.hits.insert phrase (store.hitsOf phrase + hits)
    lines := store.lines.ensure phrase [] }

/-- Puts a line behind the lines of a phrase, and keeps the occurrence as the first one there. -/
def extend (store : Store) (phrase : Text) (sighting : Sighting) : Store :=
  { store with
    lines := store.lines.insert phrase (store.linesOf phrase ++ [sighting.line])
    firstSeen := store.firstSeen.insert phrase
      ((store.detailsOf phrase).insert sighting.line sighting) }

/-- Adds a line to the lines of a phrase if it is new and none of them is behind it. -/
def addLine (store : Store) (phrase : Text) (sighting : Sighting) :
    Except LedgerError Novelty × Store :=
  match (store.linesOf phrase).getLast? with
  | none => (.ok .newLine, store.extend phrase sighting)
  | some last =>
    if last = sighting.line then (.ok .sameLine, store)
    else if sighting.line < last then (.error (.outOfOrder sighting.line phrase), store)
    else (.ok .newLine, store.extend phrase sighting)

/-- Adds an occurrence of a phrase: what became of it, and the store afterwards. The hits count before
the line is looked at. -/
def add (store : Store) (phrase : Text) (sighting : Sighting) (hits : Int) :
    Except LedgerError Novelty × Store :=
  if phrase ∈ store.known.toList then (store.enter phrase hits).addLine phrase sighting
  else (.error (.unknownPhrase phrase), store)

/-- The phrases that were seen, sorted. -/
def phrases (store : Store) : PhraseSet :=
  PhraseSet.ofList store.lines.keys

/-- Nothing was seen. -/
def isEmpty (store : Store) : Bool :=
  store.lines.keys.isEmpty

/-- The first occurrences of a phrase, sorted by their lines. -/
def sightingsOf (store : Store) (phrase : Text) : List Sighting :=
  ((store.detailsOf phrase).entries.mergeSort fun first second => first.1 ≤ second.1).map (·.2)

end Store

end PhraseAudit
