import PhraseAudit.Report.Writer
import PhraseAudit.Store

/-!
# Reports of a store

The table, the document and the report file of a store. The occurrences of the document are taken from
the lines of the store, its details from the first occurrences, and the table from the lines and the
hits. Integers of any size may have been added to a store, so that its reports know about a limit of
digits: where a number has more of them, there is no report at all.
-/

namespace PhraseAudit.Store

/-- The document about a store. -/
def document (store : Store) (summary : Option Summary) : Document where
  phrases := store.known.toList
  occurrences := store.phrases.toList.map fun phrase => (phrase, store.linesOf phrase)
  details := store.phrases.toList.map fun phrase => (phrase, store.sightingsOf phrase)
  summary := summary

/-- The rows of the table for a store. -/
def tableRows (store : Store) : List TableRow :=
  store.phrases.toList.map fun phrase =>
    TableRow.about phrase (store.linesOf phrase) (store.hitsOf phrase)

/-- The numbers in the table for a store. -/
def tableNumbers (store : Store) : List Int :=
  store.phrases.toList.flatMap fun phrase => store.linesOf phrase ++ [store.hitsOf phrase]

/-- Reports a store for readers: a table, or one line when nothing was seen. -/
def readerEvent (limit : DigitLimit) (console : Console) (store : Store) :
    Except NumberError Event :=
  if store.isEmpty then .ok ⟨console.main, .line Report.emptyMessage⟩
  else (limit.check store.tableNumbers).map fun _ => ⟨console.main, .table store.tableRows⟩

/-- Reports a store as JSON, always on the standard stream, with a line feed at its end. -/
def jsonEvent (limit : DigitLimit) (store : Store) (summary : Option Summary) :
    Except NumberError Event :=
  (limit.check (store.document summary).toJson.numbers).map fun _ =>
    ⟨.standard, .json ((store.document summary).toJson.print ++ ['\n'])⟩

/-- Writes the JSON document about a store to a file, and tells when it is done. -/
def write (limit : DigitLimit) (tree : FileTree) (target : Path) (store : Store)
    (summary : Option Summary) : Except WriteError (List Notice) × FileTree :=
  Report.writeDocument limit tree target (store.document summary)

end PhraseAudit.Store
