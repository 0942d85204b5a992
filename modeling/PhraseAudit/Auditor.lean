import PhraseAudit.Line
import PhraseAudit.Notice
import PhraseAudit.Phrase.Index
import PhraseAudit.Report.Document
import PhraseAudit.Source

/-!
# The audit of a source

An audit takes two passes over the same lines. The first collects the phrases that markers wrap, the
second searches what remains of each line for these phrases. An auditor keeps its settings and the
counts of its latest first pass, and can be used any number of times.
-/

namespace PhraseAudit

/-- How many lines and markers the first pass has read. -/
structure Counts where
  lines : Nat
  markers : Nat
deriving Repr, DecidableEq

/-- Why an audit ended early. -/
inductive AuditError where
  | marker (error : MarkerError)
  | ledger (error : LedgerError)
  | read (error : ReadError)
deriving Repr, DecidableEq

/-- The wording of an audit error, on a host with a limit of digits. -/
def AuditError.message (limit : DigitLimit) : AuditError → String
  | .marker error => error.message
  | .ledger error => error.message limit
  | .read error => error.message

/-- The settings of an auditor, and its counts. An empty encoding asks for none. -/
structure Auditor where
  stripTags : Bool
  encoding : Text
  counts : Counts
deriving Repr, DecidableEq

/-- What a step of an auditor leads to: the auditor afterwards, what it had to tell, and its
result. -/
structure AuditStep (α : Type) where
  auditor : Auditor
  notices : List Notice
  result : Except AuditError α

/-- What the first pass has gathered so far. -/
structure Gathered where
  counts : Counts
  phrases : PhraseSet
  notices : List Notice

namespace Gathered

/-- Nothing gathered yet. -/
def empty : Gathered :=
  ⟨⟨0, 0⟩, PhraseSet.empty, []⟩

/-- One more line was read. -/
def addLine (gathered : Gathered) : Gathered :=
  { gathered with counts := { gathered.counts with lines := gathered.counts.lines + 1 } }

/-- One more marker was read; a marker around nothing is worth a notice. -/
def addMarker (gathered : Gathered) (marker : Marker) : Gathered where
  counts := { gathered.counts with markers := gathered.counts.markers + 1 }
  phrases := gathered.phrases.insert marker.phrase
  notices :=
    if marker.phrase = [] then gathered.notices ++ [.emptyPhrase marker.kind marker.line]
    else gathered.notices

/-- Reads numbered lines up to the first marker of an unknown kind. -/
def readLines (gathered : Gathered) : List (Int × Text) → Gathered × Option MarkerError
  | [] => (gathered, none)
  | (number, line) :: rest =>
    let (markers, failure) := Marker.ofLine number line
    let extended := markers.foldl addMarker gathered.addLine
    match failure with
    | some error => (extended, some error)
    | none => extended.readLines rest

end Gathered

namespace Search

/-- Records the occurrences of phrases on one line. -/
def recordAll (sighting : Sighting) (ledger : Ledger) :
    List (Phrase × List (Found Unit)) → Except LedgerError Ledger
  | [] => .ok ledger
  | (phrase, occurrences) :: rest =>
    match ledger.record phrase.text sighting occurrences.length with
    | (.ok _, recorded) => recordAll sighting recorded rest
    | (.error error, _) => .error error

/-- Searches one numbered line. -/
def searchLine (stripTags : Bool) (index : PhraseIndex) (ledger : Ledger) (number : Int)
    (line : Text) : Except LedgerError Ledger :=
  recordAll ⟨number, Line.snippet line Line.snippetLimit⟩ ledger
    (index.occurrences (Line.searchable stripTags line))

/-- Searches numbered lines one after the other. -/
def searchLines (stripTags : Bool) (index : PhraseIndex) (ledger : Ledger) :
    List (Int × Text) → Except LedgerError Ledger
  | [] => .ok ledger
  | (number, line) :: rest =>
    match searchLine stripTags index ledger number line with
    | .ok recorded => searchLines stripTags index recorded rest
    | .error error => .error error

end Search

namespace Auditor

/-- An auditor that has not read anything. -/
def new (stripTags : Bool) (encoding : Text) : Auditor :=
  ⟨stripTags, encoding, ⟨0, 0⟩⟩

/-- The first pass: the phrases wrapped on some lines. -/
def collect (auditor : Auditor) (feed : Feed ReadError (Int × Text)) : AuditStep PhraseSet :=
  let (gathered, failure) := Gathered.empty.readLines feed.items
  let result := match failure, feed.failure with
    | some error, _ => .error (.marker error)
    | none, some error => .error (.read error)
    | none, none => .ok gathered.phrases
  ⟨{ auditor with counts := gathered.counts }, gathered.notices, result⟩

/-- The second pass: where the given phrases occur on some lines. Without a phrase that can be
searched for, the lines are not read. -/
def search (auditor : Auditor) (feed : Feed ReadError (Int × Text)) (phrases : PhraseSet) :
    AuditStep Ledger :=
  let index := PhraseIndex.ofSet phrases
  let notices := if index.skipped.isEmpty then [] else [.skipped index.skipped.length]
  let ledger := Ledger.ofKnown phrases
  let result :=
    if index.phrases.isEmpty then .ok ledger
    else match Search.searchLines auditor.stripTags index ledger feed.items, feed.failure with
      | .error error, _ => .error (.ledger error)
      | .ok _, some error => .error (.read error)
      | .ok recorded, none => .ok recorded
  ⟨auditor, notices, result⟩

/-- The second pass of an audit, unless there is nothing to search for. -/
def searchKnown (auditor : Auditor) (feed : Feed ReadError (Int × Text)) (phrases : PhraseSet) :
    AuditStep Ledger :=
  if phrases.size = 0 then ⟨auditor, [.nothingToSearch], .ok (Ledger.ofKnown PhraseSet.empty)⟩
  else
    let step := auditor.search feed phrases
    { step with notices := .searching auditor.stripTags :: step.notices }

/-- The summary of an audit. -/
def summarize (auditor : Auditor) (source : Path) (phrases : PhraseSet) (ledger : Ledger) :
    Summary where
  source := source.toText
  lines := auditor.counts.lines
  markers := auditor.counts.markers
  phrases := phrases.size
  unwrapped := ledger.size

/-- Both passes over one source. -/
def run (auditor : Auditor) (codecs : Codecs) (tree : FileTree) (source : Path) :
    AuditStep (Ledger × Summary) :=
  let feed := Source.lines codecs tree auditor.encoding source
  let first := auditor.collect feed
  match first.result with
  | .error error => ⟨first.auditor, .collecting :: first.notices, .error error⟩
  | .ok phrases =>
    let second := first.auditor.searchKnown feed phrases
    ⟨second.auditor,
      .collecting :: first.notices ++
        [.collected phrases.size, .known phrases.toList] ++ second.notices,
      second.result.map fun ledger =>
        (ledger, second.auditor.summarize source phrases ledger)⟩

end Auditor

end PhraseAudit
