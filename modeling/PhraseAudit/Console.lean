import PhraseAudit.Json.Printer
import PhraseAudit.Notice
import PhraseAudit.Report.Document
import PhraseAudit.Report.Table

/-!
# The console

What a run puts on its two output streams. Notices and reports go to the main stream of a console;
warnings and errors always go to the error stream, and details only to a console that asked for
them.
-/

namespace PhraseAudit

/-- The two output streams. -/
inductive OutputStream where
  | standard
  | error
deriving Repr, DecidableEq

/-- One thing that is put on a stream. -/
inductive Output where
  | notice (notice : Notice)
  | line (text : String)
  | table (rows : List TableRow)
  | json (text : Text)
deriving Repr, DecidableEq

/-- An output together with the stream it is put on. -/
structure Event where
  stream : OutputStream
  output : Output
deriving Repr, DecidableEq

/-- A console: the stream it mainly writes to, and whether it shows details. -/
structure Console where
  main : OutputStream
  verbose : Bool
deriving Repr, DecidableEq

namespace Console

/-- The stream on which a notice is shown. -/
def streamFor (console : Console) (notice : Notice) : OutputStream :=
  match notice.level with
  | .warning | .error => .error
  | .info | .debug | .done => console.main

/-- Whether a notice is shown at all. -/
def shows (console : Console) (notice : Notice) : Bool :=
  console.verbose || notice.level != .debug

/-- Shows notices, in order. -/
def notices (console : Console) (notices : List Notice) : List Event :=
  (notices.filter console.shows).map fun notice => ⟨console.streamFor notice, .notice notice⟩

end Console

namespace Report

/-- Reports a ledger for readers: a table, or one line when nothing was seen. -/
def readerEvent (console : Console) (ledger : Ledger) : Event :=
  if ledger.isEmpty then ⟨console.main, .line emptyMessage⟩
  else ⟨console.main, .table (tableRows ledger)⟩

/-- The text of the JSON document about a ledger. -/
def jsonText (ledger : Ledger) (summary : Option Summary) : Text :=
  (Document.ofLedger ledger summary).toJson.print

/-- Reports a ledger as JSON, always on the standard stream, with a line feed at its end. -/
def jsonEvent (ledger : Ledger) (summary : Option Summary) : Event :=
  ⟨.standard, .json (jsonText ledger summary ++ ['\n'])⟩

end Report

end PhraseAudit
