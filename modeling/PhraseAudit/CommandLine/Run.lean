import PhraseAudit.Auditor
import PhraseAudit.CommandLine.Settings
import PhraseAudit.CommandLine.Usage
import PhraseAudit.Host
import PhraseAudit.Report.Writer

/-!
# Running the command line

A run finds its source, audits it, reports what was found and, if asked to, writes the report to a
file. It ends with a status: 0 when all went well, 1 after an error or, if asked for, when some
phrase was seen unwrapped, and 2 after a complaint about the arguments.

All numbers of a run count something in its source: lines, markers, phrases and hits. No file is so
large that such a number would reach a limit of digits, and so a run is told without one.
-/

namespace PhraseAudit.CommandLine

/-- An error that no part of a run deals with. -/
inductive Crash where
  | source (error : SourceError)
  | audit (error : AuditError)
deriving Repr, DecidableEq

/-- The wording of a crash. -/
def Crash.message : Crash → String
  | .source error => error.message
  | .audit error => error.message none

/-- How a run ends. -/
inductive Ending where
  | status (code : Nat)
  | crash (error : Crash)
deriving Repr, DecidableEq

/-- A whole run: how it ends, what it prints about its usage on either stream, what it puts on the
streams otherwise, and the files afterwards. -/
structure Run where
  ending : Ending
  usageOutput : String
  usageError : String
  events : List Event
  tree : FileTree
deriving Repr, DecidableEq

/-- The status of a run in which all went well. -/
def statusOk : Nat :=
  0

/-- The status of a run that failed, or that found what it was told to fail on. -/
def statusFailure : Nat :=
  1

/-- The status of a run with wrong arguments. -/
def statusUsage : Nat :=
  2

/-- A run that puts something on the streams and leaves the files as they are. -/
def Run.ofEvents (tree : FileTree) (ending : Ending) (events : List Event) : Run :=
  ⟨ending, "", "", events, tree⟩

/-- The console of a run: under JSON, the standard stream is kept for the report. -/
def consoleOf (settings : Settings) : Console :=
  ⟨if settings.json then .error else .standard, settings.verbose⟩

/-- The status of a run that wrote what it had to write. -/
def finalStatus (settings : Settings) (ledger : Ledger) : Nat :=
  if settings.failOnUnwrapped && !ledger.isEmpty then statusFailure else statusOk

/-- The report of a run. -/
def reportEvent (settings : Settings) (ledger : Ledger) (summary : Summary) : Event :=
  if settings.json then Report.jsonEvent ledger (some summary)
  else Report.readerEvent (consoleOf settings) ledger

/-- Writes the report file of a run, if one is asked for: the events of it, the status, and the
files afterwards. -/
def writeReport (settings : Settings) (tree : FileTree) (ledger : Ledger) (summary : Summary) :
    List Event × Nat × FileTree :=
  let console := consoleOf settings
  if settings.output = [] then ([], finalStatus settings ledger, tree)
  else
    match Report.writeJson none tree (Path.ofText settings.output) ledger (some summary) with
    | (.ok notices, written) => (console.notices notices, finalStatus settings ledger, written)
    | (.error error, written) =>
      let message :=
        s!"Failed to write report {String.ofList settings.output}: " ++ error.message
      (console.notices [.failed message], statusFailure, written)

/-- Whether an audit error is reported to the user rather than left to nobody. -/
def isReported : AuditError → Bool
  | .read error => error.cause.isReported
  | .marker _ | .ledger _ => false

/-- Audits a source and reports. -/
def runOn (codecs : Codecs) (tree : FileTree) (settings : Settings) (source : Path) : Run :=
  let console := consoleOf settings
  let step := (Auditor.new (!settings.keepTags) settings.encoding).run codecs tree source
  let told := console.notices (.opened source :: step.notices)
  match step.result with
  | .error error =>
    if isReported error then
      Run.ofEvents tree (.status statusFailure)
        (told ++ console.notices [.failed (error.message none)])
    else Run.ofEvents tree (.crash (.audit error)) told
  | .ok (ledger, summary) =>
    let (written, status, after) := writeReport settings tree ledger summary
    Run.ofEvents after (.status status)
      (told ++ [reportEvent settings ledger summary] ++ written)

/-- Runs with the given settings. -/
def runWith (host : Host) (tree : FileTree) (settings : Settings) : Run :=
  match Source.locate host.homes tree settings.path with
  | .ok source => runOn host.codecs tree settings source
  | .error (.notFound source) =>
    Run.ofEvents tree (.status statusFailure)
      ((consoleOf settings).notices [.failed (SourceError.notFound source).message])
  | .error error => Run.ofEvents tree (.crash (.source error)) []

/-- Runs the command line on its arguments. -/
def run (host : Host) (tree : FileTree) (arguments : List Text) : Run :=
  match parse arguments with
  | .error error => ⟨.status statusUsage, "", complaint error.message, [], tree⟩
  | .ok .help => ⟨.status statusOk, help, "", [], tree⟩
  | .ok (.run settings) => runWith host tree settings

end PhraseAudit.CommandLine
