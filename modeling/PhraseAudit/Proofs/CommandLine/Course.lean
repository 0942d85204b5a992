import PhraseAudit.CommandLine.Run
import PhraseAudit.Proofs.Audit.Notices

/-!
# The course of a run

A run whose arguments are understood finds a ledger and a summary, or nothing. It finds nothing
without a source, and when the audit of its source breaks off. Then it crashes or tells of one
error, and it touches no file. A run that finds something reports it once and then delivers the
report file, if one is asked for. What it tells before is never about an error.
-/

namespace PhraseAudit

namespace Event

/-- Whether an event tells of an error. -/
def isError (event : Event) : Bool :=
  match event.output with
  | .notice notice => notice.level = .error
  | .line _ | .table _ | .json _ => false

/-- Whether an event is a report: a table, the line in place of one, or a JSON document. -/
def isReport (event : Event) : Bool :=
  match event.output with
  | .notice _ => false
  | .line _ | .table _ | .json _ => true

/-- A report is no error. -/
theorem isError_of_isReport {event : Event} (report : event.isReport = true) :
    event.isError = false := by
  obtain ⟨stream, output⟩ := event
  cases output with
  | notice notice => cases report
  | line text => rfl
  | table rows => rfl
  | json text => rfl

end Event

namespace Console

variable (console : Console)

/-- Notices that are shown in two parts are shown one after the other. -/
theorem notices_append (front behind : List Notice) :
    console.notices (front ++ behind) = console.notices front ++ console.notices behind := by
  simp only [notices, List.filter_append, List.map_append]

/-- The word of a failure is shown by every console, on the error stream. -/
theorem notices_failed (message : String) :
    console.notices [.failed message] = [⟨.error, .notice (.failed message)⟩] := by
  have shown : console.shows (.failed message) = true := by simp [shows, Notice.level]
  rw [notices, List.filter_cons_of_pos shown]
  rfl

/-- What is shown of calm notices tells of no error. -/
theorem filter_isError_of_calm {told : List Notice} (calm : Notice.Calm told) :
    (console.notices told).filter Event.isError = [] := by
  refine List.filter_eq_nil_iff.2 ?_
  intro event member
  obtain ⟨notice, shown, rfl⟩ := List.mem_map.1 member
  simpa [Event.isError] using calm notice (List.mem_filter.1 shown).1

/-- A notice is no report. -/
theorem isReport_of_mem_notices {told : List Notice} {event : Event}
    (member : event ∈ console.notices told) : event.isReport = false := by
  obtain ⟨notice, _, rfl⟩ := List.mem_map.1 member
  rfl

/-- There are no reports among notices. -/
theorem filter_isReport_notices (told : List Notice) :
    (console.notices told).filter Event.isReport = [] := by
  refine List.filter_eq_nil_iff.2 ?_
  intro event member
  simp [console.isReport_of_mem_notices member]

end Console

namespace CommandLine

/-- The events of a run that tell of an error. -/
def Run.errors (result : Run) : List Event :=
  result.events.filter Event.isError

/-- The events of a run that are reports. -/
def Run.reports (result : Run) : List Event :=
  result.events.filter Event.isReport

/-- What a run finds: the ledger and the summary of the audit of its source, if there is a source
and the audit comes to its end. -/
def found? (host : Host) (tree : FileTree) (settings : Settings) : Option (Ledger × Summary) :=
  match Source.locate host.homes tree settings.path with
  | .error _ => none
  | .ok source =>
    ((Auditor.new (!settings.keepTags) settings.encoding).run host.codecs tree
      source).result.toOption

/-- What a run reports: the JSON document, or else the table, or the line in place of a table
without rows. -/
def reportOf (settings : Settings) (ledger : Ledger) (summary : Summary) : Output :=
  if settings.json then .json (Report.jsonText ledger (some summary) ++ ['\n'])
  else if ledger.used = [] then .line Report.emptyMessage
  else .table (Report.tableRows ledger)

/-- A report stands on the standard stream, whatever the settings are. -/
theorem reportEvent_eq (settings : Settings) (ledger : Ledger) (summary : Summary) :
    reportEvent settings ledger summary = ⟨.standard, reportOf settings ledger summary⟩ := by
  unfold reportEvent reportOf
  by_cases json : settings.json = true
  · simp only [if_pos json]
    rfl
  · simp only [if_neg json, consoleOf, Report.readerEvent, Ledger.isEmpty, List.isEmpty_iff]
    split <;> rfl

/-- What a run reports is a report. -/
theorem isReport_reportOf (settings : Settings) (ledger : Ledger) (summary : Summary)
    (stream : OutputStream) : Event.isReport ⟨stream, reportOf settings ledger summary⟩ = true := by
  unfold reportOf
  split
  · rfl
  · split <;> rfl

/-- How the report file of a run is delivered: the events of it, the status, and the files
afterwards. -/
inductive Delivery (tree : FileTree) (settings : Settings) (ledger : Ledger) (summary : Summary) :
    List Event × Nat × FileTree → Prop
  /-- No file is asked for. -/
  | unasked (unnamed : settings.output = []) :
      Delivery tree settings ledger summary ([], finalStatus settings ledger, tree)
  /-- The file was written. -/
  | written (named : settings.output ≠ []) {after : FileTree}
      (writes : Report.writeJson none tree (Path.ofText settings.output) ledger (some summary) =
        (.ok [.written (Path.ofText settings.output)], after)) :
      Delivery tree settings ledger summary
        ((consoleOf settings).notices [.written (Path.ofText settings.output)],
          finalStatus settings ledger, after)
  /-- The file was not written, which is told as an error. -/
  | refused (named : settings.output ≠ []) {after : FileTree} {error : WriteError}
      (message : String)
      (fails : Report.writeJson none tree (Path.ofText settings.output) ledger (some summary) =
        (.error error, after)) :
      Delivery tree settings ledger summary
        ((consoleOf settings).notices [.failed message], statusFailure, after)

/-- A report file is delivered in one of the three ways. -/
theorem delivery_writeReport (tree : FileTree) (settings : Settings) (ledger : Ledger)
    (summary : Summary) :
    Delivery tree settings ledger summary (writeReport settings tree ledger summary) := by
  unfold writeReport
  by_cases unnamed : settings.output = []
  · simp only [if_pos unnamed]
    exact .unasked unnamed
  · simp only [if_neg unnamed]
    cases ends : Report.writeContent tree (Path.ofText settings.output)
        (Report.fileContent none (Document.ofLedger ledger (some summary))) with
    | mk outcome after =>
      have writes : Report.writeJson none tree (Path.ofText settings.output) ledger (some summary) =
          (outcome.map fun _ => [.written (Path.ofText settings.output)], after) := by
        rw [Report.writeJson, Report.writeDocument, ends]
      rw [writes]
      cases outcome with
      | error error => exact .refused unnamed _ writes
      | ok _ => exact .written unnamed writes

/-- What is told about the report file is told in notices. -/
theorem Delivery.eq_notices {tree after : FileTree} {settings : Settings} {ledger : Ledger}
    {summary : Summary} {written : List Event} {code : Nat}
    (delivers : Delivery tree settings ledger summary (written, code, after)) :
    ∃ told, written = (consoleOf settings).notices told := by
  cases delivers with
  | unasked unnamed => exact ⟨[], rfl⟩
  | written named writes => exact ⟨_, rfl⟩
  | refused named message fails => exact ⟨_, rfl⟩

/-- The courses that a run can take, by what it finds. -/
inductive Course (tree : FileTree) (settings : Settings) : Option (Ledger × Summary) → Run → Prop
  /-- Nothing was found, and nobody deals with the reason. -/
  | crashed {told : List Notice} (calm : Notice.Calm told) (error : Crash) :
      Course tree settings none
        (.ofEvents tree (.crash error) ((consoleOf settings).notices told))
  /-- Nothing was found, and the reason is told as an error. -/
  | failed {told : List Notice} (calm : Notice.Calm told) (message : String) :
      Course tree settings none
        (.ofEvents tree (.status statusFailure)
          ((consoleOf settings).notices told ++ (consoleOf settings).notices [.failed message]))
  /-- What was found is reported, and then delivered to the report file. -/
  | reported {told : List Notice} (calm : Notice.Calm told) {ledger : Ledger} {summary : Summary}
      {written : List Event} {code : Nat} {after : FileTree}
      (delivers : Delivery tree settings ledger summary (written, code, after)) :
      Course tree settings (some (ledger, summary))
        (.ofEvents after (.status code)
          ((consoleOf settings).notices told ++
            ⟨.standard, reportOf settings ledger summary⟩ :: written))

/-- A run whose arguments are understood takes one of the three courses. -/
theorem course_run (host : Host) (tree : FileTree) {arguments : List Text} {settings : Settings}
    (parsed : parse arguments = .ok (.run settings)) :
    Course tree settings (found? host tree settings) (run host tree arguments) := by
  simp only [run, parsed, runWith, found?]
  cases Source.locate host.homes tree settings.path with
  | error error =>
    have calm : Notice.Calm [] := by simp [Notice.Calm]
    cases error with
    | notFound source => exact .failed calm _
    | home error => exact .crashed calm _
    | file error => exact .crashed calm _
  | ok source =>
    simp only [runOn]
    generalize Auditor.new (!settings.keepTags) settings.encoding = auditor
    have audit := auditor.calm_run host.codecs tree source
    generalize auditor.run host.codecs tree source = step at audit ⊢
    have calm : Notice.Calm (.opened source :: step.notices) :=
      List.forall_mem_cons.2 ⟨by simp [Notice.level], audit⟩
    cases step.result with
    | error error =>
      simp only
      split
      · exact .failed calm _
      · exact .crashed calm _
    | ok outcome =>
      obtain ⟨ledger, summary⟩ := outcome
      simp only [reportEvent_eq, List.append_assoc, List.singleton_append]
      exact .reported calm (delivery_writeReport tree settings ledger summary)

/-- A run whose first notices are calm tells of the errors that come behind them. -/
theorem errors_ofEvents (tree : FileTree) (ending : Ending) (console : Console)
    {told : List Notice} (calm : Notice.Calm told) (behind : List Event) :
    (Run.ofEvents tree ending (console.notices told ++ behind)).errors =
      behind.filter Event.isError := by
  simp only [Run.errors, Run.ofEvents, List.filter_append, console.filter_isError_of_calm calm,
    List.nil_append]

namespace Course

variable {tree : FileTree} {settings : Settings} {found : Option (Ledger × Summary)} {result : Run}

/-- A run reports exactly what it finds, once and on the standard stream. -/
theorem reports_eq (course : Course tree settings found result) :
    result.reports = found.toList.map fun (ledger, summary) =>
      ⟨.standard, reportOf settings ledger summary⟩ := by
  cases course with
  | crashed calm error => exact Console.filter_isReport_notices _ _
  | failed calm message =>
    simp only [Run.reports, Run.ofEvents, List.filter_append, Console.filter_isReport_notices,
      List.append_nil, Option.toList_none, List.map_nil]
  | @reported told calm ledger summary written code after delivers =>
    obtain ⟨later, rfl⟩ := delivers.eq_notices
    have report := isReport_reportOf settings ledger summary .standard
    simp only [Run.reports, Run.ofEvents, List.filter_append, Console.filter_isReport_notices,
      List.filter_cons_of_pos report, List.nil_append, Option.toList_some, List.map_cons,
      List.map_nil]

/-- A run that finds nothing leaves the files as they are. -/
theorem tree_eq (course : Course tree settings none result) : result.tree = tree := by
  cases course <;> rfl

/-- A run whose arguments are understood prints nothing about its usage. -/
theorem usageOutput_eq (course : Course tree settings found result) : result.usageOutput = "" := by
  cases course <;> rfl

end Course

end CommandLine

end PhraseAudit
