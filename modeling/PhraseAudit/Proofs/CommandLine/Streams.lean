import PhraseAudit.Proofs.Audit.Gathering
import PhraseAudit.Proofs.Audit.Outcome
import PhraseAudit.Proofs.CommandLine.Course

/-!
# What reaches the streams and the files

A run that finds nothing leaves no trace but its notices: it reports nothing and changes no file,
however far the audit had come. With JSON asked for, the notices keep off the standard stream, which
has the document or nothing.
-/

namespace PhraseAudit.CommandLine

/-- The events of a run that are on the standard stream. -/
def Run.onStandard (result : Run) : List Event :=
  result.events.filter (·.stream = .standard)

/-- A run finds nothing exactly when it has no source, or a source that cannot be read to its end or
that delivers a line with a stray marker. -/
theorem found?_eq_none_iff (host : Host) (tree : FileTree) (settings : Settings) :
    found? host tree settings = none ↔
      ∀ source, Source.locate host.homes tree settings.path = .ok source →
        (Source.lines host.codecs tree settings.encoding source).failure ≠ none ∨
        ∃ pair ∈ (Source.lines host.codecs tree settings.encoding source).items,
          Marker.HoldsStray pair.2 := by
  unfold found?
  cases Source.locate host.homes tree settings.path with
  | error error => simp
  | ok source =>
    simp only [Except.ok.injEq, forall_eq']
    rcases (Auditor.new (!settings.keepTags) settings.encoding).run_outcome host.codecs tree
        source with
      ⟨stray, keyword, ends⟩ | ⟨_, error, failure, ends⟩ | ⟨pure, ledger, summary, ends⟩
    · rw [ends]
      exact iff_of_true rfl (.inr stray)
    · rw [ends]
      exact iff_of_true rfl (.inl (Option.ne_none_iff_exists'.2 ⟨error, failure⟩))
    · obtain ⟨phrases, collected, _⟩ := (Auditor.run_eq_ok_iff _ _ tree source ledger summary).1 ends
      obtain ⟨complete, _⟩ := (Auditor.collect_eq_ok_iff _ _ phrases).1 collected
      rw [ends]
      refine iff_of_false (Option.some_ne_none _) ?_
      rintro (fails | stray)
      · exact fails complete
      · exact pure stray

/-- With JSON asked for, a notice is shown on the error stream, whatever its level. -/
theorem stream_of_mem_notices {settings : Settings} (json : settings.json = true)
    {told : List Notice} {event : Event} (member : event ∈ (consoleOf settings).notices told) :
    event.stream = .error := by
  obtain ⟨notice, _, rfl⟩ := List.mem_map.1 member
  simp only [Console.streamFor, consoleOf, if_pos json]
  cases notice.level <;> rfl

namespace Course

variable {tree : FileTree} {settings : Settings} {found : Option (Ledger × Summary)} {result : Run}

/-- An event of a run is a notice that its console shows, or its report. -/
theorem notice_or_report (course : Course tree settings found result) {event : Event}
    (member : event ∈ result.events) :
    (∃ told, event ∈ (consoleOf settings).notices told) ∨
      ∃ ledger summary, event = ⟨.standard, reportOf settings ledger summary⟩ := by
  cases course with
  | crashed calm error => exact .inl ⟨_, member⟩
  | @failed told calm message =>
    refine .inl ⟨told ++ [.failed message], ?_⟩
    rwa [Console.notices_append]
  | @reported told calm ledger summary written code after delivers =>
    obtain ⟨later, rfl⟩ := delivers.eq_notices
    rcases List.mem_append.1 member with before | here
    · exact .inl ⟨told, before⟩
    · rcases List.mem_cons.1 here with report | behind
      · exact .inr ⟨ledger, summary, report⟩
      · exact .inl ⟨later, behind⟩

/-- With JSON asked for, what is on the standard stream is what is reported. -/
theorem onStandard_eq_reports (course : Course tree settings found result)
    (json : settings.json = true) : result.onStandard = result.reports := by
  refine List.filter_congr ?_
  intro event member
  rcases course.notice_or_report member with ⟨told, shown⟩ | ⟨ledger, summary, rfl⟩
  · rw [stream_of_mem_notices json shown, Console.isReport_of_mem_notices _ shown]
    rfl
  · exact (isReport_reportOf settings ledger summary .standard).symm

end Course

/-- A report is complete or absent, and JSON keeps the standard stream clean.

The arguments are understood, and nothing is asked of the files. A run finds nothing exactly when it
has no source, or a source that breaks off somewhere or holds a stray marker, and then it reports
nothing and leaves the files as they are, however many lines had been read. Otherwise it reports
once what it found. With JSON asked for, every notice is on the error stream, and the standard
stream has the document alone, whether or not the report file can be written, or else nothing.

Proof: before the audit has come to its end a run only tells notices, and the report file is all it
changes. -/
theorem report_complete_or_absent {host : Host} {tree : FileTree} {arguments : List Text}
    {settings : Settings} (parsed : parse arguments = .ok (.run settings)) :
    let result := run host tree arguments
    let found := found? host tree settings
    (found = none ↔ ∀ source, Source.locate host.homes tree settings.path = .ok source →
      (Source.lines host.codecs tree settings.encoding source).failure ≠ none ∨
      ∃ pair ∈ (Source.lines host.codecs tree settings.encoding source).items,
        Marker.HoldsStray pair.2) ∧
    (found = none → result.reports = [] ∧ result.tree = tree) ∧
    (∀ ledger summary, found = some (ledger, summary) →
      result.reports = [⟨.standard, reportOf settings ledger summary⟩]) ∧
    (settings.json = true →
      (∀ event ∈ result.events, ∀ notice, event.output = .notice notice →
        event.stream = .error) ∧
      result.usageOutput = "" ∧
      (found = none → result.onStandard = []) ∧
      ∀ ledger summary, found = some (ledger, summary) → result.onStandard =
        [⟨.standard, .json (Report.jsonText ledger (some summary) ++ ['\n'])⟩]) := by
  intro result found
  have course : Course tree settings found result := course_run host tree parsed
  have reports := course.reports_eq
  have nothing : found = none → result.reports = [] := by
    intro absent
    rw [reports, absent]
    rfl
  have something : ∀ ledger summary, found = some (ledger, summary) →
      result.reports = [⟨.standard, reportOf settings ledger summary⟩] := by
    intro ledger summary same
    rw [reports, same]
    rfl
  refine ⟨found?_eq_none_iff host tree settings, fun absent => ⟨nothing absent, ?_⟩, something,
    ?_⟩
  · rw [absent] at course
    exact course.tree_eq
  · intro json
    rw [course.onStandard_eq_reports json]
    refine ⟨?_, course.usageOutput_eq, nothing, ?_⟩
    · intro event member notice shown
      rcases course.notice_or_report member with ⟨told, inside⟩ | ⟨ledger, summary, rfl⟩
      · exact stream_of_mem_notices json inside
      · have report := isReport_reportOf settings ledger summary .standard
        change reportOf settings ledger summary = .notice notice at shown
        rw [shown] at report
        cases report
    · intro ledger summary same
      rw [something ledger summary same, reportOf, if_pos json]

/-- A file whose last byte cannot be decoded, and the same file without it, each with JSON asked for
and with a report file that cannot be written. -/
theorem report_complete_or_absent_broken :
    let host : Host := ⟨⟨[], []⟩, .plain⟩
    let content := Utf8.encode "@[static#a]\na\n".toList
    let broken : FileTree := ⟨[(["doc.txt".toList], .file (content ++ [0xFF]))], []⟩
    let whole : FileTree := ⟨[(["doc.txt".toList], .file content)], []⟩
    let arguments := ["doc.txt", "--json", "--output", "."].map String.toList
    let settings : Settings := ⟨"doc.txt".toList, true, ".".toList, false, [], false, false⟩
    parse arguments = .ok (.run settings) ∧
      (run host broken arguments).onStandard = [] ∧
      (run host broken arguments).tree = broken ∧
      (run host whole arguments).ending = .status statusFailure ∧
      ∃ ledger summary, found? host whole settings = some (ledger, summary) ∧
        (run host whole arguments).onStandard =
          [⟨.standard, .json (Report.jsonText ledger (some summary) ++ ['\n'])⟩] := by
  intro host content broken whole arguments settings
  have parsed : parse arguments = .ok (.run settings) := by decide
  have located : Source.locate host.homes broken settings.path =
      .ok (Path.ofText "doc.txt".toList) := by decide
  obtain ⟨faults, absent, _, silent⟩ :=
    @report_complete_or_absent host broken arguments settings parsed
  have nothing : found? host broken settings = none := by
    refine faults.2 ?_
    intro source here
    obtain rfl := Except.ok.inj (located.symm.trans here)
    exact .inl (by decide)
  obtain ⟨_, _, _, clean⟩ := @report_complete_or_absent host whole arguments settings parsed
  obtain ⟨_, _, _, document⟩ := clean rfl
  have present : (found? host whole settings).isSome = true := by decide
  obtain ⟨⟨ledger, summary⟩, something⟩ := Option.isSome_iff_exists.1 present
  exact ⟨parsed, (silent rfl).2.2.1 nothing, (absent nothing).2,
    by decide, ledger, summary, something, document ledger summary something⟩

end PhraseAudit.CommandLine
