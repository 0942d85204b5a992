import PhraseAudit.Proofs.CommandLine.Course
import PhraseAudit.Proofs.Report.AllOrNothing

/-!
# What the status says

The status of a run is one of two. It says failure exactly when an error was told or, if that was
asked for, when a phrase was seen unwrapped. A run that says success has reported what it found, and
its report file holds the document.
-/

namespace PhraseAudit.CommandLine

variable {tree after : FileTree} {settings : Settings} {ledger : Ledger} {summary : Summary}

/-- A run that wrote what it had to write fails exactly when it was told to fail on what it
found. -/
theorem finalStatus_eq_failure_iff (settings : Settings) (ledger : Ledger) :
    finalStatus settings ledger = statusFailure ↔
      settings.failOnUnwrapped = true ∧ ledger.used ≠ [] := by
  have apart : statusOk ≠ statusFailure := by decide
  simp only [finalStatus, Ledger.isEmpty, Bool.and_eq_true, Bool.not_eq_true',
    List.isEmpty_eq_false_iff]
  split <;> simp_all

/-- There are only two final statuses. -/
theorem finalStatus_eq_or (settings : Settings) (ledger : Ledger) :
    finalStatus settings ledger = statusFailure ∨ finalStatus settings ledger = statusOk := by
  unfold finalStatus
  split
  · exact .inl rfl
  · exact .inr rfl

/-- A report file is delivered without an error, and then it holds the document if it was asked for,
or with one error and the status of a failure. -/
theorem Delivery.faithful {written : List Event} {code : Nat}
    (delivers : Delivery tree settings ledger summary (written, code, after)) :
    (written.filter Event.isError = [] ∧ code = finalStatus settings ledger ∧
      (settings.output ≠ [] → after.read (Path.ofText settings.output) =
        .ok (Utf8.encode (Report.jsonText ledger (some summary))))) ∨
    ((written.filter Event.isError).length = 1 ∧ code = statusFailure) := by
  cases delivers with
  | unasked unnamed => exact .inl ⟨rfl, rfl, fun named => absurd unnamed named⟩
  | written named writes =>
    have calm : Notice.Calm [.written (Path.ofText settings.output)] := by
      simp [Notice.Calm, Notice.level]
    exact .inl ⟨(consoleOf settings).filter_isError_of_calm calm, rfl,
      fun _ => Report.read_of_writeJson writes⟩
  | refused named message fails =>
    rw [Console.notices_failed]
    exact .inr ⟨rfl, rfl⟩

/-- The status of a run is faithful.

The arguments are understood, and nothing is asked of the files. A run that finds a ledger and a
summary ends with a status. A run that ends with a status fails exactly when it tells of an error,
or when it was told to fail on phrases that were seen unwrapped and some were. It tells of one error
at most. A run that ends well has reported what it found, once, and its report file, if it was asked
for one, holds the document about the same ledger and summary.

Proof: what is told before the report is never about an error, and behind it an error is told
exactly when the report file could not be written. -/
theorem status_faithful {host : Host} {tree : FileTree} {arguments : List Text}
    {settings : Settings} (parsed : parse arguments = .ok (.run settings)) :
    let result := run host tree arguments
    let found := found? host tree settings
    (found ≠ none → ∃ code, result.ending = .status code) ∧
    ∀ code, result.ending = .status code →
      (code = statusFailure ↔ result.errors ≠ [] ∨ settings.failOnUnwrapped = true ∧
        ∃ ledger summary, found = some (ledger, summary) ∧ ledger.used ≠ []) ∧
      (code = statusFailure ∨ code = statusOk) ∧
      result.errors.length ≤ 1 ∧
      (code = statusOk → ∃ ledger summary, found = some (ledger, summary) ∧
        result.reports = [⟨.standard, reportOf settings ledger summary⟩] ∧
        (settings.output ≠ [] → result.tree.read (Path.ofText settings.output) =
          .ok (Utf8.encode (Report.jsonText ledger (some summary))))) := by
  intro result found
  have course : Course tree settings found result := course_run host tree parsed
  have reports := course.reports_eq
  have apart : statusOk ≠ statusFailure := by decide
  clear_value result found
  cases course with
  | crashed calm error =>
    constructor
    · intro something
      exact absurd rfl something
    · intro code ends
      cases ends
  | failed calm message =>
    refine ⟨fun something => absurd rfl something, ?_⟩
    intro code ends
    obtain rfl := Ending.status.inj ends
    rw [errors_ofEvents tree _ _ calm, Console.notices_failed]
    exact ⟨iff_of_true rfl (.inl (List.cons_ne_nil _ _)), .inl rfl, Nat.le_refl 1,
      fun fine => absurd fine.symm apart⟩
  | @reported told calm ledger summary written status after delivers =>
    refine ⟨fun _ => ⟨status, rfl⟩, ?_⟩
    intro code ends
    obtain rfl := Ending.status.inj ends
    have noError := Event.isError_of_isReport (isReport_reportOf settings ledger summary .standard)
    rw [errors_ofEvents after _ _ calm, List.filter_cons_of_neg (by simp [noError])]
    rcases delivers.faithful with ⟨quiet, rfl, holds⟩ | ⟨single, rfl⟩
    · have final := finalStatus_eq_failure_iff settings ledger
      rw [quiet]
      refine ⟨?_, finalStatus_eq_or settings ledger, Nat.zero_le 1, ?_⟩
      · constructor
        · intro fails
          obtain ⟨strict, seen⟩ := final.1 fails
          exact .inr ⟨strict, ledger, summary, rfl, seen⟩
        · rintro (impossible | ⟨strict, _, _, same, seen⟩)
          · exact absurd rfl impossible
          · cases same
            exact final.2 ⟨strict, seen⟩
      · intro _
        exact ⟨ledger, summary, rfl, reports, holds⟩
    · have told : written.filter Event.isError ≠ [] := by
        intro quiet
        rw [quiet] at single
        cases single
      exact ⟨iff_of_true rfl (.inl told), .inl rfl, single.le,
        fun fine => absurd fine.symm apart⟩

/-- A file that wraps a phrase and repeats it. A run on it that writes a report ends well, and one
that is told to fail on what it finds does so without an error. -/
theorem status_faithful_repeated :
    let host : Host := ⟨⟨[], []⟩, .plain⟩
    let content := Utf8.encode "@[static#a] a".toList
    let tree : FileTree := ⟨[(["doc.txt".toList], .file content)], []⟩
    let arguments := ["doc.txt", "--output", "report.json"].map String.toList
    let strict := "--fail-on-unwrapped".toList :: arguments
    let settings : Settings :=
      ⟨"doc.txt".toList, false, "report.json".toList, false, [], false, false⟩
    let strictSettings := { settings with failOnUnwrapped := true }
    parse arguments = .ok (.run settings) ∧ parse strict = .ok (.run strictSettings) ∧
      (∃ ledger summary, found? host tree settings = some (ledger, summary) ∧
        (run host tree arguments).tree.read (Path.ofText "report.json".toList) =
          .ok (Utf8.encode (Report.jsonText ledger (some summary)))) ∧
      (run host tree strict).errors = [] ∧
      ∃ ledger summary, found? host tree strictSettings = some (ledger, summary) ∧
        ledger.used ≠ [] := by
  intro host content tree arguments strict settings strictSettings
  have parsed : parse arguments = .ok (.run settings) := by decide
  have parsedStrict : parse strict = .ok (.run strictSettings) := by decide
  have fine : (run host tree arguments).ending = .status statusOk := by
    set_option maxRecDepth 2000 in decide
  obtain ⟨fails, quiet⟩ : (run host tree strict).ending = .status statusFailure ∧
      (run host tree strict).errors = [] := by
    set_option maxRecDepth 2000 in decide
  refine ⟨parsed, parsedStrict, ?_, quiet, ?_⟩
  · obtain ⟨_, _, _, success⟩ := (status_faithful parsed).2 _ fine
    obtain ⟨ledger, summary, found, _, holds⟩ := success rfl
    exact ⟨ledger, summary, found, holds (by decide)⟩
  · rcases ((status_faithful parsedStrict).2 _ fails).1.1 rfl with told | ⟨_, seen⟩
    · exact absurd quiet told
    · exact seen

end PhraseAudit.CommandLine
