import Mathlib.Algebra.Ring.Int.Defs
import PhraseAudit.Proofs.CommandLine.Course
import PhraseAudit.Proofs.Report.Temporary
import PhraseAudit.Report.OfStore

/-!
# Which files a report leaves alone

Writing a report touches two places: that of its target and that of the temporary file next to it.
A regular file that happens to have the name of the temporary file is lost as soon as the temporary
file is opened, also when there is nothing to write into it or it cannot be moved over its target in
the end.
-/

namespace PhraseAudit

namespace Report

/-- Away from the target, the regular files are those from before, except that the one in the place
of the temporary file stays only if the temporary file was not opened. -/
theorem Written.file_iff {tree : FileTree} {target : Path}
    {content : Except NumberError (List UInt8)} {result : Except WriteError Unit × FileTree}
    (ends : Written tree target content result) {place : Place} (away : place ≠ tree.placeOf target)
    (bytes : List UInt8) :
    result.2.get? place = some (.file bytes) ↔ tree.get? place = some (.file bytes) ∧
      (temporaryPlace? tree target = some place →
        ∃ error, result.1 = .error error ∧ error.isLate = false) := by
  cases ends with
  | unopened early grown => simp [grown.file_iff, early]
  | @unprinted _ error _ _ last _ grown opens =>
    have late : (WriteError.number error).isLate = true := rfl
    simp [removed_file_iff last grown opens, late]
  | @unmoved _ error _ _ written last _ _ grown opened fails =>
    have late : (WriteError.file error).isLate = true := by
      rw [WriteError.isLate, (written.move_failsOn _ _ error fails).2]
      rfl
    simp [removed_file_iff last grown opened, late]
  | @moved name _ made written moved last _ grown opened moves =>
    have everywhere := get?_replaced opened moves place
    simp only [FileTree.placeOf_of_current grown.current, if_neg away] at everywhere
    simp only [temporaryPlace?_eq tree last, everywhere]
    by_cases here : place = tree.placeOf (temporaryPath target name)
    · simp [here]
    · simp [here, Ne.symm here, grown.file_iff]

/-- What a document leaves of the files away from its target. -/
theorem writeDocument_file_iff (limit : DigitLimit) {tree : FileTree} {target : Path}
    (document : Document) {place : Place} (away : place ≠ tree.placeOf target)
    (bytes : List UInt8) :
    let result := writeDocument limit tree target document
    result.2.get? place = some (.file bytes) ↔ tree.get? place = some (.file bytes) ∧
      (temporaryPlace? tree target = some place →
        ∃ error, result.1 = .error error ∧ error.isLate = false) := by
  have ends := (written_writeContent tree target (fileContent limit document)).file_iff away bytes
  simp only [writeDocument]
  generalize writeContent tree target (fileContent limit document) = step at ends ⊢
  obtain ⟨outcome, after⟩ := step
  cases outcome <;> simpa [Except.map] using ends

end Report

namespace CommandLine

/-- A run leaves the files as they are, or as the writing of its report leaves them. -/
theorem tree_run (host : Host) (tree : FileTree) (arguments : List Text) :
    (run host tree arguments).tree = tree ∨ ∃ settings ledger summary,
      parse arguments = .ok (.run settings) ∧ (run host tree arguments).tree =
        (Report.writeJson none tree (Path.ofText settings.output) ledger (some summary)).2 := by
  cases parsed : parse arguments with
  | error error => simp [run, parsed]
  | ok request =>
    cases request with
    | help => simp [run, parsed]
    | run settings =>
      have course := course_run host tree parsed
      generalize run host tree arguments = result at course ⊢
      generalize found? host tree settings = found at course
      cases course with
      | crashed calm error => exact .inl rfl
      | failed calm message => exact .inl rfl
      | reported calm delivers =>
        cases delivers with
        | unasked unnamed => exact .inl rfl
        | written named writes => exact .inr ⟨settings, _, _, rfl, (congrArg Prod.snd writes).symm⟩
        | refused named message fails =>
          exact .inr ⟨settings, _, _, rfl, (congrArg Prod.snd fails).symm⟩

/-- A report leaves the files alone that stand neither in the place of its target nor in that of
the temporary file, and a file in the place of the temporary file only if it fails early.

No more is asked of the tree, the target, the store and the limit of digits: the names on the target may
lead back, the folders above it may be missing, and files may stand in their places. Failing early means
that the temporary file was not opened. The failures after that are a number of too many digits, and a
file that is not moved over the target. A run on the command line changes files by its report only, so
that its source is safe wherever it does not stand in one of the two places.
-/
theorem files_beside_report (tree : FileTree) (target : Path) {place : Place}
    (away : place ≠ tree.placeOf target) (content : List UInt8) :
    (∀ limit (store : Store) summary,
      let result := store.write limit tree target summary
      result.2.get? place = some (.file content) ↔ tree.get? place = some (.file content) ∧
        (Report.temporaryPlace? tree target = some place →
          ∃ error, result.1 = .error error ∧ error.isLate = false)) ∧
    (Report.temporaryPlace? tree target ≠ some place →
      ∀ host arguments settings, parse arguments = .ok (.run settings) →
        Path.ofText settings.output = target →
        ((run host tree arguments).tree.get? place = some (.file content) ↔
          tree.get? place = some (.file content))) := by
  constructor
  · intro limit store summary
    exact Report.writeDocument_file_iff limit (store.document summary) away content
  · rintro beside host arguments settings parsed rfl
    rcases tree_run host tree arguments with same | ⟨other, ledger, summary, otherParsed, same⟩
    · rw [same]
    · cases parsed.symm.trans otherParsed
      rw [same]
      exact (Report.writeDocument_file_iff none (Document.ofLedger ledger (some summary)) away
        content).trans (and_iff_left fun here => absurd here beside)

/-- A source whose name is that of the temporary file: the report is written, the source is gone. It
is also gone after a report that fails since a line has too many digits. -/
theorem source_lost_to_report :
    let content : List UInt8 := [0x63, 0x61, 0x74]
    let place : Place := ["report.json.tmp".toList]
    let tree : FileTree := ⟨[(place, .file content)], []⟩
    let target := Path.ofText "report.json".toList
    let store := Store.ofKnown (.ofList ["cat".toList])
    let far := (store.add "cat".toList ⟨10 ^ 4300, "a cat".toList⟩ 1).2
    let after := run ⟨⟨[], []⟩, .plain⟩ tree
      ["report.json.tmp".toList, "--output".toList, "report.json".toList]
    place ≠ tree.placeOf target ∧ tree.get? place = some (.file content) ∧
      (store.write .usual tree target none).2.get? place ≠ some (.file content) ∧
      (far.write .usual tree target none).1 = .error (.number ⟨4300⟩) ∧
      (far.write .usual tree target none).2.get? place ≠ some (.file content) ∧
      after.ending = .status statusOk ∧ after.tree.get? place = none := by
  intro content place tree target store far after
  have away : place ≠ tree.placeOf target := by decide
  have ends := (files_beside_report tree target away content).1 .usual
  have done : (store.write .usual tree target none).1 = .ok [.written target] := by decide
  have fails : (far.write .usual tree target none).1 = .error (.number ⟨4300⟩) := by
    decide +kernel
  refine ⟨away, by decide, ?_, fails, ?_, by decide, by decide⟩
  · intro stays
    obtain ⟨error, failed, _⟩ := ((ends store none).1 stays).2 (by decide)
    cases done.symm.trans failed
  · intro stays
    obtain ⟨error, failed, early⟩ := ((ends far none).1 stays).2 (by decide)
    obtain rfl := Except.error.inj (failed.symm.trans fails)
    cases early

end CommandLine

end PhraseAudit
