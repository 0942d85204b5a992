import Mathlib.Algebra.Ring.Int.Defs
import PhraseAudit.Proofs.CommandLine.Course
import PhraseAudit.Proofs.Report.Writable
import PhraseAudit.Report.OfStore

/-!
# Reports are written as a whole or not at all

A temporary file that was opened can also be moved, if no name leads back and there is a content for
it. So a failure comes before any file has changed, but for one: a number of too many digits is met when
the temporary file is open, and a file that had its name before is lost. A report that was written is
complete.
-/

namespace PhraseAudit

namespace Report

variable {tree made written moved : FileTree} {target : Path} {name : Text} {document : List UInt8}

/-- What holds after a report was written: the target can be read and holds the document, the
folders above it are there, and the temporary file is not. -/
structure Complete (after : FileTree) (target : Path) (document : List UInt8) : Prop where
  read : after.read target = .ok document
  above : ∀ place, after.OnTheWay target.parent place → after.get? place = some .folder
  temporary : ∃ name, target.name? = some name ∧
    after.isThere (temporaryPath target name) = .ok false

/-- A temporary file that was moved leaves a complete report. -/
theorem complete_of_moved (last : target.name? = some name)
    (opened : made.write (temporaryPath target name) document = .ok written)
    (moves : written.move (temporaryPath target name) target = .ok moved) :
    Complete moved target document := by
  obtain ⟨slot, goalSlot⟩ := FileTree.slots_moved moves
  have apart := placeOf_temporaryPath_ne made last
  obtain ⟨current, _⟩ := FileTree.keepsFolders_written opened
  simp only [FileTree.placeOf_of_current current] at slot goalSlot
  obtain ⟨above, names⟩ := List.getLast?_eq_some_iff.1 last
  obtain ⟨_, proper, _, folder, walked, there, _⟩ := (moved.slot_eq_some_iff names _).1 goalSlot
  constructor
  · have stands := get?_replaced opened moves (made.placeOf target)
    rw [if_pos rfl] at stands
    have found := (moved.find_eq_ok_iff_slot names proper _).2 ⟨_, goalSlot, stands⟩
    simp [FileTree.read, found]
  · rintro place ⟨front, before, rfl⟩
    obtain ⟨behind, whole⟩ : front <+: above := by simpa [Path.parent, names] using before
    rw [← whole] at walked
    exact FileTree.folder_of_walk_append walked there
  · refine ⟨name, last, ?_⟩
    have free := get?_replaced opened moves (made.placeOf (temporaryPath target name))
    rw [if_neg apart, if_pos rfl] at free
    simp [FileTree.isThere, FileTree.find_of_free_slot slot free, FileTree.whether]

/-- There is a content exactly when every number of the document can be written. -/
theorem fileContent_eq_ok_iff (limit : DigitLimit) (document : Document) (bytes : List UInt8) :
    fileContent limit document = .ok bytes ↔
      (∀ number ∈ document.toJson.numbers, limit.Allows number) ∧
        bytes = Utf8.encode document.toJson.print := by
  rw [← limit.check_eq_ok_iff, fileContent]
  cases limit.check document.toJson.numbers with
  | error error => simp [Except.map]
  | ok done => simp [Except.map, eq_comm]

/-- A document that was written can be read, and holds its text in UTF-8. -/
theorem read_of_writeDocument {limit : DigitLimit} {after : FileTree} {document : Document}
    {notices : List Notice} (done : writeDocument limit tree target document = (.ok notices, after)) :
    after.read target = .ok (Utf8.encode document.toJson.print) := by
  have ends := written_writeContent tree target (fileContent limit document)
  unfold writeDocument at done
  generalize writeContent tree target (fileContent limit document) = result at ends done
  cases ends with
  | unopened => cases (Prod.mk.inj done).1
  | unprinted => cases (Prod.mk.inj done).1
  | unmoved => cases (Prod.mk.inj done).1
  | moved last printed _ opened moves =>
    obtain rfl := (Prod.mk.inj done).2
    rw [← ((fileContent_eq_ok_iff limit document _).1 printed).2]
    exact (complete_of_moved last opened moves).read

/-- A report that was written can be read, and holds the text in UTF-8. -/
theorem read_of_writeJson {limit : DigitLimit} {after : FileTree} {ledger : Ledger}
    {summary : Option Summary} {notices : List Notice}
    (done : writeJson limit tree target ledger summary = (.ok notices, after)) :
    after.read target = .ok (Utf8.encode (jsonText ledger summary)) :=
  read_of_writeDocument done

end Report

namespace CommandLine

end CommandLine

namespace Report

end Report

end PhraseAudit
