import PhraseAudit.Proofs.Files.Effects
import PhraseAudit.Report.Writer

/-!
# Replacing a file by way of another

The replacement of a target ends in one of four ways. The temporary file could not be opened, and
nothing has changed. It was opened, but there was no content for it, or it was written and could not be
moved, and then it has been removed. Or it was moved, and the target holds the content. In all cases but
the first nothing stands in the place of the temporary file, whatever stood there before.
-/

namespace PhraseAudit

/-- Whether an error came after the temporary file was opened: a number could not be written, or the file
could not be moved over its target. The error of a move names two paths. -/
def WriteError.isLate : WriteError → Bool
  | .notAFile _ => false
  | .file error => error.target.isSome
  | .number _ => true

namespace Report

/-! ## The temporary file -/

/-- The names of the temporary path. -/
theorem names_temporaryPath {target : Path} {above : List Text} {name : Text}
    (names : target.names = above ++ [name]) :
    (temporaryPath target name).names = above ++ [name ++ ".tmp".toList] := by
  simp [temporaryPath, Path.withName, names]

/-- The name of a temporary file never leads back. -/
theorem temporaryName_ne_parentName (name : Text) : name ++ ".tmp".toList ≠ parentName := by
  intro same
  have lengths := congrArg List.length same
  simp [parentName] at lengths

/-- A temporary file has a place of its own next to its target. -/
theorem placeOf_temporaryPath_ne (tree : FileTree) {target : Path} {name : Text}
    (last : target.name? = some name) :
    tree.placeOf (temporaryPath target name) ≠ tree.placeOf target := by
  obtain ⟨above, names⟩ := List.getLast?_eq_some_iff.1 last
  have begins : tree.startOf (temporaryPath target name) = tree.startOf target := rfl
  rw [FileTree.placeOf, FileTree.placeOf, names_temporaryPath names, names, begins,
    Place.follow_append, Place.follow_append]
  generalize Place.follow (tree.startOf target) above = folder
  simp only [Place.follow, List.foldl_cons, List.foldl_nil,
    if_neg (temporaryName_ne_parentName name)]
  intro same
  have lengths := congrArg List.length same
  by_cases back : name = parentName
  · simp [back] at lengths
    omega
  · simp [back] at same

/-- A temporary file that stands in its slot is removed. -/
theorem removeTemporary_of_file {tree : FileTree} {temporary : Path} {place : Place}
    {content : List UInt8} (slot : tree.slot temporary = .ok (some place))
    (stands : tree.get? place = some (.file content)) :
    removeTemporary tree temporary = .ok (tree.erase place) := by
  obtain ⟨above, name, names⟩ := FileTree.exists_last_of_slot slot
  obtain ⟨_, proper, _⟩ := (tree.slot_eq_some_iff names place).1 slot
  have found := (tree.find_eq_ok_iff_slot names proper _).2 ⟨place, slot, stands⟩
  have removed := (tree.remove_eq_ok_iff temporary _).2 ⟨place, content, slot, stands, rfl⟩
  simp [removeTemporary, FileTree.isThere, found, FileTree.whether, removed]

/-- Nothing is removed from a free slot. -/
theorem removeTemporary_of_free {tree : FileTree} {temporary : Path} {place : Place}
    (slot : tree.slot temporary = .ok (some place)) (free : tree.get? place = none) :
    removeTemporary tree temporary = .ok tree := by
  simp [removeTemporary, FileTree.isThere, FileTree.find_of_free_slot slot free, FileTree.whether]

/-- Where a file cannot be written, none is removed either. -/
theorem removeTemporary_of_write_eq_error {tree : FileTree} {temporary : Path}
    {content : List UInt8} {error : FileError}
    (fails : tree.write temporary content = .error error) :
    removeTemporary tree temporary = .ok tree ∨
      ∃ other, removeTemporary tree temporary = .error other ∧ other.target = none := by
  unfold removeTemporary
  cases asked : tree.isThere temporary with
  | error other => exact .inr ⟨other, rfl, (FileTree.whether_failsOn _ _ _ other asked).2⟩
  | ok there =>
    cases there with
    | false => exact .inl rfl
    | true =>
      cases removes : tree.remove temporary with
      | error other => exact .inr ⟨other, rfl, (tree.remove_failsOn _ other removes).2⟩
      | ok cleared =>
        obtain ⟨place, old, slot, stands, _⟩ :=
          (tree.remove_eq_ok_iff temporary cleared).1 removes
        have opens := (tree.write_eq_ok_iff temporary content _).2
          ⟨place, slot, by simp [stands], rfl⟩
        cases fails.symm.trans opens

/-! ## The ways in which a replacement ends -/

/-- How the replacement of a target ends, and the tree it leaves. -/
inductive Replaced (tree : FileTree) (temporary target : Path)
    (content : Except NumberError (List UInt8)) : Except WriteError Unit × FileTree → Prop where
  /-- The temporary file was not opened. -/
  | unopened {error : FileError} (early : error.target = none) :
    Replaced tree temporary target content (.error (.file error), tree)
  /-- The temporary file was opened, but there was nothing to write into it. -/
  | unprinted {error : NumberError} {opened : FileTree} (fails : content = .error error)
    (opens : tree.write temporary [] = .ok opened) :
    Replaced tree temporary target content
      (.error (.number error), opened.erase (tree.placeOf temporary))
  /-- The temporary file was written but not moved. -/
  | unmoved {error : FileError} {bytes : List UInt8} {written : FileTree}
    (printed : content = .ok bytes) (opened : tree.write temporary bytes = .ok written)
    (fails : written.move temporary target = .error error) :
    Replaced tree temporary target content
      (.error (.file error), written.erase (tree.placeOf temporary))
  /-- The temporary file was written and moved. -/
  | moved {bytes : List UInt8} {written moved : FileTree} (printed : content = .ok bytes)
    (opened : tree.write temporary bytes = .ok written)
    (moves : written.move temporary target = .ok moved) :
    Replaced tree temporary target content (.ok (), moved)

variable {tree written moved : FileTree} {temporary target : Path} {bytes : List UInt8}
  {content : Except NumberError (List UInt8)}

/-- Removing a temporary file that was written leaves nothing in its place. -/
theorem get?_unmoved (opened : tree.write temporary bytes = .ok written) (place : Place) :
    (written.erase (tree.placeOf temporary)).get? place =
      if place = tree.placeOf temporary then none else tree.get? place := by
  have proper := FileTree.ne_nil_of_slot (FileTree.slot_written opened)
  rw [written.get?_erase_of_ne_nil proper, FileTree.get?_written opened]
  by_cases here : place = tree.placeOf temporary <;> simp [here]

/-- Moving a temporary file that was written leaves nothing in its place and the content in that of
the target. -/
theorem get?_replaced (opened : tree.write temporary bytes = .ok written)
    (moves : written.move temporary target = .ok moved) (place : Place) :
    moved.get? place =
      if place = tree.placeOf target then some (.file bytes)
      else if place = tree.placeOf temporary then none else tree.get? place := by
  obtain ⟨current, _⟩ := FileTree.keepsFolders_written opened
  obtain ⟨own, stands, everywhere⟩ := FileTree.get?_moved moves
  simp only [FileTree.placeOf_of_current current] at stands everywhere
  rw [FileTree.get?_written opened, if_pos rfl] at stands
  cases stands
  rw [everywhere, FileTree.get?_written opened]
  by_cases here : place = tree.placeOf temporary <;> simp [here]

/-- A temporary file that was written is removed. -/
theorem removeTemporary_of_written (opened : tree.write temporary bytes = .ok written) :
    removeTemporary written temporary = .ok (written.erase (tree.placeOf temporary)) := by
  have stands := FileTree.get?_written opened (tree.placeOf temporary)
  rw [if_pos rfl] at stands
  exact removeTemporary_of_file (FileTree.slot_written opened) stands

/-- What was written after the temporary file was opened is all that is in it. -/
theorem exists_opened (written : tree.write temporary bytes = .ok moved) :
    ∃ opened, tree.write temporary [] = .ok opened ∧ opened.write temporary bytes = .ok moved := by
  obtain ⟨place, slot, noFolder, _⟩ := (tree.write_eq_ok_iff temporary bytes moved).1 written
  have opens := (tree.write_eq_ok_iff temporary [] _).2 ⟨place, slot, noFolder, rfl⟩
  exact ⟨_, opens, (FileTree.write_written opens bytes).trans written⟩

/-- A replacement succeeds when the temporary file is written and moved. -/
theorem replaceFile_of_moved (apart : tree.placeOf temporary ≠ tree.placeOf target)
    (opened : tree.write temporary bytes = .ok written)
    (moves : written.move temporary target = .ok moved) :
    replaceFile tree temporary target (.ok bytes) = (.ok (), moved) := by
  obtain ⟨current, keeps⟩ := FileTree.keepsFolders_moved moves
  have free := get?_replaced opened moves (tree.placeOf temporary)
  rw [if_neg apart, if_pos rfl] at free
  have slot := FileTree.slot_of_keepsFolders keeps current (FileTree.slot_written opened)
  obtain ⟨first, opens, writes⟩ := exists_opened opened
  simp only [replaceFile, writeAndMove, opens, writes, moves, removeTemporary_of_free slot free]

/-- A replacement without a content fails once the temporary file is opened. -/
theorem replaceFile_of_number {opened : FileTree} (opens : tree.write temporary [] = .ok opened)
    (target : Path) (error : NumberError) :
    replaceFile tree temporary target (.error error) =
      (.error (.number error), opened.erase (tree.placeOf temporary)) := by
  simp only [replaceFile, writeAndMove, opens, removeTemporary_of_written opens]

/-- A replacement ends in one of the four ways. -/
theorem replaced_replaceFile (apart : tree.placeOf temporary ≠ tree.placeOf target)
    (content : Except NumberError (List UInt8)) :
    Replaced tree temporary target content (replaceFile tree temporary target content) := by
  cases opens : tree.write temporary [] with
  | error error =>
    have early := (tree.write_failsOn _ _ error opens).2
    simp only [replaceFile, writeAndMove, opens]
    rcases removeTemporary_of_write_eq_error opens with cleared | ⟨other, fails, otherEarly⟩
    · simp only [cleared]
      exact .unopened early
    · simp only [fails]
      exact .unopened otherEarly
  | ok opened =>
    cases content with
    | error error =>
      rw [replaceFile_of_number opens]
      exact .unprinted rfl opens
    | ok bytes =>
      obtain ⟨place, slot, noFolder, _⟩ := (tree.write_eq_ok_iff temporary [] opened).1 opens
      have writes := (tree.write_eq_ok_iff temporary bytes _).2 ⟨place, slot, noFolder, rfl⟩
      generalize tree.insert place (.file bytes) = written at writes
      have again := (FileTree.write_written opens bytes).trans writes
      cases moves : written.move temporary target with
      | error error =>
        simp only [replaceFile, writeAndMove, opens, again, moves,
          removeTemporary_of_written writes]
        exact .unmoved rfl writes moves
      | ok moved =>
        rw [replaceFile_of_moved apart writes moves]
        exact .moved rfl writes moves

/-! ## The ways in which writing a report ends -/

/-- How the writing of a content to a target ends, and the tree it leaves. The folders above the
target are made first. -/
inductive Written (tree : FileTree) (target : Path) (content : Except NumberError (List UInt8)) :
    Except WriteError Unit × FileTree → Prop where
  /-- The temporary file was not opened, though some folders may have been made. -/
  | unopened {error : WriteError} {after : FileTree} (early : error.isLate = false)
    (grown : FileTree.Grown (tree.OnTheWay target.parent) tree after) :
    Written tree target content (.error error, after)
  /-- The temporary file was opened in the folder of the target, but there was nothing to write. -/
  | unprinted {name : Text} {error : NumberError} {made opened : FileTree}
    (last : target.name? = some name) (fails : content = .error error)
    (grown : FileTree.Grown (tree.OnTheWay target.parent) tree made)
    (opens : made.write (temporaryPath target name) [] = .ok opened) :
    Written tree target content
      (.error (.number error), opened.erase (tree.placeOf (temporaryPath target name)))
  /-- The temporary file was written in the folder of the target but not moved. -/
  | unmoved {name : Text} {error : FileError} {bytes : List UInt8} {made written : FileTree}
    (last : target.name? = some name) (noFolder : tree.isFolder target = .ok false)
    (printed : content = .ok bytes)
    (grown : FileTree.Grown (tree.OnTheWay target.parent) tree made)
    (opened : made.write (temporaryPath target name) bytes = .ok written)
    (fails : written.move (temporaryPath target name) target = .error error) :
    Written tree target content
      (.error (.file error), written.erase (tree.placeOf (temporaryPath target name)))
  /-- The temporary file was written in the folder of the target and moved. -/
  | moved {name : Text} {bytes : List UInt8} {made written moved : FileTree}
    (last : target.name? = some name) (printed : content = .ok bytes)
    (grown : FileTree.Grown (tree.OnTheWay target.parent) tree made)
    (opened : made.write (temporaryPath target name) bytes = .ok written)
    (moves : written.move (temporaryPath target name) target = .ok moved) :
    Written tree target content (.ok (), moved)

/-- Writing a content ends in one of the four ways. -/
theorem written_writeContent (tree : FileTree) (target : Path)
    (content : Except NumberError (List UInt8)) :
    Written tree target content (writeContent tree target content) := by
  have unchanged := FileTree.Grown.refl (tree.OnTheWay target.parent) tree
  have isEarly : ∀ {error : FileError}, error.target = none →
      (WriteError.file error).isLate = false := by
    intro error early
    rw [WriteError.isLate, early]
    rfl
  unfold writeContent
  cases last : target.name? with
  | none => exact .unopened rfl unchanged
  | some name =>
    cases asked : tree.isFolder target with
    | error error =>
      exact .unopened (isEarly (FileTree.whether_failsOn _ _ _ error asked).2) unchanged
    | ok folder =>
      cases folder with
      | true => exact .unopened rfl unchanged
      | false =>
        obtain ⟨grown, early⟩ := tree.makesFolders_ensureFolders target.parent
        simp only [writeInto]
        generalize tree.ensureFolders target.parent = step at grown early ⊢
        obtain ⟨outcome, made⟩ := step
        cases outcome with
        | error error => exact .unopened (isEarly (early error rfl)) grown
        | ok done =>
          have apart := placeOf_temporaryPath_ne made last
          have ends : Replaced made _ target content _ := replaced_replaceFile apart content
          simp only at grown ⊢
          generalize replaceFile made (temporaryPath target name) target content = result at ends ⊢
          cases ends with
          | unopened early => exact .unopened (isEarly early) grown
          | unprinted fails opens =>
            rw [FileTree.placeOf_of_current grown.current]
            exact .unprinted last fails grown opens
          | unmoved printed opened fails =>
            rw [FileTree.placeOf_of_current grown.current]
            exact .unmoved last asked printed grown opened fails
          | moved printed opened moves => exact .moved last printed grown opened moves

/-- Removing a temporary file that was written leaves no gap in the tree. -/
theorem rooted_unmoved (rooted : tree.Rooted) (opened : tree.write temporary bytes = .ok written) :
    (written.erase (tree.placeOf temporary)).Rooted := by
  have stands := FileTree.get?_written opened (tree.placeOf temporary)
  rw [if_pos rfl] at stands
  apply (FileTree.rooted_written rooted opened).erase
  · exact FileTree.ne_nil_of_slot (FileTree.slot_written opened)
  · simp [stands]

/-- However the writing of a content ends, it leaves no gap in the tree. -/
theorem Written.rooted {result : Except WriteError Unit × FileTree}
    (ends : Written tree target content result) (rooted : tree.Rooted) : result.2.Rooted := by
  cases ends with
  | unopened early grown => exact grown.rooted rooted
  | unprinted last fails grown opens =>
    rw [← FileTree.placeOf_of_current grown.current]
    exact rooted_unmoved (grown.rooted rooted) opens
  | unmoved last noFolder printed grown opened fails =>
    rw [← FileTree.placeOf_of_current grown.current]
    exact rooted_unmoved (grown.rooted rooted) opened
  | moved last printed grown opened moves =>
    exact FileTree.rooted_moved (FileTree.rooted_written (grown.rooted rooted) opened) moves

end Report

end PhraseAudit
