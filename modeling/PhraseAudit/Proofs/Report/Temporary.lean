import PhraseAudit.Proofs.Report.Replacement

/-!
# Temporary files that can be moved

Without names that lead back, a temporary file that was opened can also be moved: its path is longer
than that of the target, its folder is the same, and the target was seen not to be a folder before
the folders above it were made.
-/

namespace PhraseAudit

/-! ## Paths next to each other -/

namespace Report

/-- The place of the temporary file for a target, if the target has a last name. -/
def temporaryPlace? (tree : FileTree) (target : Path) : Option Place :=
  target.name?.map fun name => tree.placeOf (temporaryPath target name)

/-- The place of the temporary file for a target with the given last name. -/
theorem temporaryPlace?_eq (tree : FileTree) {target : Path} {name : Text}
    (last : target.name? = some name) :
    temporaryPlace? tree target = some (tree.placeOf (temporaryPath target name)) := by
  rw [temporaryPlace?, last, Option.map_some]

variable {tree made written moved : FileTree} {target : Path} {name : Text} {document : List UInt8}

/-- After the temporary file was removed again, the regular files are those from before, except for
one in its place. -/
theorem removed_file_iff (last : target.name? = some name)
    (grown : FileTree.Grown (tree.OnTheWay target.parent) tree made)
    (opened : made.write (temporaryPath target name) document = .ok written) (place : Place)
    (content : List UInt8) :
    (written.erase (tree.placeOf (temporaryPath target name))).get? place = some (.file content) ↔
      tree.get? place = some (.file content) ∧ temporaryPlace? tree target ≠ some place := by
  have everywhere := get?_unmoved opened place
  rw [FileTree.placeOf_of_current grown.current] at everywhere
  rw [everywhere, temporaryPlace?_eq tree last]
  by_cases here : place = tree.placeOf (temporaryPath target name)
  · simp [here]
  · simp [here, Ne.symm here, grown.file_iff]

end Report

end PhraseAudit
