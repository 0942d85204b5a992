import Mathlib.Data.List.Induction
import PhraseAudit.Proofs.Files.Walk

/-!
# Trees without gaps

In the tree of a file system every entry stands in a folder, so that everything above an entry is a
folder too. Then short names that never lead back lead to every entry there is.
-/

namespace PhraseAudit.FileTree

/-- Every entry of the tree but the root stands in a folder. -/
def Rooted (tree : FileTree) : Prop :=
  ∀ place entry, place ≠ [] → tree.get? place = some entry →
    tree.get? place.dropLast = some .folder

/-- An insertion in a folder leaves no gap, unless it puts a file in the place of a folder. -/
theorem Rooted.insert {tree : FileTree} (rooted : tree.Rooted) {place : Place} {entry : Entry}
    (proper : place ≠ []) (inside : tree.get? place.dropLast = some .folder)
    (keeps : KeepsFolders tree (tree.insert place entry)) : (tree.insert place entry).Rooted := by
  intro other found away stands
  apply keeps
  rw [tree.get?_insert_of_ne_nil proper] at stands
  split at stands
  · rename_i here
    rwa [here]
  · exact rooted other found away stands

/-- An erasure of anything but a folder leaves no gap. -/
theorem Rooted.erase {tree : FileTree} (rooted : tree.Rooted) {place : Place}
    (proper : place ≠ []) (noFolder : tree.get? place ≠ some .folder) :
    (tree.erase place).Rooted := by
  intro other found away stands
  apply keepsFolders_erase proper noFolder
  rw [tree.get?_erase_of_ne_nil proper] at stands
  split at stands
  · cases stands
  · exact rooted other found away stands

end PhraseAudit.FileTree
