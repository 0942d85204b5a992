import Mathlib.Data.List.Infix
import PhraseAudit.Proofs.Files.Effects

/-!
# Ways that can be made

The folders on the way to a path can all be made when the way begins in a folder, its names are
short and never lead back, and no regular file stands on it.
-/

namespace PhraseAudit

/-- The beginning of a list of texts is written before the rest of it. -/
theorem Text.intercalate_prefix (separator : Text) {front names : List Text}
    (within : front <+: names) : separator.intercalate front <+: separator.intercalate names := by
  obtain ⟨behind, rfl⟩ := within
  induction front with
  | nil => simp
  | cons first front ih =>
    by_cases last : front = []
    · subst last
      cases behind with
      | nil => simp
      | cons next behind => simp [List.intercalate_cons_of_ne_nil]
    · rw [List.cons_append, List.intercalate_cons_of_ne_nil last,
        List.intercalate_cons_of_ne_nil (by simp [last])]
      simpa using ih

namespace FileTree

/-- The part of an accepted path is accepted. -/
theorem checkPath_of_prefix {start : PathStart} {front names : List Text}
    (within : front <+: names) (checked : checkPath ⟨start, names⟩ = .ok ()) :
    checkPath ⟨start, front⟩ = .ok () := by
  rw [checkPath_eq_ok_iff] at checked ⊢
  by_cases dot : start = .current ∧ front = []
  · simp [Path.toText, dot, Text.byteSize, pathLimit]
    decide
  · have whole : ¬ (start = .current ∧ names = []) := by
      rintro ⟨current, rfl⟩
      exact dot ⟨current, List.prefix_nil.1 within⟩
    simp only [Path.toText, if_neg dot, if_neg whole] at checked ⊢
    obtain ⟨behind, same⟩ := Text.intercalate_prefix ['/'] within
    rw [← same, ← List.append_assoc, Text.byteSize_append] at checked
    obtain ⟨pure, short⟩ := checked
    exact ⟨fun null => pure (List.mem_append_left _ null), Nat.lt_of_add_right_lt short⟩

/-- Everything is there for the folders on the way to a path to be made. -/
structure Passable (tree : FileTree) (path : Path) : Prop where
  begins : tree.get? (tree.startOf path) = some .folder
  plain : parentName ∉ path.names
  short : ∀ name ∈ path.names, name.byteSize ≤ nameLimit
  accepted : checkPath path = .ok ()
  noFile : ∀ place content, tree.OnTheWay path place → tree.get? place ≠ some (.file content)

/-- The way to a part of a passable path is passable. -/
theorem Passable.of_prefix {tree : FileTree} {start : PathStart} {front names : List Text}
    (passable : tree.Passable ⟨start, names⟩) (within : front <+: names) :
    tree.Passable ⟨start, front⟩ where
  begins := passable.begins
  plain := fun back => passable.plain (within.subset back)
  short := fun name member => passable.short name (within.subset member)
  accepted := checkPath_of_prefix within passable.accepted
  noFile := fun place content on => passable.noFile place content (on.of_prefix within)

end FileTree

end PhraseAudit
