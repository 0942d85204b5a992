import PhraseAudit.Text.Basic

/-!
# File trees

A tree of folders and regular files, as far as a run can read and change it. It is kept as a list of
entries by their places. What stands at a place is the one view of a tree: an insertion and an
erasure change it at their own place only.
-/

namespace PhraseAudit

/-- What stands at a place of a tree. -/
inductive Entry where
  | file (content : List UInt8)
  | folder
deriving Repr, DecidableEq

/-- Whether an entry is a regular file. -/
def Entry.isFile : Entry → Bool
  | .file _ => true
  | .folder => false

/-- A place of a tree: the names on the way to it from the root. -/
abbrev Place := List Text

/-- A tree: its entries by their places, and the current folder. The root is always a folder. -/
structure FileTree where
  entries : List (Place × Entry)
  current : Place
deriving Repr, DecidableEq

namespace FileTree

/-- What stands at a place. -/
def get? (tree : FileTree) (place : Place) : Option Entry :=
  if place = [] then some .folder else tree.entries.lookup place

/-- The tree without the entry at a place. -/
def erase (tree : FileTree) (place : Place) : FileTree :=
  { tree with entries := tree.entries.filter fun pair => pair.1 != place }

/-- The tree with an entry at a place, in place of what stood there. -/
def insert (tree : FileTree) (place : Place) (entry : Entry) : FileTree :=
  { tree with entries := (place, entry) :: (tree.erase place).entries }

/-- Looking up a place in a list of entries without those of another place. -/
theorem lookup_filter (entries : List (Place × Entry)) (place other : Place) :
    (entries.filter fun pair => pair.1 != place).lookup other =
      if other = place then none else entries.lookup other := by
  induction entries with
  | nil => simp
  | cons pair rest ih =>
    obtain ⟨stored, entry⟩ := pair
    by_cases here : stored = place
    · rw [List.filter_cons_of_neg (by simp [here]), ih]
      by_cases same : other = place
      · rw [if_pos same, if_pos same]
      · have different : (other == stored) = false := beq_false_of_ne fun equal =>
          same (equal.trans here)
        rw [if_neg same, if_neg same, List.lookup_cons, different]
    · rw [List.filter_cons_of_pos (by simp [here]), List.lookup_cons, List.lookup_cons, ih]
      by_cases found : other = stored
      · have different : other ≠ place := fun equal => here (found.symm.trans equal)
        rw [if_neg different, if_neg different]
      · have missed : (other == stored) = false := beq_false_of_ne found
        simp only [missed]

/-- What is erased is gone, and nothing else is. -/
theorem get?_erase (tree : FileTree) (place other : Place) (proper : other ≠ []) :
    (tree.erase place).get? other = if other = place then none else tree.get? other := by
  rw [get?, get?, if_neg proper, if_neg proper]
  exact lookup_filter tree.entries place other

/-- An inserted entry stands at its place, and everything else stands where it stood. -/
theorem get?_insert (tree : FileTree) (place other : Place) (entry : Entry) (proper : other ≠ []) :
    (tree.insert place entry).get? other =
      if other = place then some entry else tree.get? other := by
  have rest := get?_erase tree place other proper
  rw [get?, if_neg proper] at rest
  rw [get?, if_neg proper, insert, List.lookup_cons, rest]
  by_cases same : other = place
  · rw [beq_iff_eq.2 same, if_pos same, if_pos same]
  · rw [beq_false_of_ne same, if_neg same, if_neg same]

/-- Of two entries that are inserted at one place the second one stays. -/
theorem insert_insert (tree : FileTree) (place : Place) (first second : Entry) :
    (tree.insert place first).insert place second = tree.insert place second := by
  simp [insert, erase]

end FileTree

end PhraseAudit
