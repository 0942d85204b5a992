import PhraseAudit.Proofs.Files.Walk

/-!
# Names and paths that are too long

A question about a path is answered by yes or no, except where something on it is too long: the path
as a whole, or a name that is reached in a folder. A name behind something that is missing or is no
folder is never reached, so that its length does not matter.
-/

namespace PhraseAudit.FileTree

/-- Going along some names leads to a folder in front of a name that is too long for it. -/
def MeetsLongName (tree : FileTree) (place : Place) (names : List Text) : Prop :=
  ∃ front name behind folder, names = front ++ name :: behind ∧ nameLimit < name.byteSize ∧
    tree.walk place front = .ok folder ∧ tree.get? folder = some .folder

/-- A path is too long for a question when it is so as a whole, or when a name that is too long is
reached on it. A path with a null byte is never looked at. -/
def TooLong (tree : FileTree) (path : Path) : Prop :=
  '\x00' ∉ path.toText ∧
    (pathLimit ≤ path.toText.byteSize ∨ tree.MeetsLongName (tree.startOf path) path.names)

/-- The name that leads to the folder above is short. -/
theorem ne_parentName_of_long {name : Text} (long : nameLimit < name.byteSize) :
    name ≠ parentName := by
  rintro rfl
  exact absurd long (by decide)

/-- A long name is reached at once in a folder, or later on behind a name that can be passed. -/
theorem meetsLongName_cons_iff (tree : FileTree) (place : Place) (name : Text)
    (names : List Text) :
    tree.MeetsLongName place (name :: names) ↔ tree.get? place = some .folder ∧
      (nameLimit < name.byteSize ∨
        (name = parentName ∧ tree.MeetsLongName place.dropLast names) ∨
        (name ≠ parentName ∧ name.byteSize ≤ nameLimit ∧ tree.get? (place ++ [name]) ≠ none ∧
          tree.MeetsLongName (place ++ [name]) names)) := by
  constructor
  · rintro ⟨front, long, behind, folder, split, exceeds, walked, there⟩
    cases front with
    | nil =>
      obtain ⟨rfl, rfl⟩ := List.cons.inj split
      obtain rfl := Except.ok.inj walked
      exact ⟨there, .inl exceeds⟩
    | cons first front =>
      obtain ⟨rfl, rfl⟩ := List.cons.inj split
      obtain ⟨begins, way⟩ := (walk_cons_eq_ok_iff _ _ _ _ _).1 walked
      refine ⟨begins, .inr ?_⟩
      rcases way with ⟨back, rest⟩ | ⟨proper, short, passed, rest⟩
      · exact .inl ⟨back, front, long, behind, folder, rfl, exceeds, rest, there⟩
      · exact .inr ⟨proper, short, passed, front, long, behind, folder, rfl, exceeds, rest, there⟩
  · rintro ⟨begins, exceeds | ⟨back, later⟩ | ⟨proper, short, passed, later⟩⟩
    · exact ⟨[], name, names, place, rfl, exceeds, rfl, begins⟩
    · obtain ⟨front, long, behind, folder, rfl, exceeds, rest, there⟩ := later
      refine ⟨name :: front, long, behind, folder, rfl, exceeds, ?_, there⟩
      exact (walk_cons_eq_ok_iff _ _ _ _ _).2 ⟨begins, .inl ⟨back, rest⟩⟩
    · obtain ⟨front, long, behind, folder, rfl, exceeds, rest, there⟩ := later
      refine ⟨name :: front, long, behind, folder, rfl, exceeds, ?_, there⟩
      exact (walk_cons_eq_ok_iff _ _ _ _ _).2 ⟨begins, .inr ⟨proper, short, passed, rest⟩⟩

/-- A walk ends at a name that is too long exactly when it meets one. The induction is on the names,
each of which is passed, or ends the walk. -/
theorem walk_eq_nameTooLong_iff (tree : FileTree) (place : Place) (names : List Text) :
    tree.walk place names = .error .nameTooLong ↔ tree.MeetsLongName place names := by
  induction names generalizing place with
  | nil => simp [walk, MeetsLongName]
  | cons name names ih =>
    rw [meetsLongName_cons_iff, walk]
    cases tree.get? place with
    | none => simp
    | some entry =>
      cases entry with
      | file content => simp
      | folder =>
        by_cases back : name = parentName
        · have short : ¬ nameLimit < name.byteSize := fun long => ne_parentName_of_long long back
          simp [back, ih, back ▸ short]
        · by_cases long : nameLimit < name.byteSize
          · simp [back, long]
          · cases tree.get? (place ++ [name]) with
            | none => simp [back, long]
            | some next => simp [back, long, ih, Nat.le_of_not_lt long]

/-- A path leads to the fault of a length exactly when it is too long. -/
theorem find_eq_nameTooLong_iff (tree : FileTree) (path : Path) :
    tree.find path = .error .nameTooLong ↔ tree.TooLong path := by
  unfold find resolve TooLong checkPath
  by_cases null : '\x00' ∈ path.toText
  · simp [null, bind, Except.bind]
  · by_cases whole : pathLimit ≤ path.toText.byteSize
    · simp [null, whole, bind, Except.bind]
    · rw [← walk_eq_nameTooLong_iff]
      cases tree.walk (tree.startOf path) path.names with
      | error fault => simp [null, whole, bind, Except.bind]
      | ok place => cases there : tree.get? place <;> simp [null, whole, bind, Except.bind, there]

/-- A path leads to a regular file exactly when a content is found there. -/
theorem isFile_eq_true_iff (tree : FileTree) (path : Path) :
    tree.isFile path = .ok true ↔ ∃ content, tree.find path = .ok (.file content) := by
  unfold isFile whether
  cases tree.find path with
  | ok entry => cases entry <;> simp [Entry.isFile]
  | error fault => cases fault <;> simp

/-- Whether a path leads to a regular file is answered unless the path is too long. -/
theorem exists_isFile_eq_error_iff (tree : FileTree) (path : Path) :
    (∃ error, tree.isFile path = .error error) ↔ tree.TooLong path := by
  rw [← find_eq_nameTooLong_iff]
  unfold isFile whether
  cases tree.find path with
  | ok entry => simp
  | error fault => cases fault <;> simp

end PhraseAudit.FileTree
