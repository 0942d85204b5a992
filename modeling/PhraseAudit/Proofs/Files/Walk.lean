import PhraseAudit.Files.Change

/-!
# Where paths lead

A walk along some names can only end where the names lead when nothing is asked of the tree. It
passes through folders alone, so that it ends in the same place in every tree that has these folders
too, whatever happened to the files in between. A path that ends in a proper name leads to an entry
exactly when it has a slot and the entry stands there.
-/

namespace PhraseAudit

/-- Where some names lead from a place, whatever stands there. -/
def Place.follow (place : Place) (names : List Text) : Place :=
  names.foldl (fun place name => if name = parentName then place.dropLast else place ++ [name]) place

/-- Following names is following one part of them after the other. -/
theorem Place.follow_append (place : Place) (front behind : List Text) :
    Place.follow place (front ++ behind) = Place.follow (Place.follow place front) behind :=
  List.foldl_append

namespace FileTree

/-- Where a path leads, whatever stands there. -/
def placeOf (tree : FileTree) (path : Path) : Place :=
  Place.follow (tree.startOf path) path.names

/-- A path is accepted exactly when it holds no null byte and is not too long. -/
theorem checkPath_eq_ok_iff {path : Path} :
    checkPath path = .ok () ↔ '\x00' ∉ path.toText ∧ path.toText.byteSize < pathLimit := by
  unfold checkPath
  by_cases null : '\x00' ∈ path.toText
  · simp [null]
  · by_cases long : pathLimit ≤ path.toText.byteSize
    · simp [null, long]
    · simp [null, long, Nat.lt_of_not_le long]

/-- A walk begins in a folder, and its first name leads back or to an entry of that folder. -/
theorem walk_cons_eq_ok_iff (tree : FileTree) (place stop : Place) (name : Text)
    (names : List Text) :
    tree.walk place (name :: names) = .ok stop ↔ tree.get? place = some .folder ∧
      ((name = parentName ∧ tree.walk place.dropLast names = .ok stop) ∨
        (name ≠ parentName ∧ name.byteSize ≤ nameLimit ∧ tree.get? (place ++ [name]) ≠ none ∧
          tree.walk (place ++ [name]) names = .ok stop)) := by
  rw [walk]
  cases tree.get? place with
  | none => simp
  | some entry =>
    cases entry with
    | file content => simp
    | folder =>
      by_cases back : name = parentName
      · simp [back]
      · by_cases long : nameLimit < name.byteSize
        · simp [back, long, Nat.not_le_of_lt long]
        · cases tree.get? (place ++ [name]) with
          | none => simp [back, long]
          | some next => simp [back, long, Nat.le_of_not_lt long]

/-- A walk along two lists of names is a walk along the second from the end of the first. -/
theorem walk_append (tree : FileTree) (place : Place) (front behind : List Text) :
    tree.walk place (front ++ behind) =
      (tree.walk place front).bind fun middle => tree.walk middle behind := by
  induction front generalizing place with
  | nil => rfl
  | cons name front ih =>
    rw [List.cons_append, walk, walk]
    cases tree.get? place with
    | none => rfl
    | some entry =>
      cases entry with
      | file content => rfl
      | folder =>
        by_cases back : name = parentName
        · simp [back, ih]
        · by_cases long : nameLimit < name.byteSize
          · simp [back, long, Except.bind]
          · cases tree.get? (place ++ [name]) with
            | none => simp [back, long, Except.bind]
            | some next => simp [back, long, ih]

/-- A walk ends where its names lead. -/
theorem eq_follow_of_walk {tree : FileTree} {place stop : Place} {names : List Text}
    (ends : tree.walk place names = .ok stop) : stop = Place.follow place names := by
  induction names generalizing place with
  | nil => exact (Except.ok.inj ends).symm
  | cons name names ih =>
    rw [Place.follow, List.foldl_cons]
    obtain ⟨_, ⟨back, rest⟩ | ⟨proper, _, _, rest⟩⟩ := (walk_cons_eq_ok_iff _ _ _ _ _).1 ends
    · rw [if_pos back]
      exact ih rest
    · rw [if_neg proper]
      exact ih rest

/-- A walk that ends in a folder begins in one. -/
theorem folder_of_walk {tree : FileTree} {place stop : Place} {names : List Text}
    (ends : tree.walk place names = .ok stop) (folder : tree.get? stop = some .folder) :
    tree.get? place = some .folder := by
  cases names with
  | nil => exact (Except.ok.inj ends) ▸ folder
  | cons name names => exact ((walk_cons_eq_ok_iff _ _ _ _ _).1 ends).1

/-- One tree has all the folders of another. -/
def KeepsFolders (before after : FileTree) : Prop :=
  ∀ place, before.get? place = some .folder → after.get? place = some .folder

/-- A walk to a folder goes the same way in every tree that has the folders too. -/
theorem walk_of_keepsFolders {before after : FileTree} (keeps : KeepsFolders before after)
    {place stop : Place} {names : List Text} (ends : before.walk place names = .ok stop)
    (folder : before.get? stop = some .folder) : after.walk place names = .ok stop := by
  induction names generalizing place with
  | nil => exact ends
  | cons name names ih =>
    obtain ⟨begins, way⟩ := (walk_cons_eq_ok_iff _ _ _ _ _).1 ends
    refine (walk_cons_eq_ok_iff _ _ _ _ _).2 ⟨keeps place begins, ?_⟩
    rcases way with ⟨back, rest⟩ | ⟨proper, short, _, rest⟩
    · exact .inl ⟨back, ih rest⟩
    · have next := keeps _ (folder_of_walk rest folder)
      exact .inr ⟨proper, short, by simp [next], ih rest⟩

/-- A path has a slot exactly when its last name is proper and fits, and the names above it lead to
a folder. -/
theorem slot_eq_some_iff (tree : FileTree) {path : Path} {above : List Text} {name : Text}
    (names : path.names = above ++ [name]) (place : Place) :
    tree.slot path = .ok (some place) ↔ checkPath path = .ok () ∧
      name ≠ parentName ∧ name.byteSize ≤ nameLimit ∧
      ∃ folder, tree.walk (tree.startOf path) above = .ok folder ∧
        tree.get? folder = some .folder ∧ place = folder ++ [name] := by
  have last : path.names.getLast? = some name := by simp [names]
  have others : path.names.dropLast = above := by simp [names]
  unfold slot
  rw [last, others]
  cases checkPath path with
  | error fault => simp [bind, Except.bind]
  | ok checked =>
    cases walked : tree.walk (tree.startOf path) above with
    | error fault => simp [bind, Except.bind]
    | ok folder =>
      cases there : tree.get? folder with
      | none => simp [bind, Except.bind, there]
      | some entry =>
        cases entry with
        | file content => simp [bind, Except.bind, there]
        | folder =>
          by_cases back : name = parentName
          · simp [bind, Except.bind, there, back]
          · by_cases long : nameLimit < name.byteSize
            · simp [bind, Except.bind, there, back, long, Nat.not_le_of_lt long]
            · simp [bind, Except.bind, there, back, long, Nat.le_of_not_lt long, eq_comm]

/-- A path that has a slot has a last name. -/
theorem exists_last_of_slot {tree : FileTree} {path : Path} {place : Place}
    (slot : tree.slot path = .ok (some place)) :
    ∃ above name, path.names = above ++ [name] := by
  cases last : path.names.getLast? with
  | some name =>
    obtain ⟨above, names⟩ := List.getLast?_eq_some_iff.1 last
    exact ⟨above, name, names⟩
  | none =>
    unfold FileTree.slot at slot
    rw [last] at slot
    cases checked : checkPath path <;> simp [checked, bind, Except.bind] at slot

/-- The slot of a path is where the path leads. -/
theorem eq_placeOf_of_slot {tree : FileTree} {path : Path} {place : Place}
    (slot : tree.slot path = .ok (some place)) : place = tree.placeOf path := by
  obtain ⟨above, name, names⟩ := exists_last_of_slot slot
  obtain ⟨_, proper, _, folder, walked, _, rfl⟩ := (tree.slot_eq_some_iff names place).1 slot
  rw [placeOf, names, Place.follow_append, ← eq_follow_of_walk walked]
  simp [Place.follow, proper]

/-- Where a path leads depends on the current folder of the tree only. -/
theorem placeOf_of_current {before after : FileTree} (current : after.current = before.current)
    (path : Path) : after.placeOf path = before.placeOf path := by
  rw [placeOf, placeOf, startOf, startOf, current]

/-- A slot is never the root. -/
theorem ne_nil_of_slot {tree : FileTree} {path : Path} {place : Place}
    (slot : tree.slot path = .ok (some place)) : place ≠ [] := by
  obtain ⟨above, name, names⟩ := exists_last_of_slot slot
  obtain ⟨_, _, _, folder, _, _, rfl⟩ := (tree.slot_eq_some_iff names place).1 slot
  simp

/-- A slot is a place in a folder. -/
theorem folder_of_slot {tree : FileTree} {path : Path} {place : Place}
    (slot : tree.slot path = .ok (some place)) : tree.get? place.dropLast = some .folder := by
  obtain ⟨above, name, names⟩ := exists_last_of_slot slot
  obtain ⟨_, _, _, folder, _, there, rfl⟩ := (tree.slot_eq_some_iff names place).1 slot
  rwa [List.dropLast_concat]

/-- A path keeps its slot in every tree that has the folders too, and begins in the same place. -/
theorem slot_of_keepsFolders {before after : FileTree} (keeps : KeepsFolders before after)
    (current : after.current = before.current) {path : Path} {place : Place}
    (slot : before.slot path = .ok (some place)) : after.slot path = .ok (some place) := by
  obtain ⟨above, name, names⟩ := exists_last_of_slot slot
  obtain ⟨checked, proper, short, folder, walked, there, rfl⟩ :=
    (before.slot_eq_some_iff names place).1 slot
  have begins : after.startOf path = before.startOf path := by
    rw [startOf, startOf, current]
  refine (after.slot_eq_some_iff names _).2 ⟨checked, proper, short, folder, ?_, keeps _ there, rfl⟩
  rw [begins]
  exact walk_of_keepsFolders keeps walked there

/-- A path leads to an entry exactly when its names lead to the place of the entry. -/
theorem find_eq_ok_iff (tree : FileTree) (path : Path) (entry : Entry) :
    tree.find path = .ok entry ↔ checkPath path = .ok () ∧
      ∃ place, tree.walk (tree.startOf path) path.names = .ok place ∧
        tree.get? place = some entry := by
  unfold find resolve
  cases checkPath path with
  | error fault => simp [bind, Except.bind]
  | ok checked =>
    cases tree.walk (tree.startOf path) path.names with
    | error fault => simp [bind, Except.bind]
    | ok place => cases there : tree.get? place <;> simp [bind, Except.bind, there]

/-- A path that ends in a proper name leads to an entry exactly when the entry stands in its slot. -/
theorem find_eq_ok_iff_slot (tree : FileTree) {path : Path} {above : List Text} {name : Text}
    (names : path.names = above ++ [name]) (proper : name ≠ parentName) (entry : Entry) :
    tree.find path = .ok entry ↔
      ∃ place, tree.slot path = .ok (some place) ∧ tree.get? place = some entry := by
  rw [find_eq_ok_iff, names]
  simp only [tree.slot_eq_some_iff names]
  constructor
  · rintro ⟨checked, place, ends, stands⟩
    rw [walk_append] at ends
    cases walked : tree.walk (tree.startOf path) above with
    | error fault =>
      rw [walked] at ends
      cases ends
    | ok folder =>
      rw [walked] at ends
      obtain ⟨there, ⟨back, _⟩ | ⟨_, short, _, last⟩⟩ := (walk_cons_eq_ok_iff _ _ _ _ _).1 ends
      · exact absurd back proper
      · obtain rfl := Except.ok.inj last
        exact ⟨_, ⟨checked, proper, short, folder, rfl, there, rfl⟩, stands⟩
  · rintro ⟨place, ⟨checked, _, short, folder, walked, there, rfl⟩, stands⟩
    refine ⟨checked, folder ++ [name], ?_, stands⟩
    rw [walk_append, walked]
    exact (walk_cons_eq_ok_iff _ _ _ _ _).2
      ⟨there, .inr ⟨proper, short, by simp [stands], rfl⟩⟩

/-- A path whose slot is free leads nowhere. -/
theorem find_of_free_slot {tree : FileTree} {path : Path} {place : Place}
    (slot : tree.slot path = .ok (some place)) (free : tree.get? place = none) :
    tree.find path = .error .notFound := by
  obtain ⟨above, name, names⟩ := exists_last_of_slot slot
  obtain ⟨checked, proper, short, folder, walked, there, rfl⟩ :=
    (tree.slot_eq_some_iff names place).1 slot
  have stuck : tree.walk (tree.startOf path) path.names = .error .notFound := by
    rw [names, walk_append, walked]
    simp [Except.bind, walk, there, proper, Nat.not_lt_of_le short, free]
  simp [find, resolve, checked, stuck, bind, Except.bind]

/-- Whatever a walk to a folder passes through is a folder. -/
theorem folder_of_walk_append {tree : FileTree} {place stop : Place} {front behind : List Text}
    (ends : tree.walk place (front ++ behind) = .ok stop)
    (folder : tree.get? stop = some .folder) :
    tree.get? (Place.follow place front) = some .folder := by
  rw [walk_append] at ends
  cases walked : tree.walk place front with
  | error fault =>
    rw [walked] at ends
    cases ends
  | ok middle =>
    rw [walked] at ends
    rw [← eq_follow_of_walk walked]
    exact folder_of_walk ends folder

/-! ## Insertions and erasures -/

/-- An insertion away from the root, seen at any place. -/
theorem get?_insert_of_ne_nil (tree : FileTree) {place : Place} (proper : place ≠ [])
    (entry : Entry) (other : Place) :
    (tree.insert place entry).get? other =
      if other = place then some entry else tree.get? other := by
  by_cases root : other = []
  · subst root
    rw [if_neg (Ne.symm proper)]
    rfl
  · exact tree.get?_insert place other entry root

/-- An erasure away from the root, seen at any place. -/
theorem get?_erase_of_ne_nil (tree : FileTree) {place : Place} (proper : place ≠ [])
    (other : Place) :
    (tree.erase place).get? other = if other = place then none else tree.get? other := by
  by_cases root : other = []
  · subst root
    rw [if_neg (Ne.symm proper)]
    rfl
  · exact tree.get?_erase place other root

/-- An insertion keeps the folders when none stands at its place. -/
theorem keepsFolders_insert {tree : FileTree} {place : Place} (proper : place ≠ [])
    (noFolder : tree.get? place ≠ some .folder) (entry : Entry) :
    KeepsFolders tree (tree.insert place entry) := by
  intro other folder
  rw [tree.get?_insert_of_ne_nil proper, if_neg, folder]
  rintro rfl
  exact noFolder folder

/-- An erasure keeps the folders when none stands at its place. -/
theorem keepsFolders_erase {tree : FileTree} {place : Place} (proper : place ≠ [])
    (noFolder : tree.get? place ≠ some .folder) : KeepsFolders tree (tree.erase place) := by
  intro other folder
  rw [tree.get?_erase_of_ne_nil proper, if_neg, folder]
  rintro rfl
  exact noFolder folder

end FileTree

end PhraseAudit
