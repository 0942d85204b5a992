import PhraseAudit.Proofs.Files.Rooted

/-!
# What file operations change

An operation that succeeds changes what stands at the slot of its path and nothing else. The making
of several folders may stop halfway, and even then every change is a folder at a place that was free
and that lies on the way to the path.
-/

namespace PhraseAudit.FileTree

/-! ## Single operations -/

/-- A folder is made exactly where the slot is free, and stands there afterwards. -/
theorem makeFolder_eq_ok_iff (tree : FileTree) (path : Path) (made : FileTree) :
    tree.makeFolder path = .ok made ↔ ∃ place, tree.slot path = .ok (some place) ∧
      tree.get? place = none ∧ made = tree.insert place .folder := by
  unfold makeFolder
  cases tree.slot path with
  | error fault => simp
  | ok slot =>
    cases slot with
    | none => simp
    | some place => cases there : tree.get? place <;> simp [there, eq_comm]

/-- A file is written exactly where no folder stands in the slot, and stands there afterwards. -/
theorem write_eq_ok_iff (tree : FileTree) (path : Path) (content : List UInt8)
    (written : FileTree) :
    tree.write path content = .ok written ↔ ∃ place, tree.slot path = .ok (some place) ∧
      tree.get? place ≠ some .folder ∧ written = tree.insert place (.file content) := by
  unfold write
  cases tree.slot path with
  | error fault => simp
  | ok slot =>
    cases slot with
    | none => simp
    | some place =>
      cases there : tree.get? place with
      | none => simp [there, eq_comm]
      | some entry => cases entry <;> simp [there, eq_comm]

/-- A file is removed exactly where it stands in the slot. -/
theorem remove_eq_ok_iff (tree : FileTree) (path : Path) (cleared : FileTree) :
    tree.remove path = .ok cleared ↔ ∃ place content, tree.slot path = .ok (some place) ∧
      tree.get? place = some (.file content) ∧ cleared = tree.erase place := by
  unfold remove
  cases tree.slot path with
  | error fault => simp
  | ok slot =>
    cases slot with
    | none => simp
    | some place =>
      cases there : tree.get? place with
      | none => simp [there]
      | some entry => cases entry <;> simp [there, eq_comm]

/-- A file is moved exactly where it stands in the one slot and no folder stands in the other. -/
theorem move_eq_ok_iff (tree : FileTree) (path target : Path) (moved : FileTree) :
    tree.move path target = .ok moved ↔ ∃ source goal content,
      tree.slot path = .ok (some source) ∧ tree.slot target = .ok (some goal) ∧
      tree.get? source = some (.file content) ∧ tree.get? goal ≠ some .folder ∧
      moved = (tree.erase source).insert goal (.file content) := by
  unfold move
  cases tree.slot path with
  | error fault => simp
  | ok first =>
    cases tree.slot target with
    | error fault => cases first <;> simp
    | ok second =>
      cases first with
      | none => cases second <;> simp
      | some source =>
        cases second with
        | none => simp
        | some goal =>
          cases there : tree.get? source with
          | none => simp [there]
          | some entry =>
            cases entry with
            | folder => simp [there]
            | file content =>
              cases onto : tree.get? goal with
              | none => simp [there, onto, eq_comm]
              | some other => cases other <;> simp [there, onto, eq_comm]

/-! ## Failures -/

/-- A result that is a failure only with the given paths in its error: the one that was operated on
and, for a move, the other one. -/
def FailsOn {α : Type} (path : Path) (target : Option Path) (result : Except FileError α) : Prop :=
  ∀ error, result = .error error → error.path = path ∧ error.target = target

/-- A folder that cannot be made is named by the error. -/
theorem makeFolder_failsOn (tree : FileTree) (path : Path) :
    FailsOn path none (tree.makeFolder path) := by
  unfold makeFolder
  repeat' split
  all_goals simp +contextual [FailsOn]

/-- A file that cannot be written is named by the error. -/
theorem write_failsOn (tree : FileTree) (path : Path) (content : List UInt8) :
    FailsOn path none (tree.write path content) := by
  unfold write
  repeat' split
  all_goals simp +contextual [FailsOn]

/-- A file that cannot be removed is named by the error. -/
theorem remove_failsOn (tree : FileTree) (path : Path) :
    FailsOn path none (tree.remove path) := by
  unfold remove
  repeat' split
  all_goals simp +contextual [FailsOn]

/-- A file that cannot be moved is named by the error, together with where it should have gone. -/
theorem move_failsOn (tree : FileTree) (path target : Path) :
    FailsOn path (some target) (tree.move path target) := by
  unfold move
  repeat' split
  all_goals simp +contextual [FailsOn]

/-- A path that cannot be asked about is named by the error. -/
theorem whether_failsOn (path : Path) (holds : Entry → Bool) (found : Except PathFault Entry) :
    FailsOn path none (whether path holds found) := by
  unfold whether
  split
  all_goals simp +contextual [FailsOn]

/-! ## The tree after a change -/

section

variable {tree written moved : FileTree} {path target : Path} {content : List UInt8}

/-- A written tree has the new file where its path leads, and is otherwise the old one. -/
theorem get?_written (opened : tree.write path content = .ok written) (place : Place) :
    written.get? place =
      if place = tree.placeOf path then some (.file content) else tree.get? place := by
  obtain ⟨own, slot, _, rfl⟩ := (tree.write_eq_ok_iff path content written).1 opened
  obtain rfl := eq_placeOf_of_slot slot
  exact tree.get?_insert_of_ne_nil (ne_nil_of_slot slot) _ place

/-- Writing keeps the current folder and all the folders. -/
theorem keepsFolders_written (opened : tree.write path content = .ok written) :
    written.current = tree.current ∧ KeepsFolders tree written := by
  obtain ⟨own, slot, noFolder, rfl⟩ := (tree.write_eq_ok_iff path content written).1 opened
  exact ⟨rfl, keepsFolders_insert (ne_nil_of_slot slot) noFolder _⟩

/-- A written file stands in its slot. -/
theorem slot_written (opened : tree.write path content = .ok written) :
    written.slot path = .ok (some (tree.placeOf path)) := by
  obtain ⟨own, slot, _, _⟩ := (tree.write_eq_ok_iff path content written).1 opened
  obtain rfl := eq_placeOf_of_slot slot
  obtain ⟨current, keeps⟩ := keepsFolders_written opened
  exact slot_of_keepsFolders keeps current slot

/-- A file that was written can be written again, and what was written first is not seen then. -/
theorem write_written (opened : tree.write path content = .ok written) (other : List UInt8) :
    written.write path other = tree.write path other := by
  obtain ⟨place, slot, noFolder, rfl⟩ := (tree.write_eq_ok_iff path content written).1 opened
  have again := slot_written opened
  rw [← eq_placeOf_of_slot slot] at again
  have proper := ne_nil_of_slot slot
  have stands : (tree.insert place (.file content)).get? place ≠ some .folder := by
    rw [get?_insert_of_ne_nil _ proper, if_pos rfl]
    simp
  have first := (tree.write_eq_ok_iff path other _).2 ⟨place, slot, noFolder, rfl⟩
  have second := (FileTree.write_eq_ok_iff _ path other _).2 ⟨place, again, stands, rfl⟩
  rw [first, second, insert_insert]

/-- Writing leaves no gap. -/
theorem rooted_written (rooted : tree.Rooted) (opened : tree.write path content = .ok written) :
    written.Rooted := by
  obtain ⟨place, slot, noFolder, rfl⟩ := (tree.write_eq_ok_iff path content written).1 opened
  have proper := ne_nil_of_slot slot
  apply rooted.insert proper (folder_of_slot slot)
  exact keepsFolders_insert proper noFolder _

/-- A moved tree has the file where the one path leads and not where the other does, and is
otherwise the old one. -/
theorem get?_moved (moves : tree.move path target = .ok moved) :
    ∃ content, tree.get? (tree.placeOf path) = some (.file content) ∧
      ∀ place, moved.get? place =
        if place = tree.placeOf target then some (.file content)
        else if place = tree.placeOf path then none else tree.get? place := by
  obtain ⟨source, goal, content, slot, goalSlot, stands, _, rfl⟩ :=
    (tree.move_eq_ok_iff path target moved).1 moves
  obtain rfl := eq_placeOf_of_slot slot
  obtain rfl := eq_placeOf_of_slot goalSlot
  refine ⟨content, stands, ?_⟩
  intro place
  rw [get?_insert_of_ne_nil _ (ne_nil_of_slot goalSlot),
    tree.get?_erase_of_ne_nil (ne_nil_of_slot slot)]

/-- Moving keeps the current folder and all the folders. -/
theorem keepsFolders_moved (moves : tree.move path target = .ok moved) :
    moved.current = tree.current ∧ KeepsFolders tree moved := by
  obtain ⟨source, goal, content, slot, goalSlot, stands, noFolder, rfl⟩ :=
    (tree.move_eq_ok_iff path target moved).1 moves
  constructor
  · rfl
  · intro place folder
    have kept := keepsFolders_erase (ne_nil_of_slot slot) (by simp [stands]) place folder
    rw [get?_insert_of_ne_nil _ (ne_nil_of_slot goalSlot), if_neg, kept]
    rintro rfl
    exact noFolder folder

/-- Moving leaves no gap. -/
theorem rooted_moved (rooted : tree.Rooted) (moves : tree.move path target = .ok moved) :
    moved.Rooted := by
  obtain ⟨source, goal, content, slot, goalSlot, stands, noFolder, rfl⟩ :=
    (tree.move_eq_ok_iff path target moved).1 moves
  have proper := ne_nil_of_slot slot
  have noSource : tree.get? source ≠ some .folder := by simp [stands]
  have keeps := keepsFolders_erase proper noSource
  apply (rooted.erase proper noSource).insert (ne_nil_of_slot goalSlot)
  · exact keeps _ (folder_of_slot goalSlot)
  · apply keepsFolders_insert (ne_nil_of_slot goalSlot)
    rw [tree.get?_erase_of_ne_nil proper]
    split
    · simp
    · exact noFolder

/-- Where the two paths of a move lead, files can stand. -/
theorem slots_moved (moves : tree.move path target = .ok moved) :
    moved.slot path = .ok (some (tree.placeOf path)) ∧
      moved.slot target = .ok (some (tree.placeOf target)) := by
  obtain ⟨source, goal, content, slot, goalSlot, _⟩ :=
    (tree.move_eq_ok_iff path target moved).1 moves
  obtain rfl := eq_placeOf_of_slot slot
  obtain rfl := eq_placeOf_of_slot goalSlot
  obtain ⟨current, keeps⟩ := keepsFolders_moved moves
  exact ⟨slot_of_keepsFolders keeps current slot, slot_of_keepsFolders keeps current goalSlot⟩

end

/-! ## New folders -/

/-- One tree has come from another by making folders at free places, all of them of some kind, and
without leaving gaps. -/
structure Grown (allowed : Place → Prop) (before after : FileTree) : Prop where
  current : after.current = before.current
  rooted : before.Rooted → after.Rooted
  get? : ∀ place, after.get? place = before.get? place ∨
    (before.get? place = none ∧ after.get? place = some .folder ∧ allowed place)

variable {allowed : Place → Prop} {before middle after : FileTree}

/-- A tree that is left as it is has grown by nothing. -/
theorem Grown.refl (allowed : Place → Prop) (tree : FileTree) : Grown allowed tree tree :=
  ⟨rfl, id, fun _ => .inl rfl⟩

/-- What has grown twice has grown by all the new folders. -/
theorem Grown.trans (first : Grown allowed before middle) (second : Grown allowed middle after) :
    Grown allowed before after := by
  constructor
  · exact second.current.trans first.current
  · exact second.rooted ∘ first.rooted
  · intro place
    rcases second.get? place with same | ⟨free, folder, new⟩
    · rw [same]
      exact first.get? place
    · rcases first.get? place with same | ⟨_, taken, _⟩
      · exact .inr ⟨same.symm.trans free, folder, new⟩
      · rw [taken] at free
        cases free

/-- The kind of the new folders may be widened. -/
theorem Grown.mono {wider : Place → Prop} (widens : ∀ place, allowed place → wider place)
    (grown : Grown allowed before after) : Grown wider before after :=
  ⟨grown.current, grown.rooted, fun place => (grown.get? place).imp_right
    fun ⟨free, folder, new⟩ => ⟨free, folder, widens place new⟩⟩

/-- Growing neither makes nor changes nor removes a regular file. -/
theorem Grown.file_iff (grown : Grown allowed before after) (place : Place)
    (content : List UInt8) :
    after.get? place = some (.file content) ↔ before.get? place = some (.file content) := by
  rcases grown.get? place with same | ⟨free, folder, _⟩
  · rw [same]
  · simp [free, folder]

/-- A step that makes folders, perhaps only some of those it should have made, and whose failure
names no second path. -/
def MakesFolders (allowed : Place → Prop) (tree : FileTree)
    (step : Except FileError Unit × FileTree) : Prop :=
  Grown allowed tree step.2 ∧ ∀ error, step.1 = .error error → error.target = none

/-- A folder that is made is made where its path leads. -/
theorem grown_of_makeFolder {tree made : FileTree} {path : Path}
    (makes : tree.makeFolder path = .ok made) : Grown (· = tree.placeOf path) tree made := by
  obtain ⟨place, slot, free, rfl⟩ := (tree.makeFolder_eq_ok_iff path made).1 makes
  have proper := ne_nil_of_slot slot
  constructor
  · rfl
  · intro rooted
    apply rooted.insert proper (folder_of_slot slot)
    exact keepsFolders_insert proper (by simp [free]) _
  · intro other
    rw [tree.get?_insert_of_ne_nil proper]
    by_cases here : other = place
    · subst here
      exact .inr ⟨free, if_pos rfl, eq_placeOf_of_slot slot⟩
    · exact .inl (if_neg here)

/-- Letting a failure pass, or not, brings in no second path. -/
theorem makesFolders_acceptFolder {tree : FileTree} {path : Path} {error : FileError}
    (fails : tree.makeFolder path = .error error) :
    MakesFolders allowed tree (tree.acceptFolder path error, tree) := by
  have own := (tree.makeFolder_failsOn path error fails).2
  constructor
  · exact .refl allowed tree
  · intro other ends
    simp only [acceptFolder] at ends
    split at ends
    · cases ends
      exact own
    · split at ends
      · cases ends
      · cases ends
        exact own
      · rename_i asked
        cases ends
        exact (whether_failsOn path _ _ other asked).2

/-- Making one folder, unless it is there, makes at most that folder. -/
theorem makesFolders_ensureFolder (tree : FileTree) (path : Path) :
    MakesFolders (· = tree.placeOf path) tree (tree.ensureFolder path) := by
  unfold ensureFolder
  cases makes : tree.makeFolder path with
  | ok made => exact ⟨grown_of_makeFolder makes, by simp⟩
  | error error =>
    have own := (tree.makeFolder_failsOn path error makes).2
    by_cases missing : error.fault = .notFound
    · simp only [missing, if_true]
      constructor
      · exact .refl _ tree
      · simpa using own
    · simp only [missing, if_false]
      apply makesFolders_acceptFolder makes

/-- The places that a path leads through, its own end included. -/
def OnTheWay (tree : FileTree) (path : Path) (place : Place) : Prop :=
  ∃ names, names <+: path.names ∧ place = tree.placeOf ⟨path.start, names⟩

/-- A path ends on its own way. -/
theorem onTheWay_placeOf (tree : FileTree) (path : Path) :
    tree.OnTheWay path (tree.placeOf path) :=
  ⟨path.names, List.prefix_rfl, rfl⟩

/-- The way to a part of a path belongs to the way to the whole path. -/
theorem OnTheWay.of_prefix {tree : FileTree} {start : PathStart} {part names : List Text}
    (within : part <+: names) {place : Place} (on : tree.OnTheWay ⟨start, part⟩ place) :
    tree.OnTheWay ⟨start, names⟩ place := by
  obtain ⟨front, before, leads⟩ := on
  exact ⟨front, before.trans within, leads⟩

/-- Making the missing folders above a path makes folders on its way only, however far it gets. -/
theorem makesFolders_ensureAbove (tree : FileTree) (start : PathStart) (reversed : List Text) :
    MakesFolders (tree.OnTheWay ⟨start, reversed.reverse⟩) tree
      (tree.ensureAbove start reversed) := by
  have ends (path : Path) : ∀ place, place = tree.placeOf path → tree.OnTheWay path place := by
    rintro place rfl
    exact tree.onTheWay_placeOf path
  induction reversed with
  | nil =>
    obtain ⟨grown, fails⟩ := makesFolders_ensureFolder tree ⟨start, []⟩
    exact ⟨grown.mono (ends _), fails⟩
  | cons name above ih =>
    simp only [ensureAbove]
    cases makes : tree.makeFolder ⟨start, (name :: above).reverse⟩ with
    | ok made => exact ⟨(grown_of_makeFolder makes).mono (ends _), by simp⟩
    | error error =>
      by_cases missing : error.fault = .notFound
      · simp only [missing, if_true]
        obtain ⟨grown, fails⟩ := ih
        have within : above.reverse <+: (name :: above).reverse := by simp
        have wider := grown.mono fun _ on => OnTheWay.of_prefix within on
        generalize tree.ensureAbove start above = step at grown fails wider
        obtain ⟨outcome, made⟩ := step
        cases outcome with
        | error other => exact ⟨wider, fails⟩
        | ok done =>
          obtain ⟨last, lastFails⟩ :=
            makesFolders_ensureFolder made ⟨start, (name :: above).reverse⟩
          rw [placeOf_of_current grown.current] at last
          exact ⟨wider.trans (last.mono (ends _)), lastFails⟩
      · simp only [missing, if_false]
        apply makesFolders_acceptFolder makes

/-- Making a folder and the missing ones above it makes folders on the way only. -/
theorem makesFolders_ensureFolders (tree : FileTree) (path : Path) :
    MakesFolders (tree.OnTheWay path) tree (tree.ensureFolders path) := by
  have made := makesFolders_ensureAbove tree path.start path.names.reverse
  rwa [List.reverse_reverse] at made

end PhraseAudit.FileTree
