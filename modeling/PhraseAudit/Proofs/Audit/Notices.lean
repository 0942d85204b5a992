import PhraseAudit.Auditor

/-!
# What an audit tells

An audit tells of its passes, of markers around nothing and of what it passes over. It never tells
of an error: an error is its result, and telling it is left to whoever asked for the audit.
-/

namespace PhraseAudit

/-- None of the notices is about an error. -/
def Notice.Calm (notices : List Notice) : Prop :=
  ∀ notice ∈ notices, notice.level ≠ .error

/-- Notices are calm together when they are calm one by one. -/
theorem Notice.calm_append {front behind : List Notice} (calm : Calm front)
    (calmToo : Calm behind) : Calm (front ++ behind) :=
  List.forall_mem_append.2 ⟨calm, calmToo⟩

namespace Gathered

/-- Gathering a marker tells of no error. -/
theorem calm_addMarker {gathered : Gathered} (calm : Notice.Calm gathered.notices)
    (marker : Marker) : Notice.Calm (gathered.addMarker marker).notices := by
  by_cases nothing : marker.phrase = []
  · simp only [addMarker, if_pos nothing]
    exact Notice.calm_append calm (by simp [Notice.Calm, Notice.level])
  · simpa only [addMarker, if_neg nothing] using calm

/-- Gathering markers one after the other tells of no error. -/
theorem calm_foldl_addMarker {gathered : Gathered} (calm : Notice.Calm gathered.notices)
    (markers : List Marker) : Notice.Calm (markers.foldl addMarker gathered).notices := by
  induction markers generalizing gathered with
  | nil => exact calm
  | cons marker rest ih => exact ih (calm_addMarker calm marker)

/-- Reading lines tells of no error, also if a line cannot be read to its end. -/
theorem calm_readLines {gathered : Gathered} (calm : Notice.Calm gathered.notices)
    (lines : List (Int × Text)) : Notice.Calm (gathered.readLines lines).1.notices := by
  induction lines generalizing gathered with
  | nil => exact calm
  | cons pair rest ih =>
    have begins : Notice.Calm gathered.addLine.notices := calm
    have here := calm_foldl_addMarker begins (Marker.ofLine pair.1 pair.2).1
    rw [readLines]
    cases reading : (Marker.ofLine pair.1 pair.2).2 with
    | some error => simpa [reading] using here
    | none => simpa [reading] using ih here

end Gathered

namespace Auditor

/-- The first pass tells of no error, however it ends. -/
theorem calm_collect (auditor : Auditor) (feed : Feed ReadError (Int × Text)) :
    Notice.Calm (auditor.collect feed).notices := by
  have silent : Notice.Calm Gathered.empty.notices := by simp [Notice.Calm, Gathered.empty]
  exact Gathered.calm_readLines silent feed.items

/-- The second pass tells of no error, whether it is made or not. -/
theorem calm_searchKnown (auditor : Auditor) (feed : Feed ReadError (Int × Text))
    (known : PhraseSet) : Notice.Calm (auditor.searchKnown feed known).notices := by
  unfold searchKnown search
  split
  · simp [Notice.Calm, Notice.level]
  · simp only
    split <;> simp [Notice.Calm, Notice.level]

/-- An audit tells of no error, however it ends. -/
theorem calm_run (auditor : Auditor) (codecs : Codecs) (tree : FileTree) (source : Path) :
    Notice.Calm (auditor.run codecs tree source).notices := by
  have first := auditor.calm_collect (Source.lines codecs tree auditor.encoding source)
  have begins : Notice.Calm [.collecting] := by simp [Notice.Calm, Notice.level]
  unfold run
  simp only
  split
  · exact Notice.calm_append begins first
  · refine Notice.calm_append (Notice.calm_append (Notice.calm_append begins first) ?_)
      (calm_searchKnown _ _ _)
    simp [Notice.Calm, Notice.level]

end Auditor

end PhraseAudit
