import PhraseAudit.Auditor

/-!
# What a first pass gathers

A first pass that reads some lines to their end has counted these lines and the markers on them, and
it has gathered the phrases that the markers wrap. The markers are those that the lines hold on their
own: `Marker.onLines` reads them without a pass.
-/

namespace PhraseAudit

/-- The markers on some numbered lines, those of each line as far as it can be read. -/
def Marker.onLines (lines : List (Int × Text)) : List Marker :=
  lines.flatMap fun pair => (Marker.ofLine pair.1 pair.2).1

namespace Gathered

/-- Markers are counted one by one, and no line with them. -/
theorem counts_foldl_addMarker (gathered : Gathered) (markers : List Marker) :
    (markers.foldl addMarker gathered).counts =
      ⟨gathered.counts.lines, gathered.counts.markers + markers.length⟩ := by
  induction markers generalizing gathered with
  | nil => rfl
  | cons marker rest ih =>
    rw [List.foldl_cons, ih, List.length_cons]
    simp only [addMarker, Nat.add_assoc, Nat.add_comm 1]

/-- What markers wrap is gathered, and nothing else. -/
theorem mem_phrases_foldl_addMarker (gathered : Gathered) (markers : List Marker) (text : Text) :
    text ∈ (markers.foldl addMarker gathered).phrases ↔
      text ∈ gathered.phrases ∨ text ∈ markers.map (·.phrase) := by
  induction markers generalizing gathered with
  | nil => simp
  | cons marker rest ih =>
    have first : text ∈ (gathered.addMarker marker).phrases ↔
        text = marker.phrase ∨ text ∈ gathered.phrases :=
      gathered.phrases.mem_insert marker.phrase text
    rw [List.foldl_cons, ih, first, List.map_cons, List.mem_cons, or_assoc, or_left_comm]

/-- A line that is read to its end leaves the lines behind it to be read. -/
theorem readLines_cons_of_complete {gathered : Gathered} {pair : Int × Text}
    {rest : List (Int × Text)} (complete : (gathered.readLines (pair :: rest)).2 = none) :
    gathered.readLines (pair :: rest) =
      ((Marker.ofLine pair.1 pair.2).1.foldl addMarker gathered.addLine).readLines rest := by
  obtain ⟨number, line⟩ := pair
  rw [readLines] at complete ⊢
  cases reading : Marker.ofLine number line with
  | mk markers failure =>
    rw [reading] at complete
    cases failure with
    | some error => cases complete
    | none => rfl

/-- Lines that are read to their end are counted, and so are the markers on them. -/
theorem counts_readLines {gathered : Gathered} {lines : List (Int × Text)}
    (complete : (gathered.readLines lines).2 = none) :
    (gathered.readLines lines).1.counts =
      ⟨gathered.counts.lines + lines.length,
        gathered.counts.markers + (Marker.onLines lines).length⟩ := by
  induction lines generalizing gathered with
  | nil => rfl
  | cons pair rest ih =>
    have step := readLines_cons_of_complete complete
    rw [step] at complete ⊢
    rw [ih complete, counts_foldl_addMarker]
    simp only [addLine, Marker.onLines, List.flatMap_cons, List.length_append, List.length_cons,
      Nat.add_assoc, Nat.add_comm 1]

/-- What is gathered from lines that are read to their end is what the markers on them wrap. -/
theorem mem_phrases_readLines {gathered : Gathered} {lines : List (Int × Text)}
    (complete : (gathered.readLines lines).2 = none) (text : Text) :
    text ∈ (gathered.readLines lines).1.phrases ↔
      text ∈ gathered.phrases ∨ text ∈ (Marker.onLines lines).map (·.phrase) := by
  induction lines generalizing gathered with
  | nil => simp [readLines, Marker.onLines]
  | cons pair rest ih =>
    have step := readLines_cons_of_complete complete
    rw [step] at complete ⊢
    rw [ih complete, mem_phrases_foldl_addMarker, Marker.onLines, Marker.onLines,
      List.flatMap_cons, List.map_append, List.mem_append, or_assoc]
    rfl

end Gathered

namespace Auditor

/-- A first pass succeeds exactly when the feed is all there and every line is read to its end. Its
result is then what was gathered. -/
theorem collect_eq_ok_iff (auditor : Auditor) (feed : Feed ReadError (Int × Text))
    (phrases : PhraseSet) :
    (auditor.collect feed).result = .ok phrases ↔
      feed.failure = none ∧ (Gathered.empty.readLines feed.items).2 = none ∧
        (Gathered.empty.readLines feed.items).1.phrases = phrases := by
  simp only [collect]
  cases (Gathered.empty.readLines feed.items).2 <;> cases feed.failure <;> simp

/-- A first pass that succeeds has counted all lines of the feed and all markers on them. -/
theorem counts_of_collect {auditor : Auditor} {feed : Feed ReadError (Int × Text)}
    {phrases : PhraseSet} (collected : (auditor.collect feed).result = .ok phrases) :
    (auditor.collect feed).auditor.counts =
      ⟨feed.items.length, (Marker.onLines feed.items).length⟩ := by
  obtain ⟨_, complete, _⟩ := (auditor.collect_eq_ok_iff feed phrases).1 collected
  change (Gathered.empty.readLines feed.items).1.counts = _
  rw [Gathered.counts_readLines complete]
  simp only [Gathered.empty, Nat.zero_add]

/-- A first pass that succeeds has gathered what the markers on the lines wrap. -/
theorem mem_of_collect {auditor : Auditor} {feed : Feed ReadError (Int × Text)}
    {phrases : PhraseSet} (collected : (auditor.collect feed).result = .ok phrases) (text : Text) :
    text ∈ phrases ↔ text ∈ (Marker.onLines feed.items).map (·.phrase) := by
  obtain ⟨_, complete, rfl⟩ := (auditor.collect_eq_ok_iff feed phrases).1 collected
  have nothing : text ∉ Gathered.empty.phrases := List.not_mem_nil
  rw [Gathered.mem_phrases_readLines complete]
  exact or_iff_right nothing

/-- Without a phrase that could be searched for, the second pass finds what it would have found had
it been made. -/
theorem searchKnown_result (auditor : Auditor) (feed : Feed ReadError (Int × Text))
    (known : PhraseSet) :
    (auditor.searchKnown feed known).result = (auditor.search feed known).result := by
  unfold searchKnown
  split
  · rename_i nothing
    obtain ⟨texts, increasing⟩ := known
    obtain rfl := List.length_eq_zero_iff.1 nothing
    rfl
  · rfl

/-- An audit succeeds exactly when both of its passes do. Its summary has the counts of the first
pass. -/
theorem run_eq_ok_iff (auditor : Auditor) (codecs : Codecs) (tree : FileTree) (source : Path)
    (ledger : Ledger) (summary : Summary) :
    let feed := Source.lines codecs tree auditor.encoding source
    (auditor.run codecs tree source).result = .ok (ledger, summary) ↔
      ∃ phrases, (auditor.collect feed).result = .ok phrases ∧
        (auditor.search feed phrases).result = .ok ledger ∧
        summary = (auditor.collect feed).auditor.summarize source phrases ledger := by
  intro feed
  have searched : ∀ phrases, ((auditor.collect feed).auditor.searchKnown feed phrases).result =
      (auditor.search feed phrases).result :=
    fun phrases => searchKnown_result (auditor.collect feed).auditor feed phrases
  have kept : ∀ phrases, ((auditor.collect feed).auditor.searchKnown feed phrases).auditor =
      (auditor.collect feed).auditor := by
    intro phrases
    unfold searchKnown
    split <;> rfl
  simp only [run]
  cases (auditor.collect feed).result with
  | error error => simp [feed]
  | ok phrases =>
    simp only [feed, searched, kept, Except.ok.injEq, exists_eq_left']
    cases (auditor.search feed phrases).result with
    | error error => simp [Except.map]
    | ok found =>
      simp only [Except.map, Except.ok.injEq, Prod.mk.injEq]
      constructor
      · rintro ⟨rfl, same⟩
        exact ⟨rfl, same.symm⟩
      · rintro ⟨rfl, same⟩
        exact ⟨rfl, same.symm⟩

end Auditor

end PhraseAudit
