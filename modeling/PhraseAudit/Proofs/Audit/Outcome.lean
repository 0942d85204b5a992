import PhraseAudit.CommandLine.Run
import PhraseAudit.Proofs.Marker.Stray
import PhraseAudit.Proofs.Search.Numbering
import PhraseAudit.Proofs.Source.Reading

/-!
# How an audit ends

An audit ends in one of three ways: with a ledger and a summary, with a fault of the source, or with
a marker whose keyword names no kind. The last happens exactly when some line that was delivered
holds a stray marker, and nobody deals with it, so that it ends the whole run. The second pass never
fails: it is reached only with lines that are all there, and these are numbered in order.
-/

namespace PhraseAudit

namespace Gathered

/-- Lines are read to their end exactly when no line holds a stray marker. -/
theorem readLines_eq_none_iff (gathered : Gathered) (lines : List (Int × Text)) :
    (gathered.readLines lines).2 = none ↔ ∀ pair ∈ lines, ¬ Marker.HoldsStray pair.2 := by
  induction lines generalizing gathered with
  | nil => simp [readLines]
  | cons pair rest ih =>
    obtain ⟨number, line⟩ := pair
    have here := Marker.ofLine_eq_none_iff number line
    rw [List.forall_mem_cons]
    cases reading : Marker.ofLine number line with
    | mk markers failure =>
      rw [reading] at here
      rw [readLines, reading]
      cases failure with
      | some error =>
        constructor
        · intro impossible
          cases impossible
        · intro pure
          exact absurd (here.2 pure.1) (Option.some_ne_none _)
      | none => exact (ih _).trans (and_iff_right (here.1 rfl)).symm

end Gathered

namespace Auditor

/-- A second pass over lines that are all there and increase finds its ledger. -/
theorem searchKnown_ok (auditor : Auditor) {lines : List (Int × Text)}
    (increasing : lines.Pairwise fun earlier later => earlier.1 < later.1) (known : PhraseSet) :
    ∃ ledger, (auditor.searchKnown ⟨lines, none⟩ known).result = .ok ledger := by
  unfold searchKnown
  split
  · exact ⟨_, rfl⟩
  · obtain ⟨ledger, success, _⟩ := Search.search_rows auditor known lines increasing
    exact ⟨ledger, success⟩

/-- A first pass that comes upon a stray marker ends there, whatever follows. -/
theorem collect_of_stray (auditor : Auditor) {feed : Feed ReadError (Int × Text)}
    (stray : ∃ pair ∈ feed.items, Marker.HoldsStray pair.2) :
    ∃ keyword, (auditor.collect feed).result = .error (.marker (.unknownKind keyword)) := by
  have ends : (Gathered.empty.readLines feed.items).2 ≠ none := by
    intro complete
    obtain ⟨pair, inside, holds⟩ := stray
    exact (Gathered.empty.readLines_eq_none_iff feed.items).1 complete pair inside holds
  obtain ⟨⟨keyword⟩, failure⟩ := Option.ne_none_iff_exists'.1 ends
  exact ⟨keyword, by simp only [collect, failure]⟩

/-- A first pass without a stray marker reads all lines that are delivered. -/
theorem collect_of_not_stray (auditor : Auditor) {feed : Feed ReadError (Int × Text)}
    (pure : ¬ ∃ pair ∈ feed.items, Marker.HoldsStray pair.2) :
    (auditor.collect feed).result = match feed.failure with
      | some error => .error (.read error)
      | none => .ok (Gathered.empty.readLines feed.items).1.phrases := by
  have reads : (Gathered.empty.readLines feed.items).2 = none :=
    (Gathered.empty.readLines_eq_none_iff feed.items).2
      fun pair inside holds => pure ⟨pair, inside, holds⟩
  simp only [collect, reads]
  cases feed.failure <;> rfl

/-- The three ways in which an audit ends. -/
theorem run_outcome (auditor : Auditor) (codecs : Codecs) (tree : FileTree) (source : Path) :
    let feed := Source.lines codecs tree auditor.encoding source
    let stray := ∃ pair ∈ feed.items, Marker.HoldsStray pair.2
    (stray ∧ ∃ keyword,
      (auditor.run codecs tree source).result = .error (.marker (.unknownKind keyword))) ∨
    (¬ stray ∧ ∃ error, feed.failure = some error ∧
      (auditor.run codecs tree source).result = .error (.read error)) ∨
    (¬ stray ∧ ∃ ledger summary, (auditor.run codecs tree source).result = .ok (ledger, summary)) := by
  intro feed stray
  by_cases holds : stray
  · obtain ⟨keyword, ends⟩ := auditor.collect_of_stray holds
    exact .inl ⟨holds, keyword, by simp only [run, feed, ends]⟩
  · have reads := auditor.collect_of_not_stray holds
    cases failure : feed.failure with
    | some error =>
      rw [failure] at reads
      exact .inr (.inl ⟨holds, error, rfl, by simp only [run, feed, reads]⟩)
    | none =>
      rw [failure] at reads
      have complete : feed = ⟨feed.items, none⟩ := by rw [← failure]
      obtain ⟨ledger, success⟩ := (auditor.collect feed).auditor.searchKnown_ok
        (Source.lines_increase codecs tree auditor.encoding source)
        (Gathered.empty.readLines feed.items).1.phrases
      rw [← complete] at success
      exact .inr (.inr ⟨holds, ledger, _, by simp only [run, feed, reads, success]; rfl⟩)

end Auditor

end PhraseAudit
