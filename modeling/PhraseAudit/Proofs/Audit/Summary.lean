import Mathlib.Data.Finset.Card
import PhraseAudit.Proofs.Audit.Gathering
import PhraseAudit.Proofs.Audit.Outcome
import PhraseAudit.Proofs.Report.Coherent
import PhraseAudit.Proofs.Search.Exact

/-!
# Summaries that tell the truth

The figures of a summary come from three places: the counts that the first pass keeps, the set of
phrases that it gathers, and the ledger that the second pass fills. They are the figures of the
source itself, and they fit together.
-/

namespace PhraseAudit

namespace PhraseSet

/-- A set is as large as any list with its elements has distinct members. -/
theorem size_eq_card {set : PhraseSet} {texts : List Text}
    (same : ∀ text, text ∈ set ↔ text ∈ texts) : set.size = texts.toFinset.card := by
  have elements : set.toList.toFinset = texts.toFinset := by
    ext text
    rw [List.mem_toFinset, List.mem_toFinset]
    exact same text
  rw [← elements, List.toFinset_card_of_nodup (PhraseIndex.nodup_toList set)]
  rfl

end PhraseSet

namespace Search

/-- The rows of a search of increasing lines that succeeds are those that the lines tell. -/
theorem rows_of_search_increasing {auditor : Auditor} {known : PhraseSet}
    {lines : List (Int × Text)} {failure : Option ReadError} {ledger : Ledger}
    (increasing : lines.Pairwise fun earlier later => earlier.1 < later.1)
    (success : (auditor.search ⟨lines, failure⟩ known).result = .ok ledger) :
    ledger.rows = known.toList.map (rowAfter auditor.stripTags lines) :=
  (rows_of_search success).1.trans
    (List.map_congr_left fun text _ => rowKept_eq_rowAfter increasing auditor.stripTags text)

/-- What a search of increasing lines records is about a proper phrase, on lines that were searched,
with a hit for each of them at least. -/
theorem recorded_of_mem_used {stripTags : Bool} {known : PhraseSet} {lines : List (Int × Text)}
    {ledger : Ledger} (rows : ledger.rows = known.toList.map (rowAfter stripTags lines))
    {row : LedgerRow} (member : row ∈ ledger.used) :
    row.phrase ≠ [] ∧ row.lines ≠ [] ∧ (∀ number ∈ row.lines, ∃ pair ∈ lines, pair.1 = number) ∧
      (row.lines.length : Int) ≤ row.hits := by
  have seen := ((ledger.mem_used_iff row).1 member).2
  obtain ⟨phrase, _, rfl⟩ := phrase_of_mem_used rows member
  refine ⟨phrase.nonempty, ?_, ?_, length_lines_rowAfter_le_hits stripTags lines phrase.text⟩
  · rwa [LedgerRow.lines, ne_eq, List.map_eq_nil_iff]
  · intro number recorded
    rw [lines_rowAfter] at recorded
    obtain ⟨pair, kept, rfl⟩ := List.mem_map.1 recorded
    exact ⟨pair, List.mem_of_mem_filter kept, rfl⟩

end Search

namespace Auditor

/-- The summary of every audit that succeeds tells the truth about its source, and passing over the
second pass does no harm.

The source was read to its end, and so was every line. The summary counts the lines, the markers on
them, the distinct phrases of these markers, which are the phrases of the document, and the phrases
under the occurrences of the document, which are distinct. No more phrases are seen than are known,
and no more are known than there are markers. What is recorded about a phrase is about a proper one,
with at least one line, all lines being lines of the source, and with a hit for each line at least.
The ledger is the one that a search of the lines for the gathered phrases finds, also when there are
none and the audit does not search.

Proof: the first pass keeps count of what it reads, and gathers what the markers wrap. The rows of
the ledger are those of the gathered phrases, and the lines alone tell what is in them. -/
theorem summary_truthful {auditor : Auditor} {codecs : Codecs} {tree : FileTree} {source : Path}
    {ledger : Ledger} {summary : Summary}
    (success : (auditor.run codecs tree source).result = .ok (ledger, summary)) :
    let feed := Source.lines codecs tree auditor.encoding source
    let markers := Marker.onLines feed.items
    let document := Document.ofLedger ledger (some summary)
    (feed.failure = none ∧ ∀ pair ∈ feed.items, (Marker.ofLine pair.1 pair.2).2 = none) ∧
    summary.source = source.toText ∧
    summary.lines = feed.items.length ∧
    summary.markers = markers.length ∧
    summary.phrases = (markers.map (·.phrase)).toFinset.card ∧
    summary.phrases = document.phrases.length ∧
    (summary.unwrapped = document.occurrences.length ∧
      (document.occurrences.map (·.1)).Nodup) ∧
    (summary.unwrapped ≤ summary.phrases ∧ summary.phrases ≤ summary.markers) ∧
    (∀ row ∈ ledger.used, row.phrase ≠ [] ∧ row.lines ≠ [] ∧
      (∀ number ∈ row.lines, 1 ≤ number ∧ number ≤ summary.lines) ∧
      (row.lines.length : Int) ≤ row.hits) ∧
    ∃ phrases, (auditor.collect feed).result = .ok phrases ∧
      (auditor.search feed phrases).result = .ok ledger := by
  intro feed markers document
  obtain ⟨phrases, collected, searched, made⟩ := (run_eq_ok_iff auditor codecs tree source _ _).1 success
  obtain ⟨complete, read, _⟩ := (collect_eq_ok_iff auditor feed phrases).1 collected
  have counts : (auditor.collect feed).auditor.counts = ⟨feed.items.length, markers.length⟩ :=
    counts_of_collect collected
  have distinct : phrases.size = (markers.map (·.phrase)).toFinset.card :=
    PhraseSet.size_eq_card (mem_of_collect collected)
  have rows : ledger.rows = phrases.toList.map (Search.rowAfter auditor.stripTags feed.items) :=
    Search.rows_of_search_increasing (Source.lines_increase codecs tree auditor.encoding source) searched
  have known : ledger.rows.length = phrases.size := by
    rw [rows, List.length_map]
    rfl
  have lines : summary.lines = feed.items.length := by
    rw [made, summarize, counts]
  have total : summary.markers = markers.length := by
    rw [made, summarize, counts]
  have size : summary.phrases = phrases.size := by
    rw [made, summarize]
  have unwrapped : summary.unwrapped = ledger.size := by
    rw [made, summarize]
  refine ⟨⟨complete, ?_⟩, by rw [made, summarize], lines, total, by rw [size, distinct], ?_,
    ⟨?_, ?_⟩, ⟨?_, ?_⟩, ?_, phrases, collected, searched⟩
  · intro pair member
    exact (Marker.ofLine_eq_none_iff _ _).2
      ((Gathered.empty.readLines_eq_none_iff feed.items).1 read pair member)
  · have documented : document.phrases.length = ledger.rows.length := List.length_map _
    rw [size, documented, known]
  · have documented : document.occurrences.length = ledger.size := List.length_map _
    rw [unwrapped, documented]
  · rw [Document.keys_occurrences]
    exact Text.nodup_of_increasing ledger.used_increase
  · have fewer : ledger.size ≤ ledger.rows.length := List.length_filter_le _ _
    rw [unwrapped, size, ← known]
    exact Int.ofNat_le.2 fewer
  · have fewer : (markers.map (·.phrase)).toFinset.card ≤ markers.length :=
      (List.toFinset_card_le _).trans (List.length_map _).le
    rw [size, total, distinct]
    exact Int.ofNat_le.2 fewer
  · intro row used
    obtain ⟨proper, nonempty, onLines, hits⟩ := Search.recorded_of_mem_used rows used
    refine ⟨proper, nonempty, fun number recorded => ?_, hits⟩
    obtain ⟨pair, member, rfl⟩ := onLines number recorded
    rw [lines]
    exact Source.bounds_of_mem_lines member

/-- Two lines with three markers, of which one wraps nothing and the other two wrap the same. -/
theorem summary_truthful_repeated :
    let content := Utf8.encode "@[static#cat] @[static#]\n@[static#cat] cat\n".toList
    let tree : FileTree := ⟨[(["doc.txt".toList], .file content)], []⟩
    let source : Path := Path.ofText "doc.txt".toList
    ∃ ledger summary, ((Auditor.new true []).run .plain tree source).result = .ok (ledger, summary) ∧
      summary.lines = 2 ∧ summary.markers = 3 ∧ summary.phrases = 2 := by
  intro content tree source
  have whole : (Source.lines .plain tree [] source).failure = none := by decide
  have pure : ¬ ∃ pair ∈ (Source.lines .plain tree [] source).items, Marker.HoldsStray pair.2 := by
    decide
  rcases (Auditor.new true []).run_outcome .plain tree source with
    ⟨stray, _⟩ | ⟨_, error, failed, _⟩ | ⟨_, ledger, summary, success⟩
  · exact absurd stray pure
  · cases failed.symm.trans whole
  · obtain ⟨_, _, lines, markers, phrases, _⟩ := summary_truthful success
    exact ⟨ledger, summary, success, lines.trans (by decide),
      markers.trans (by decide), phrases.trans (by decide)⟩

end Auditor

end PhraseAudit
