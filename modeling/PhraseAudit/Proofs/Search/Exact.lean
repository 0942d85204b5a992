import PhraseAudit.Proofs.Phrase.Occurrence
import PhraseAudit.Proofs.Search.Numbering

/-!
# A search is exact

Lines with increasing numbers are searched without error, and the ledger says of each text just what
the lines hold of it. The words of the statement are those of a reader of the lines: where a phrase
occurs as a whole word, and which places a search from the left finds. Neither the index of the
phrases nor the order in which they are recorded appears in it.
-/

namespace PhraseAudit.Search

/-- A phrase occurs on a line exactly when it is counted there. -/
theorem countOn_pos_iff (stripTags : Bool) (phrase : Phrase) (pair : Int × Text) :
    0 < countOn stripTags phrase.text pair ↔
      phrase.Occurs (Line.searchable stripTags pair.2) := by
  rw [countOn_phrase, Phrase.occurs_iff]
  exact List.length_pos_iff

/-- The lines in the row of a phrase are those on which it occurs. -/
theorem sightings_rowAfter (stripTags : Bool) (phrase : Phrase) (lines : List (Int × Text)) :
    (rowAfter stripTags lines phrase.text).sightings =
      (lines.filter fun pair => phrase.Occurs (Line.searchable stripTags pair.2)).map
        sightingOf := by
  simp only [rowAfter, countOn_pos_iff]

/-- The numbers in the row of a phrase are those of the lines on which it occurs. -/
theorem lines_rowAfter (stripTags : Bool) (phrase : Phrase) (lines : List (Int × Text)) :
    (rowAfter stripTags lines phrase.text).lines =
      (lines.filter fun pair => phrase.Occurs (Line.searchable stripTags pair.2)).map (·.1) := by
  rw [LedgerRow.lines, sightings_rowAfter, List.map_map]
  rfl

/-- Every used row of a search is about a phrase that was searched for. -/
theorem phrase_of_mem_used {stripTags : Bool} {known : PhraseSet} {lines : List (Int × Text)}
    {ledger : Ledger} (rows : ledger.rows = known.toList.map (rowAfter stripTags lines))
    {row : LedgerRow} (member : row ∈ ledger.used) :
    ∃ phrase : Phrase, phrase.text ∈ known ∧ row = rowAfter stripTags lines phrase.text := by
  obtain ⟨inside, used⟩ := (ledger.mem_used_iff row).1 member
  rw [rows] at inside
  obtain ⟨text, knownText, rfl⟩ := List.mem_map.1 inside
  have proper : text ≠ [] := by
    intro empty
    rw [empty, rowAfter_empty] at used
    exact used rfl
  exact ⟨⟨text, proper⟩, knownText, rfl⟩

/-- The row of a known phrase is used exactly when the phrase occurs on some line. -/
theorem mem_used_rowAfter_iff {stripTags : Bool} {known : PhraseSet} {lines : List (Int × Text)}
    {ledger : Ledger} (rows : ledger.rows = known.toList.map (rowAfter stripTags lines))
    {phrase : Phrase} (member : phrase.text ∈ known) :
    rowAfter stripTags lines phrase.text ∈ ledger.used ↔
      ∃ pair ∈ lines, phrase.Occurs (Line.searchable stripTags pair.2) := by
  have inside : rowAfter stripTags lines phrase.text ∈ ledger.rows := by
    rw [rows]
    exact List.mem_map.2 ⟨phrase.text, member, rfl⟩
  rw [Ledger.mem_used_iff, sightings_rowAfter]
  simp [inside, List.filter_eq_nil_iff]

/-- The numbers of lines that increase stay so when some lines are left out. -/
theorem lines_increase {lines : List (Int × Text)}
    (increasing : lines.Pairwise fun earlier later => earlier.1 < later.1)
    (keep : Int × Text → Bool) : ((lines.filter keep).map (·.1)).Pairwise (· < ·) :=
  List.pairwise_map.2 (increasing.sublist List.filter_sublist)

/-- The early return of a search is that of searching all lines for nothing. -/
theorem search_result_eq (auditor : Auditor) (known : PhraseSet) (lines : List (Int × Text))
    (increasing : lines.Pairwise fun earlier later => earlier.1 < later.1) :
    (auditor.search ⟨lines, none⟩ known).result =
      (searchLines auditor.stripTags (PhraseIndex.ofSet known) (Ledger.ofKnown known)
        lines).mapError .ledger := by
  have ascending : lines.Pairwise fun earlier later => earlier.1 ≤ later.1 :=
    increasing.imp Int.le_of_lt
  obtain ⟨ledger, success⟩ := exists_search ascending auditor known
  obtain ⟨other, read, otherRows⟩ := searchLines_of_ascending ascending auditor.stripTags known
  have same : ledger = other :=
    Ledger.eq_of_rows_eq ((rows_of_search success).1.trans otherRows.symm)
  rw [success, read, same]
  rfl

/-- Searching lines whose numbers increase never fails, and the ledger is exact about every text.

A text has a used row if and only if it is a known phrase that occurs, as a whole word and up to
case, in the searchable part of some line. The row then holds the numbers of just these lines, in
increasing order, each with a snippet of the whole line, and its hits are the places found from the
left, none overlapping another, summed over all lines. Neither the early return of a search without
phrases nor passing over empty texts changes what is found.

Proof: the ledger has the rows that the lines alone determine. What is counted on a line is what
the phrase finds there, and it finds something exactly when it occurs. -/
theorem search_exact (auditor : Auditor) (known : PhraseSet) (lines : List (Int × Text))
    (increasing : lines.Pairwise fun earlier later => earlier.1 < later.1) :
    (∃ ledger, (auditor.search ⟨lines, none⟩ known).result = .ok ledger ∧
      (∀ text, (∃ row ∈ ledger.used, row.phrase = text) ↔
        ∃ phrase : Phrase, phrase.text = text ∧ text ∈ known ∧
          ∃ pair ∈ lines, phrase.Occurs (Line.searchable auditor.stripTags pair.2)) ∧
      ∀ row ∈ ledger.used, ∃ phrase : Phrase, phrase.text = row.phrase ∧
        row.lines.Pairwise (· < ·) ∧
        row.lines = (lines.filter fun pair =>
          phrase.Occurs (Line.searchable auditor.stripTags pair.2)).map (·.1) ∧
        row.sightings = (lines.filter fun pair =>
          phrase.Occurs (Line.searchable auditor.stripTags pair.2)).map
            (fun pair => ⟨pair.1, Line.snippet pair.2 Line.snippetLimit⟩) ∧
        ∃ starts : Text → List Nat,
          (∀ cleaned found, phrase.FoundFrom cleaned 0 found ↔ found = starts cleaned) ∧
          row.hits = ((lines.map fun pair =>
            (starts (Line.searchable auditor.stripTags pair.2)).length).sum : Nat)) ∧
    (auditor.search ⟨lines, none⟩ known).result =
      (searchLines auditor.stripTags (PhraseIndex.ofSet known) (Ledger.ofKnown known)
        lines).mapError .ledger ∧
    ∀ cleaned, (PhraseIndex.ofSet known).occurrences cleaned =
      ((PhraseIndex.ofSet known).phrases.map fun phrase =>
        (phrase, phrase.occurrences cleaned)).filter fun pair => !pair.2.isEmpty := by
  obtain ⟨ledger, success, rows⟩ := search_rows auditor known lines increasing
  refine ⟨⟨ledger, success, ?_, ?_⟩, search_result_eq auditor known lines increasing,
    PhraseIndex.occurrences_eq _⟩
  · intro text
    constructor
    · rintro ⟨row, used, rfl⟩
      obtain ⟨phrase, member, rfl⟩ := phrase_of_mem_used rows used
      exact ⟨phrase, rfl, member, (mem_used_rowAfter_iff rows member).1 used⟩
    · rintro ⟨phrase, rfl, member, occurs⟩
      exact ⟨_, (mem_used_rowAfter_iff rows member).2 occurs, rfl⟩
  · intro row used
    obtain ⟨phrase, _, rfl⟩ := phrase_of_mem_used rows used
    have sightings := sightings_rowAfter auditor.stripTags phrase lines
    have numbers := lines_rowAfter auditor.stripTags phrase lines
    refine ⟨phrase, rfl, ?_, numbers, sightings,
      fun cleaned => (phrase.occurrences cleaned).map (·.start),
      phrase.foundFrom_iff, ?_⟩
    · rw [numbers]
      exact lines_increase increasing _
    · have counts : countOn auditor.stripTags phrase.text = fun pair =>
          ((phrase.occurrences
            (Line.searchable auditor.stripTags pair.2)).map (·.start)).length := by
        funext pair
        rw [countOn_phrase, List.length_map]
      rw [rowAfter, counts]

/-- Three lines, of which the first only wraps the phrase and the last has it beside a tag. -/
theorem search_exact_cat :
    let lines : List (Int × Text) :=
      [(1, "@[static#cat]".toList), (2, "Cat, cat".toList), (5, " <i>a</i> cat".toList)]
    let known := PhraseSet.ofList ["dog".toList, "cat".toList, []]
    (lines.Pairwise fun earlier later => earlier.1 < later.1) ∧
      ∃ ledger, ((Auditor.new true []).search ⟨lines, none⟩ known).result = .ok ledger ∧
        ∃ row ∈ ledger.used, row.phrase = "cat".toList ∧ row.lines = [2, 5] := by
  intro lines known
  let cat : Phrase := ⟨"cat".toList, by decide⟩
  have increasing : lines.Pairwise fun earlier later => earlier.1 < later.1 := by decide
  have member : cat.text ∈ known := (PhraseSet.mem_ofList _ _).2 (by simp [cat])
  have occurs : cat.Occurs (Line.searchable true "Cat, cat".toList) := by
    set_option maxRecDepth 2000 in decide
  obtain ⟨⟨ledger, success, keys, rows⟩, _⟩ :=
    search_exact (Auditor.new true []) known lines increasing
  obtain ⟨row, used, about⟩ :=
    (keys cat.text).2 ⟨cat, rfl, member, (2, "Cat, cat".toList), by simp [lines], occurs⟩
  obtain ⟨⟨text, proper⟩, same, _, numbers, _⟩ := rows row used
  obtain rfl : text = cat.text := same.trans about
  have second : row.lines =
      (lines.filter fun pair => cat.Occurs (Line.searchable true pair.2)).map (·.1) := numbers
  refine ⟨increasing, ledger, success, row, used, about, second.trans ?_⟩
  set_option maxRecDepth 2000 in decide

end PhraseAudit.Search
