import Mathlib.Algebra.GroupWithZero.Nat
import PhraseAudit.Proofs.Ledger.Acceptance
import PhraseAudit.Proofs.Search.Rows

/-!
# Lines numbered in any way

A search takes the numbers of the lines as they are given. When several lines have one number, the
hits of all of them count and the number is recorded once; a number below one that was recorded for
the same phrase ends the search. A search is a history of offers to a ledger, made line by line, and
what it leaves is told by the lines alone.
-/

namespace PhraseAudit.Search

/-- What is offered of a phrase that was found on a line. -/
def offerOf (sighting : Sighting) (found : Phrase × List (Found Unit)) : Offer :=
  ⟨found.1.text, sighting, found.2.length⟩

/-- What a numbered line offers to a ledger. -/
def offersOn (stripTags : Bool) (index : PhraseIndex) (pair : Int × Text) : List Offer :=
  (index.occurrences (Line.searchable stripTags pair.2)).map (offerOf (sightingOf pair))

/-- The row of a text after lines numbered in any way were searched: of the lines with one number
the first is kept, and a line that falls behind is not. -/
def rowKept (stripTags : Bool) (lines : List (Int × Text)) (text : Text) : LedgerRow :=
  let row := rowAfter stripTags lines text
  { row with sightings := leftMaxima (·.line) row.sightings }

@[simp]
theorem phrase_rowKept (stripTags : Bool) (lines : List (Int × Text)) (text : Text) :
    (rowKept stripTags lines text).phrase = text :=
  rfl

/-- When the numbers of the lines increase, every line is kept. -/
theorem rowKept_eq_rowAfter {lines : List (Int × Text)}
    (increasing : lines.Pairwise fun earlier later => earlier.1 < later.1) (stripTags : Bool)
    (text : Text) : rowKept stripTags lines text = rowAfter stripTags lines text := by
  have sightings : (rowAfter stripTags lines text).sightings.Pairwise fun earlier later =>
      earlier.line < later.line :=
    List.pairwise_map.2 (increasing.sublist List.filter_sublist)
  rw [rowKept, leftMaxima_eq_self sightings]

/-- When the numbers on which a text occurs never fall, all of them are kept. -/
theorem mem_lines_rowKept_iff {stripTags : Bool} {lines : List (Int × Text)} {text : Text}
    (ascending : (rowAfter stripTags lines text).lines.Pairwise (· ≤ ·)) (number : Int) :
    number ∈ (rowKept stripTags lines text).lines ↔
      number ∈ (rowAfter stripTags lines text).lines :=
  mem_map_leftMaxima_iff (List.pairwise_map.1 ascending) number

/-- What was found on a line is recorded when nothing of it is refused. -/
theorem recordAll_eq_ok_iff (sighting : Sighting) (found : List (Phrase × List (Found Unit)))
    (ledger recorded : Ledger) :
    recordAll sighting ledger found = .ok recorded ↔
      ledger.Accepts (found.map (offerOf sighting)) ∧
        recorded = ledger.offerAll (found.map (offerOf sighting)) := by
  induction found generalizing ledger with
  | nil =>
    have nothing : ledger.Accepts [] := by simp [Ledger.Accepts, Ledger.outcomes]
    constructor
    · intro success
      cases success
      exact ⟨nothing, rfl⟩
    · rintro ⟨_, rfl⟩
      rfl
  | cons pair others ih =>
    obtain ⟨phrase, occurrences⟩ := pair
    have same : ledger.record phrase.text sighting occurrences.length =
        ledger.offer (offerOf sighting (phrase, occurrences)) := rfl
    rw [List.map_cons, Ledger.accepts_cons, Ledger.offerAll_cons, recordAll, same]
    cases ledger.offer (offerOf sighting (phrase, occurrences)) with
    | mk verdict after =>
      cases verdict with
      | ok novelty => simp [ih after]
      | error error => simp

/-- Lines are searched without error when nothing of what they offer is refused. -/
theorem searchLines_eq_ok_iff (stripTags : Bool) (index : PhraseIndex) (lines : List (Int × Text))
    (ledger recorded : Ledger) :
    searchLines stripTags index ledger lines = .ok recorded ↔
      ledger.Accepts (lines.flatMap (offersOn stripTags index)) ∧
        recorded = ledger.offerAll (lines.flatMap (offersOn stripTags index)) := by
  induction lines generalizing ledger with
  | nil =>
    have nothing : ledger.Accepts [] := by simp [Ledger.Accepts, Ledger.outcomes]
    constructor
    · intro success
      cases success
      exact ⟨nothing, rfl⟩
    · rintro ⟨_, rfl⟩
      rfl
  | cons pair others ih =>
    have step := recordAll_eq_ok_iff (sightingOf pair)
      (index.occurrences (Line.searchable stripTags pair.2)) ledger
    rw [List.flatMap_cons, Ledger.accepts_append, Ledger.offerAll_append, searchLines]
    cases searched : searchLine stripTags index ledger pair.1 pair.2 with
    | ok after =>
      obtain ⟨accepted, rfl⟩ := (step after).1 searched
      rw [ih]
      simp only [offersOn, accepted, true_and]
    | error error =>
      have refused : ¬ ledger.Accepts (offersOn stripTags index pair) := by
        intro accepted
        have success := (step _).2 ⟨accepted, rfl⟩
        rw [show recordAll (sightingOf pair) ledger _ = .error error from searched] at success
        cases success
      simp [refused]

/-- A line offers a text once, with all its hits, if the text was found on it. -/
theorem ofPhrase_map_offerOf {found : List (Phrase × List (Found Unit))}
    (distinct : (found.map (·.1.text)).Nodup) (nonempty : ∀ pair ∈ found, pair.2 ≠ [])
    (sighting : Sighting) (text : Text) :
    Offer.ofPhrase text (found.map (offerOf sighting)) =
      if 0 < PhraseIndex.countIn text found then
        [⟨text, sighting, PhraseIndex.countIn text found⟩] else [] := by
  induction found with
  | nil => rfl
  | cons pair others ih =>
    rw [List.map_cons, List.nodup_cons] at distinct
    have behind := ih distinct.2 fun other member => nonempty other (List.mem_cons_of_mem _ member)
    rw [Offer.ofPhrase] at behind
    by_cases about : pair.1.text = text
    · have absent : PhraseIndex.countIn text others = 0 := by
        apply PhraseIndex.countIn_eq_zero
        intro other member same
        exact distinct.1 (List.mem_map.2 ⟨other, member, same.trans about.symm⟩)
      have positive := List.length_pos_iff.2 (nonempty pair List.mem_cons_self)
      rw [absent, if_neg (Nat.lt_irrefl 0)] at behind
      simp [Offer.ofPhrase, offerOf, PhraseIndex.countIn, about, behind, positive]
    · simp [Offer.ofPhrase, offerOf, PhraseIndex.countIn, about, behind]

/-- Of a known text some lines offer what is counted on each of them. -/
theorem ofPhrase_offers (stripTags : Bool) {known : PhraseSet} {text : Text}
    (member : text ∈ known) (lines : List (Int × Text)) :
    Offer.ofPhrase text (lines.flatMap (offersOn stripTags (PhraseIndex.ofSet known))) =
      (lines.filter fun pair => 0 < countOn stripTags text pair).map fun pair =>
        ⟨text, sightingOf pair, countOn stripTags text pair⟩ := by
  induction lines with
  | nil => rfl
  | cons pair others ih =>
    have here : Offer.ofPhrase text (offersOn stripTags (PhraseIndex.ofSet known) pair) =
        if 0 < countOn stripTags text pair then
          [⟨text, sightingOf pair, countOn stripTags text pair⟩] else [] := by
      rw [offersOn, ofPhrase_map_offerOf (PhraseIndex.nodup_occurrences known _)
        (fun entry inside => ((PhraseIndex.mem_occurrences_iff known _ entry).1 inside).2.2),
        countIn_occurrences member, countOn]
    rw [List.flatMap_cons, Offer.ofPhrase, List.filter_append]
    change Offer.ofPhrase text _ ++ Offer.ofPhrase text _ = _
    rw [here, ih]
    by_cases occurs : 0 < countOn stripTags text pair
    · simp [occurs]
    · simp [occurs]

/-- Lines on which a text does not occur add nothing to its hits. -/
theorem sum_countOn (stripTags : Bool) (text : Text) (lines : List (Int × Text)) :
    ((lines.filter fun pair => 0 < countOn stripTags text pair).map fun pair =>
      (countOn stripTags text pair : Int)).sum =
        ((lines.map (countOn stripTags text)).sum : Nat) := by
  induction lines with
  | nil => rfl
  | cons pair others ih =>
    rw [List.map_cons, List.sum_cons, Nat.cast_add, ← ih]
    by_cases occurs : 0 < countOn stripTags text pair
    · simp [occurs]
    · simp [Nat.eq_zero_of_not_pos occurs]

/-- What some lines offer of a known text leaves the row of the text that is kept after them. -/
theorem rowOf_offers (stripTags : Bool) {known : PhraseSet} {text : Text} (member : text ∈ known)
    (lines : List (Int × Text)) :
    Offer.rowOf (lines.flatMap (offersOn stripTags (PhraseIndex.ofSet known))) text =
      rowKept stripTags lines text := by
  rw [Offer.rowOf, Offer.hitsOf, ofPhrase_offers stripTags member, List.map_map, List.map_map,
    rowKept, rowAfter]
  congr 1
  exact sum_countOn stripTags text lines

/-- What some lines offer of known texts is accepted exactly when the numbers on which a text occurs
never fall. -/
theorem accepts_offers_iff (stripTags : Bool) (known : PhraseSet) (lines : List (Int × Text)) :
    (Ledger.ofKnown known).Accepts
        (lines.flatMap (offersOn stripTags (PhraseIndex.ofSet known))) ↔
      ∀ text ∈ known, (rowAfter stripTags lines text).lines.Pairwise (· ≤ ·) := by
  have members : ∀ offer ∈ lines.flatMap (offersOn stripTags (PhraseIndex.ofSet known)),
      offer.phrase ∈ known := by
    intro offer made
    obtain ⟨pair, _, onLine⟩ := List.mem_flatMap.1 made
    obtain ⟨entry, found, rfl⟩ := List.mem_map.1 onLine
    exact ((PhraseIndex.mem_occurrences_iff known _ entry).1 found).1
  rw [Ledger.accepts_iff_ascending members]
  apply forall₂_congr
  intro text member
  rw [Offer.linesOf, ofPhrase_offers stripTags member, LedgerRow.lines, rowAfter, List.map_map,
    List.map_map]
  rfl

/-- What some lines offer leaves the row of each known text that the lines tell. -/
theorem rows_offers (stripTags : Bool) (known : PhraseSet) (lines : List (Int × Text)) :
    ((Ledger.ofKnown known).offerAll
        (lines.flatMap (offersOn stripTags (PhraseIndex.ofSet known)))).rows =
      known.toList.map (rowKept stripTags lines) := by
  rw [Ledger.rows_offerAll]
  exact List.map_congr_left fun text member => rowOf_offers stripTags member lines

/-- Lines whose numbers never fall are searched without error. -/
theorem searchLines_of_ascending {lines : List (Int × Text)}
    (ascending : lines.Pairwise fun earlier later => earlier.1 ≤ later.1) (stripTags : Bool)
    (known : PhraseSet) :
    ∃ recorded, searchLines stripTags (PhraseIndex.ofSet known) (Ledger.ofKnown known) lines =
        .ok recorded ∧ recorded.rows = known.toList.map (rowKept stripTags lines) := by
  refine ⟨_, (searchLines_eq_ok_iff _ _ _ _ _).2 ⟨?_, rfl⟩, rows_offers stripTags known lines⟩
  refine (accepts_offers_iff stripTags known lines).2 fun text _ => ?_
  rw [LedgerRow.lines, rowAfter, List.map_map]
  exact List.pairwise_map.2 (ascending.sublist List.filter_sublist)

/-- A search that succeeds leaves the row of each known text that the lines tell, and it succeeds
only if the numbers on which a text occurs never fall. -/
theorem rows_of_search {auditor : Auditor} {known : PhraseSet} {lines : List (Int × Text)}
    {failure : Option ReadError} {ledger : Ledger}
    (success : (auditor.search ⟨lines, failure⟩ known).result = .ok ledger) :
    ledger.rows = known.toList.map (rowKept auditor.stripTags lines) ∧
      ∀ text ∈ known, (rowAfter auditor.stripTags lines text).lines.Pairwise (· ≤ ·) := by
  by_cases nothing : (PhraseIndex.ofSet known).phrases.isEmpty = true
  · simp only [Auditor.search, nothing, if_true] at success
    cases success
    have blank : ∀ text ∈ known, rowAfter auditor.stripTags lines text = LedgerRow.blank text := by
      intro text member
      rw [PhraseIndex.eq_nil_of_no_phrases nothing member]
      exact rowAfter_empty auditor.stripTags lines
    refine ⟨List.map_congr_left fun text member => ?_, fun text member => ?_⟩
    · rw [rowKept, blank text member]
      rfl
    · rw [blank text member]
      exact List.Pairwise.nil
  · simp only [Auditor.search, nothing, if_false, Bool.false_eq_true] at success
    cases read : searchLines auditor.stripTags (PhraseIndex.ofSet known) (Ledger.ofKnown known)
        lines with
    | error error =>
      rw [read] at success
      cases success
    | ok recorded =>
      rw [read] at success
      cases failure with
      | some error => cases success
      | none =>
        cases success
        obtain ⟨accepted, rfl⟩ := (searchLines_eq_ok_iff _ _ _ _ _).1 read
        exact ⟨rows_offers _ known lines, (accepts_offers_iff _ _ _).1 accepted⟩

/-- A search of lines whose numbers never fall succeeds. -/
theorem exists_search {lines : List (Int × Text)}
    (ascending : lines.Pairwise fun earlier later => earlier.1 ≤ later.1) (auditor : Auditor)
    (known : PhraseSet) : ∃ ledger, (auditor.search ⟨lines, none⟩ known).result = .ok ledger := by
  obtain ⟨recorded, searched, _⟩ := searchLines_of_ascending ascending auditor.stripTags known
  by_cases nothing : (PhraseIndex.ofSet known).phrases.isEmpty = true
  · exact ⟨Ledger.ofKnown known, by simp [Auditor.search, nothing]⟩
  · exact ⟨recorded, by simp [Auditor.search, nothing, searched]⟩

/-- A search of lines whose numbers increase succeeds, and leaves the row of each known text, also
when there is no phrase to search for and the lines are not read. -/
theorem search_rows (auditor : Auditor) (known : PhraseSet) (lines : List (Int × Text))
    (increasing : lines.Pairwise fun earlier later => earlier.1 < later.1) :
    ∃ ledger, (auditor.search ⟨lines, none⟩ known).result = .ok ledger ∧
      ledger.rows = known.toList.map (rowAfter auditor.stripTags lines) := by
  obtain ⟨ledger, success⟩ := exists_search (increasing.imp Int.le_of_lt) auditor known
  refine ⟨ledger, success, (rows_of_search success).1.trans ?_⟩
  exact List.map_congr_left fun text _ => rowKept_eq_rowAfter increasing auditor.stripTags text

end PhraseAudit.Search
