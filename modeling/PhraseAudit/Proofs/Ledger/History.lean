import Mathlib.Algebra.Ring.Int.Defs
import PhraseAudit.Proofs.Ledger.LeftMaxima
import PhraseAudit.Proofs.Ledger.Recording

/-!
# What a ledger keeps of a history

Occurrences may be offered to a ledger in any number and order, of known and of unknown phrases, on
any lines, and it goes on being used after it has refused one. Its rows are then told by the history
of offers alone: `rowOf` says them without a ledger. A row holds the left maxima of the lines that
were offered for its phrase, so that the last of them is the greatest line offered so far, and a new
offer is judged against that one.
-/

namespace PhraseAudit

/-- An occurrence as it is offered to a ledger: of which phrase, on which line, and how often. -/
structure Offer where
  phrase : Text
  sighting : Sighting
  hits : Int
deriving Repr, DecidableEq

namespace Offer

/-- The offers of one phrase, in the order in which they were made. -/
def ofPhrase (phrase : Text) (history : List Offer) : List Offer :=
  history.filter fun offer => offer.phrase = phrase

/-- The lines that were offered for a phrase. -/
def linesOf (phrase : Text) (history : List Offer) : List Int :=
  (ofPhrase phrase history).map (·.sighting.line)

/-- How often a phrase was hit by all offers of it together. -/
def hitsOf (phrase : Text) (history : List Offer) : Int :=
  ((ofPhrase phrase history).map (·.hits)).sum

/-- The row of a phrase after a history of offers. -/
def rowOf (history : List Offer) (phrase : Text) : LedgerRow where
  phrase := phrase
  hits := hitsOf phrase history
  sightings := leftMaxima (·.line) ((ofPhrase phrase history).map (·.sighting))

/-- What is to become of an occurrence of a known phrase on a line, after some lines were offered for
the phrase. -/
def verdict (phrase : Text) (earlier : List Int) (line : Int) : Except LedgerError Novelty :=
  if ∀ other ∈ earlier, other < line then .ok .newLine
  else if ∃ other ∈ earlier, line < other then .error (.outOfOrder line phrase)
  else .ok .sameLine

@[simp]
theorem phrase_rowOf (history : List Offer) (phrase : Text) :
    (rowOf history phrase).phrase = phrase :=
  rfl

/-- A line is new when it exceeds all lines before. -/
theorem verdict_eq_newLine_iff (phrase : Text) (earlier : List Int) (line : Int) :
    verdict phrase earlier line = .ok .newLine ↔ ∀ other ∈ earlier, other < line := by
  unfold verdict
  split
  · rename_i exceeds
    exact ⟨fun _ => exceeds, fun _ => rfl⟩
  · rename_i reached
    constructor
    · intro new
      split at new
      · cases new
      · cases new
    · intro exceeds
      exact absurd exceeds reached

/-- A line is refused when some line before exceeds it. -/
theorem verdict_eq_outOfOrder_iff (phrase : Text) (earlier : List Int) (line : Int) :
    verdict phrase earlier line = .error (.outOfOrder line phrase) ↔
      ∃ other ∈ earlier, line < other := by
  unfold verdict
  split
  · rename_i exceeds
    constructor
    · intro refused
      cases refused
    · rintro ⟨other, member, above⟩
      exact absurd (exceeds other member) (Int.not_lt.2 (Int.le_of_lt above))
  · split
    · rename_i exceeded
      exact ⟨fun _ => exceeded, fun _ => rfl⟩
    · rename_i notExceeded
      constructor
      · intro refused
        cases refused
      · intro exceeded
        exact absurd exceeded notExceeded

/-- A line is the same as before when it is the greatest of the lines before. -/
theorem verdict_eq_sameLine_iff (phrase : Text) (earlier : List Int) (line : Int) :
    verdict phrase earlier line = .ok .sameLine ↔
      line ∈ earlier ∧ ∀ other ∈ earlier, other ≤ line := by
  unfold verdict
  split
  · rename_i exceeds
    constructor
    · intro same
      cases same
    · rintro ⟨member, _⟩
      exact absurd (exceeds line member) (Int.lt_irrefl line)
  · rename_i reached
    split
    · rename_i exceeded
      constructor
      · intro same
        cases same
      · rintro ⟨_, greatest⟩
        obtain ⟨other, member, above⟩ := exceeded
        exact absurd above (Int.not_lt.2 (greatest other member))
    · rename_i notExceeded
      simp only [not_exists, not_and, Int.not_lt] at notExceeded
      simp only [not_forall, Int.not_lt] at reached
      obtain ⟨other, member, above⟩ := reached
      have same : other = line := Int.le_antisymm (notExceeded other member) above
      exact ⟨fun _ => ⟨same ▸ member, notExceeded⟩, fun _ => rfl⟩

/-- An offer of another phrase is none of the offers of a phrase. -/
theorem ofPhrase_concat_of_ne {phrase : Text} {offer : Offer} (other : offer.phrase ≠ phrase)
    (history : List Offer) : ofPhrase phrase (history ++ [offer]) = ofPhrase phrase history := by
  simp [ofPhrase, other]

/-- An offer of a phrase is the last of its offers. -/
theorem ofPhrase_concat_self (offer : Offer) (history : List Offer) :
    ofPhrase offer.phrase (history ++ [offer]) = ofPhrase offer.phrase history ++ [offer] := by
  simp [ofPhrase]

/-- The lines in the row of a phrase are the left maxima of the lines that were offered for it. -/
theorem lines_rowOf (history : List Offer) (phrase : Text) :
    (rowOf history phrase).lines = leftMaxima id (linesOf phrase history) := by
  rw [LedgerRow.lines, rowOf, map_leftMaxima, linesOf, List.map_map]
  rfl

/-- The row of a phrase holds some line exactly when the phrase was offered. -/
theorem sightings_rowOf_eq_nil_iff (history : List Offer) (phrase : Text) :
    (rowOf history phrase).sightings = [] ↔ ∀ offer ∈ history, offer.phrase ≠ phrase := by
  rw [rowOf, leftMaxima_eq_nil_iff, List.map_eq_nil_iff, ofPhrase, List.filter_eq_nil_iff]
  simp

/-- A phrase that was never offered has a blank row. -/
theorem rowOf_eq_blank {history : List Offer} {phrase : Text}
    (never : ∀ offer ∈ history, offer.phrase ≠ phrase) :
    rowOf history phrase = LedgerRow.blank phrase := by
  have nothing : ofPhrase phrase history = [] := by
    apply List.filter_eq_nil_iff.2
    intro offer inside same
    exact never offer inside (of_decide_eq_true same)
  simp [rowOf, hitsOf, nothing, LedgerRow.blank]

/-- One more offer of a phrase adds its hits, and its line if that exceeds all lines before. -/
theorem rowOf_concat_self (history : List Offer) (offer : Offer) :
    rowOf (history ++ [offer]) offer.phrase =
      { phrase := offer.phrase
        hits := (rowOf history offer.phrase).hits + offer.hits
        sightings := (rowOf history offer.phrase).sightings ++
          if ∀ other ∈ linesOf offer.phrase history, other < offer.sighting.line then
            [offer.sighting] else [] } := by
  simp [rowOf, hitsOf, linesOf, ofPhrase_concat_self, leftMaxima_concat]

/-- The last line in the row of a phrase is the greatest that was offered for it. -/
theorem greatest_of_getLast? {history : List Offer} {phrase : Text} {last : Sighting}
    (ends : (rowOf history phrase).sightings.getLast? = some last) :
    last.line ∈ linesOf phrase history ∧ ∀ other ∈ linesOf phrase history, other ≤ last.line := by
  have lines : linesOf phrase history =
      ((ofPhrase phrase history).map (·.sighting)).map (·.line) := by
    rw [linesOf, List.map_map]
    rfl
  rw [lines]
  constructor
  · exact List.mem_map.2 ⟨last, mem_of_mem_leftMaxima (List.mem_of_getLast? ends), rfl⟩
  · intro other member
    obtain ⟨sighting, inside, rfl⟩ := List.mem_map.1 member
    exact le_of_getLast?_leftMaxima ends sighting inside

/-- One more offer of a phrase is judged by the lines that were offered before it, and leaves the row
after it. The row is asked for its last line only, which is the greatest of them. -/
theorem record_rowOf (history : List Offer) (offer : Offer) :
    (rowOf history offer.phrase).record offer.sighting offer.hits =
      (verdict offer.phrase (linesOf offer.phrase history) offer.sighting.line,
        rowOf (history ++ [offer]) offer.phrase) := by
  rw [rowOf_concat_self]
  cases ends : (rowOf history offer.phrase).sightings.getLast? with
  | none =>
    have empty := List.getLast?_eq_none_iff.1 ends
    have nothing : linesOf offer.phrase history = [] := by
      rw [rowOf, leftMaxima_eq_nil_iff, List.map_eq_nil_iff] at empty
      rw [linesOf, empty, List.map_nil]
    simp [LedgerRow.record, verdict, ends, nothing]
  | some last =>
    obtain ⟨offered, greatest⟩ := greatest_of_getLast? ends
    rcases Int.lt_trichotomy last.line offer.sighting.line with below | same | above
    · have exceeds : ∀ other ∈ linesOf offer.phrase history, other < offer.sighting.line :=
        fun other member => Int.lt_of_le_of_lt (greatest other member) below
      have different : last.line ≠ offer.sighting.line := Int.ne_of_lt below
      have notAbove : ¬ offer.sighting.line < last.line := Int.not_lt.2 (Int.le_of_lt below)
      simp only [LedgerRow.record, verdict, ends, if_pos exceeds, if_neg different,
        if_neg notAbove]
      rfl
    · have reached : ¬ ∀ other ∈ linesOf offer.phrase history, other < offer.sighting.line :=
        fun exceeds => Int.lt_irrefl _ (same ▸ exceeds last.line offered)
      have notAbove : ¬ ∃ other ∈ linesOf offer.phrase history, offer.sighting.line < other := by
        rintro ⟨other, member, above⟩
        exact Int.lt_irrefl _ (Int.lt_of_lt_of_le above (same ▸ greatest other member))
      simp only [LedgerRow.record, verdict, ends, if_pos same, if_neg reached, if_neg notAbove,
        List.append_nil]
      rfl
    · have reached : ¬ ∀ other ∈ linesOf offer.phrase history, other < offer.sighting.line :=
        fun exceeds => Int.lt_irrefl _ (Int.lt_trans above (exceeds last.line offered))
      have exceeded : ∃ other ∈ linesOf offer.phrase history, offer.sighting.line < other :=
        ⟨last.line, offered, above⟩
      have different : last.line ≠ offer.sighting.line := Int.ne_of_gt above
      simp only [LedgerRow.record, verdict, ends, if_neg different, if_pos above, if_neg reached,
        if_pos exceeded, List.append_nil]
      rfl

end Offer

namespace Ledger

/-- Offers one occurrence to a ledger. -/
def offer (ledger : Ledger) (offer : Offer) : Except LedgerError Novelty × Ledger :=
  ledger.record offer.phrase offer.sighting offer.hits

/-- The ledger after a history of offers, whatever became of each of them. -/
def offerAll (ledger : Ledger) (history : List Offer) : Ledger :=
  history.foldl (fun ledger offer => (ledger.offer offer).2) ledger

/-- What became of each offer of a history. -/
def outcomes (ledger : Ledger) : List Offer → List (Except LedgerError Novelty)
  | [] => []
  | offer :: rest => (ledger.offer offer).1 :: (ledger.offer offer).2.outcomes rest

/-- A ledger after one more offer is that after the offers before, offered once more. -/
theorem offerAll_concat (ledger : Ledger) (history : List Offer) (offer : Offer) :
    ledger.offerAll (history ++ [offer]) = ((ledger.offerAll history).offer offer).2 := by
  simp [offerAll]

/-- A history of offers leaves the row that it tells of each known phrase. The induction is on the
history from its end: the last offer changes the row of its phrase and no other. -/
theorem rows_offerAll (known : PhraseSet) (history : List Offer) :
    ((ofKnown known).offerAll history).rows = known.toList.map (Offer.rowOf history) := by
  induction history using List.reverseRecOn with
  | nil => rfl
  | append_singleton history offer ih =>
    rw [offerAll_concat, Ledger.offer, rows_record, ih, List.map_map]
    apply List.map_congr_left
    intro phrase _
    by_cases about : phrase = offer.phrase
    · subst about
      rw [Function.comp_apply, Offer.phrase_rowOf, if_pos rfl, Offer.record_rowOf]
    · have other : offer.phrase ≠ phrase := fun same => about same.symm
      rw [Function.comp_apply, Offer.phrase_rowOf, if_neg about, Offer.rowOf, Offer.rowOf,
        Offer.hitsOf, Offer.hitsOf, Offer.ofPhrase_concat_of_ne other]

/-- The known phrases stay what they were through any history. -/
theorem known_offerAll (known : PhraseSet) (history : List Offer) :
    ((ofKnown known).offerAll history).known.toList = known.toList := by
  change ((ofKnown known).offerAll history).rows.map (·.phrase) = known.toList
  rw [rows_offerAll, List.map_map]
  exact List.map_id _

/-- An offer of an unknown phrase is refused, whatever was offered before. -/
theorem offer_of_unknown {known : PhraseSet} {offer : Offer} (unknown : offer.phrase ∉ known)
    (history : List Offer) :
    (((ofKnown known).offerAll history).offer offer).1 =
      .error (.unknownPhrase offer.phrase) := by
  have absent : ((ofKnown known).offerAll history).row? offer.phrase = none := by
    apply List.find?_eq_none.2
    intro row member about
    rw [rows_offerAll] at member
    obtain ⟨phrase, inside, rfl⟩ := List.mem_map.1 member
    exact unknown (of_decide_eq_true about ▸ inside)
  rw [Ledger.offer, record, absent]

/-- An offer of a known phrase is judged by the lines that were offered for it before. -/
theorem offer_of_known {known : PhraseSet} {offer : Offer} (member : offer.phrase ∈ known)
    (history : List Offer) :
    (((ofKnown known).offerAll history).offer offer).1 =
      Offer.verdict offer.phrase (Offer.linesOf offer.phrase history) offer.sighting.line := by
  have row : Offer.rowOf history offer.phrase ∈ ((ofKnown known).offerAll history).rows := by
    rw [rows_offerAll]
    exact List.mem_map.2 ⟨offer.phrase, member, rfl⟩
  have judged := record_result row offer.sighting offer.hits
  rw [Offer.record_rowOf] at judged
  exact judged

/-- A row is used after a history exactly when it is that of a known phrase that was offered. -/
theorem mem_used_offerAll_iff (known : PhraseSet) (history : List Offer) (row : LedgerRow) :
    row ∈ ((ofKnown known).offerAll history).used ↔
      ∃ phrase ∈ known, row = Offer.rowOf history phrase ∧
        ∃ offer ∈ history, offer.phrase = phrase := by
  have offered : ∀ phrase, (Offer.rowOf history phrase).sightings ≠ [] ↔
      ∃ offer ∈ history, offer.phrase = phrase := by
    intro phrase
    rw [ne_eq, Offer.sightings_rowOf_eq_nil_iff]
    simp
  rw [mem_used_iff, rows_offerAll, List.mem_map]
  constructor
  · rintro ⟨⟨phrase, member, rfl⟩, used⟩
    exact ⟨phrase, member, rfl, (offered phrase).1 used⟩
  · rintro ⟨phrase, member, rfl, made⟩
    exact ⟨⟨phrase, member, rfl⟩, (offered phrase).2 made⟩

/-- An offer is refused as unknown exactly when its phrase is not known. -/
theorem offer_eq_unknownPhrase_iff (known : PhraseSet) (history : List Offer) (offer : Offer) :
    (((ofKnown known).offerAll history).offer offer).1 =
      .error (.unknownPhrase offer.phrase) ↔ offer.phrase ∉ known := by
  constructor
  · intro refused member
    rw [offer_of_known member history, Offer.verdict] at refused
    split at refused
    · cases refused
    · split at refused
      · cases refused
      · cases refused
  · intro unknown
    exact offer_of_unknown unknown history

/-- The used rows are those of the known phrases that were offered. -/
theorem exists_used_offerAll_iff (known : PhraseSet) (history : List Offer) (phrase : Text) :
    (∃ row ∈ ((ofKnown known).offerAll history).used, row.phrase = phrase) ↔
      phrase ∈ known ∧ ∃ offer ∈ history, offer.phrase = phrase := by
  constructor
  · rintro ⟨row, used, rfl⟩
    obtain ⟨phrase, member, rfl, made⟩ := (mem_used_offerAll_iff known history row).1 used
    exact ⟨member, made⟩
  · rintro ⟨member, made⟩
    refine ⟨Offer.rowOf history phrase, ?_, rfl⟩
    exact (mem_used_offerAll_iff known history _).2 ⟨phrase, member, rfl, made⟩

end Ledger

end PhraseAudit
