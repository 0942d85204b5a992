import Mathlib.Data.List.Sort
import PhraseAudit.Proofs.Ledger.History
import PhraseAudit.Report.OfStore

/-!
# A store and the ledger that it mirrors

A store keeps in three dictionaries what a ledger keeps in one row for each phrase. Under the same
offers, refused ones included, both give the same answers, and what the three dictionaries have under a
phrase is what the row of the phrase says. So the reports of both are the same.
-/

namespace PhraseAudit

namespace LedgerRow

/-- What is to be kept about a row: nothing, unless the row holds some line. -/
def ifUsed {α : Type} (row : LedgerRow) (value : α) : Option α :=
  if row.sightings = [] then none else some value

/-- A row as recording leaves it: its lines increase, and it has no hits without a line. -/
structure Sound (row : LedgerRow) : Prop where
  increasing : row.lines.Pairwise (· < ·)
  idle : row.sightings = [] → row.hits = 0

/-- The last line of a row is the greatest. -/
theorem Sound.le_last {row : LedgerRow} (sound : row.Sound) {last : Sighting}
    (ends : row.sightings.getLast? = some last) : ∀ line ∈ row.lines, line ≤ last.line := by
  obtain ⟨front, split⟩ := List.getLast?_eq_some_iff.1 ends
  have increasing := sound.increasing
  unfold lines at increasing ⊢
  rw [split, List.map_append] at increasing ⊢
  intro line member
  rcases List.mem_append.1 member with earlier | final
  · exact Int.le_of_lt ((List.pairwise_append.1 increasing).2.2 line earlier _ List.mem_cons_self)
  · exact Int.le_of_eq (List.mem_singleton.1 final)

/-- The entries of a dictionary of first occurrences. -/
def entries (row : LedgerRow) : List (Int × Sighting) :=
  row.sightings.map fun sighting => (sighting.line, sighting)

/-- The keys of these entries are the lines. -/
theorem keys_entries (row : LedgerRow) : row.entries.map (·.1) = row.lines := by
  rw [entries, List.map_map]
  rfl

end LedgerRow

namespace Store

/-- What a store has in its three dictionaries under the phrase of a row is what the row says. -/
structure Keeps (store : Store) (row : LedgerRow) : Prop where
  lines : store.lines.get? row.phrase = row.ifUsed row.lines
  hits : store.hits.get? row.phrase = row.ifUsed row.hits
  details : (store.firstSeen.get? row.phrase).map (·.entries) = row.ifUsed row.entries

/-! ## One occurrence -/

section Add

variable {store : Store} {row : LedgerRow} {sighting : Sighting} {hits : Int}

/-- The lines of a phrase are those of its row. -/
theorem Keeps.linesOf (keeps : store.Keeps row) : store.linesOf row.phrase = row.lines := by
  rw [Store.linesOf, keeps.lines, LedgerRow.ifUsed]
  split
  · rename_i unused
    rw [LedgerRow.lines, unused]
    rfl
  · rfl

/-- The first occurrences of a phrase are those of its row. -/
theorem Keeps.entries_detailsOf (keeps : store.Keeps row) :
    (store.detailsOf row.phrase).entries = row.entries := by
  have kept := keeps.details
  unfold detailsOf LedgerRow.ifUsed at *
  cases found : store.firstSeen.get? row.phrase with
  | none =>
    rw [found] at kept
    split at kept
    · rename_i unused
      rw [LedgerRow.entries, unused]
      rfl
    · cases kept
  | some details =>
    rw [found] at kept
    split at kept
    · cases kept
    · exact Option.some.inj kept

/-- The hits of a phrase are those of its row. -/
theorem Keeps.hitsOf (keeps : store.Keeps row) (sound : row.Sound) :
    store.hitsOf row.phrase = row.hits := by
  rw [Store.hitsOf, keeps.hits, LedgerRow.ifUsed]
  split
  · rename_i unused
    exact (sound.idle unused).symm
  · rfl

/-- What is counted under one phrase leaves the other phrases alone. -/
theorem Keeps.enter_other (keeps : store.Keeps row) {phrase : Text} (other : row.phrase ≠ phrase)
    (hits : Int) : (store.enter phrase hits).Keeps row where
  lines := ((Dictionary.get?_ensure _ _ _ _).trans (if_neg other)).trans keeps.lines
  hits := ((Dictionary.get?_insert _ _ _ _).trans (if_neg other)).trans keeps.hits
  details := keeps.details

/-- A line under one phrase leaves the other phrases alone. -/
theorem Keeps.extend_other (keeps : store.Keeps row) {phrase : Text} (other : row.phrase ≠ phrase)
    (sighting : Sighting) : (store.extend phrase sighting).Keeps row where
  lines := ((Dictionary.get?_insert _ _ _ _).trans (if_neg other)).trans keeps.lines
  hits := keeps.hits
  details := by
    rw [extend, Dictionary.get?_insert, if_neg other]
    exact keeps.details

/-- What is added under one phrase leaves the other phrases alone. -/
theorem Keeps.add_other (keeps : store.Keeps row) {phrase : Text} (other : row.phrase ≠ phrase)
    (sighting : Sighting) (hits : Int) : (store.add phrase sighting hits).2.Keeps row := by
  have entered := keeps.enter_other other hits
  have extended := entered.extend_other other sighting
  unfold add
  split
  · unfold addLine
    split
    · exact extended
    · split
      · exact entered
      · split
        · exact entered
        · exact extended
  · exact keeps

/-- After the hits were counted, a phrase has the lines of its row, also when there are none. -/
theorem Keeps.lines_enter (keeps : store.Keeps row) (hits : Int) :
    (store.enter row.phrase hits).lines.get? row.phrase = some row.lines := by
  refine (Dictionary.get?_ensure _ _ _ _).trans ((if_pos rfl).trans ?_)
  exact congrArg some keeps.linesOf

/-- After the hits were counted, a phrase has those of its row and the new ones. -/
theorem Keeps.hits_enter (keeps : store.Keeps row) (sound : row.Sound) (hits : Int) :
    (store.enter row.phrase hits).hits.get? row.phrase = some (row.hits + hits) := by
  refine (Dictionary.get?_insert _ _ _ _).trans ((if_pos rfl).trans ?_)
  exact congrArg (fun counted => some (counted + hits)) (keeps.hitsOf sound)

/-- A row that holds some line is kept when its hits were counted. -/
theorem Keeps.enter (keeps : store.Keeps row) (sound : row.Sound) (used : row.sightings ≠ [])
    (hits : Int) :
    (store.enter row.phrase hits).Keeps { row with hits := row.hits + hits } where
  lines := (keeps.lines_enter hits).trans (if_neg used).symm
  hits := (keeps.hits_enter sound hits).trans (if_neg used).symm
  details := keeps.details.trans ((if_neg used).trans (if_neg used).symm)

/-- A row is kept with one more line, which is no key of the first occurrences before. -/
theorem Keeps.extend (keeps : store.Keeps row) (sound : row.Sound) (hits : Int)
    (new : sighting.line ∉ row.lines) :
    ((store.enter row.phrase hits).extend row.phrase sighting).Keeps
      { row with hits := row.hits + hits, sightings := row.sightings ++ [sighting] } := by
  have used : row.sightings ++ [sighting] ≠ [] := by simp
  have linesOf : (store.enter row.phrase hits).linesOf row.phrase = row.lines :=
    congrArg (Option.getD · []) (keeps.lines_enter hits)
  have entries := keeps.entries_detailsOf
  have absent : sighting.line ∉ (store.detailsOf row.phrase).entries.map (·.1) := by
    rwa [entries, LedgerRow.keys_entries]
  constructor
  · refine (Dictionary.get?_insert _ _ _ _).trans ((if_pos rfl).trans ?_)
    rw [linesOf, LedgerRow.ifUsed, if_neg used, LedgerRow.lines, LedgerRow.lines, List.map_append]
    rfl
  · rw [LedgerRow.ifUsed, if_neg used]
    exact keeps.hits_enter sound hits
  · rw [LedgerRow.ifUsed, if_neg used, Store.extend, Dictionary.get?_insert, if_pos rfl,
      Option.map_some]
    refine congrArg some ((Dictionary.insertEntry_of_new absent sighting).trans ?_)
    rw [entries, LedgerRow.entries, LedgerRow.entries, List.map_append]
    rfl

/-- What a row is told is kept under its phrase, and the answers are the same. The cases are those of
the last line: there is none, it is the same one, or it is behind or before the new one. -/
theorem Keeps.add (keeps : store.Keeps row) (sound : row.Sound)
    (known : row.phrase ∈ store.known.toList) (sighting : Sighting) (hits : Int) :
    (store.add row.phrase sighting hits).1 = (row.record sighting hits).1 ∧
      (store.add row.phrase sighting hits).2.Keeps (row.record sighting hits).2 := by
  have linesOf : (store.enter row.phrase hits).linesOf row.phrase = row.lines :=
    congrArg (Option.getD · []) (keeps.lines_enter hits)
  have lasts : row.lines.getLast? = row.sightings.getLast?.map (·.line) := List.getLast?_map
  rw [Store.add, if_pos known, addLine, linesOf, lasts, LedgerRow.record]
  cases ends : row.sightings.getLast? with
  | none =>
    have nothing : row.lines = [] := by
      rw [LedgerRow.lines, List.getLast?_eq_none_iff.1 ends]
      rfl
    exact ⟨rfl, keeps.extend sound hits (nothing ▸ List.not_mem_nil)⟩
  | some last =>
    have used : row.sightings ≠ [] := by
      intro unused
      rw [unused] at ends
      cases ends
    simp only [Option.map_some]
    split
    · exact ⟨rfl, keeps.enter sound used hits⟩
    · rename_i different
      split
      · exact ⟨rfl, keeps.enter sound used hits⟩
      · rename_i notBefore
        refine ⟨rfl, keeps.extend sound hits fun member => ?_⟩
        have reached := sound.le_last ends _ member
        omega

/-- Adding leaves the known phrases as they are. -/
theorem known_add (store : Store) (phrase : Text) (sighting : Sighting) (hits : Int) :
    (store.add phrase sighting hits).2.known = store.known := by
  unfold add addLine
  repeat' split
  all_goals rfl

end Add

/-! ## Any history -/

/-- Offers one occurrence to a store. -/
def offer (store : Store) (offer : Offer) : Except LedgerError Novelty × Store :=
  store.add offer.phrase offer.sighting offer.hits

/-- The store after a history of offers, whatever became of each of them. -/
def offerAll (store : Store) (history : List Offer) : Store :=
  history.foldl (fun store offer => (store.offer offer).2) store

/-- A store after one more offer is that after the offers before, offered once more. -/
theorem offerAll_concat (store : Store) (history : List Offer) (offer : Offer) :
    store.offerAll (history ++ [offer]) = ((store.offerAll history).offer offer).2 := by
  simp [offerAll]

/-- The row that a history tells is sound. -/
theorem sound_rowOf (history : List Offer) (phrase : Text) :
    (Offer.rowOf history phrase).Sound where
  increasing := by
    rw [Offer.lines_rowOf]
    exact leftMaxima_increase id _
  idle unused := by
    rw [Offer.rowOf_eq_blank ((Offer.sightings_rowOf_eq_nil_iff history phrase).1 unused)]
    rfl

section History

variable (known : PhraseSet) (history : List Offer)

/-- The known phrases stay what they were through any history. -/
theorem known_offerAll : ((ofKnown known).offerAll history).known = known := by
  induction history using List.reverseRecOn with
  | nil => rfl
  | append_singleton history offer ih =>
    rw [offerAll_concat]
    exact (known_add _ _ _ _).trans ih

/-- A store that was made for some phrases keeps nothing at first. -/
theorem keeps_ofKnown (phrase : Text) : (ofKnown known).Keeps (.blank phrase) :=
  ⟨rfl, rfl, rfl⟩

/-- Nothing is kept under an unknown phrase. -/
theorem keeps_of_unknown {phrase : Text} (unknown : phrase ∉ known) :
    ((ofKnown known).offerAll history).Keeps (.blank phrase) := by
  induction history using List.reverseRecOn with
  | nil => exact keeps_ofKnown known phrase
  | append_singleton history offer ih =>
    rw [offerAll_concat]
    by_cases about : offer.phrase = phrase
    · rw [Store.offer, add, if_neg]
      · exact ih
      · rwa [known_offerAll, about]
    · exact ih.add_other (Ne.symm about) _ _

/-- Under a known phrase a store keeps the row that the history tells. The induction is on the history
from its end: the last offer changes what is kept under its phrase and nothing else. -/
theorem keeps_of_known {phrase : Text} (member : phrase ∈ known) :
    ((ofKnown known).offerAll history).Keeps (Offer.rowOf history phrase) := by
  induction history using List.reverseRecOn with
  | nil => exact keeps_ofKnown known phrase
  | append_singleton history offer ih =>
    rw [offerAll_concat]
    by_cases about : offer.phrase = phrase
    · subst about
      have inside : offer.phrase ∈ ((ofKnown known).offerAll history).known.toList := by
        rwa [known_offerAll]
      have kept := (ih.add (sound_rowOf history offer.phrase) inside offer.sighting offer.hits).2
      rw [Offer.record_rowOf] at kept
      exact kept
    · have same : Offer.rowOf (history ++ [offer]) phrase = Offer.rowOf history phrase := by
        rw [Offer.rowOf, Offer.rowOf, Offer.hitsOf, Offer.hitsOf,
          Offer.ofPhrase_concat_of_ne about]
      rw [same]
      exact ih.add_other (Ne.symm about) _ _

/-- A store answers every offer as the ledger does. -/
theorem answer_offerAll (offer : Offer) :
    (((ofKnown known).offerAll history).offer offer).1 =
      (((Ledger.ofKnown known).offerAll history).offer offer).1 := by
  by_cases member : offer.phrase ∈ known
  · have inside : offer.phrase ∈ ((ofKnown known).offerAll history).known.toList := by
      rwa [known_offerAll]
    have answered := ((keeps_of_known known history member).add
      (sound_rowOf history offer.phrase) inside offer.sighting offer.hits).1
    rw [Offer.record_rowOf] at answered
    exact answered.trans (Ledger.offer_of_known member history).symm
  · rw [Store.offer, add, if_neg, Ledger.offer_of_unknown member]
    rwa [known_offerAll]

/-- The phrases under which lines are kept are the known ones that were offered. -/
theorem mem_keys_lines_iff (phrase : Text) :
    phrase ∈ ((ofKnown known).offerAll history).lines.keys ↔
      phrase ∈ known ∧ ∃ offer ∈ history, offer.phrase = phrase := by
  rw [Dictionary.mem_keys_iff]
  by_cases member : phrase ∈ known
  · have kept := (keeps_of_known known history member).lines
    rw [Offer.phrase_rowOf, LedgerRow.ifUsed] at kept
    rw [kept]
    have offered := not_congr (Offer.sightings_rowOf_eq_nil_iff history phrase)
    simp only [not_forall, not_not, exists_prop] at offered
    by_cases unused : (Offer.rowOf history phrase).sightings = []
    · rw [if_pos unused]
      simp [member, ← offered, unused]
    · rw [if_neg unused]
      simp [member, ← offered, unused]
  · have kept := (keeps_of_unknown known history member).lines
    have nothing : ((ofKnown known).offerAll history).lines.get? phrase = none := kept
    simp [nothing, member]

/-- The phrases that were seen are those of the used rows of the ledger, in the same order: both are
sorted, and they have the same elements. -/
theorem phrases_offerAll :
    ((ofKnown known).offerAll history).phrases.toList =
      ((Ledger.ofKnown known).offerAll history).used.map (·.phrase) := by
  have ordered : (((Ledger.ofKnown known).offerAll history).used.map (·.phrase)).Pairwise
      (· < ·) :=
    ((Ledger.ofKnown known).offerAll history).increasing.sublist (List.filter_sublist.map _)
  refine List.Pairwise.eq_of_mem_iff
    ((ofKnown known).offerAll history).phrases.increasing ordered fun phrase => ?_
  refine (PhraseSet.mem_ofList _ phrase).trans ?_
  rw [mem_keys_lines_iff, List.mem_map]
  exact (Ledger.exists_used_offerAll_iff known history phrase).symm

end History

end Store

end PhraseAudit
