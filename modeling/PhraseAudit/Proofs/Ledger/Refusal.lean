import PhraseAudit.Proofs.Ledger.Acceptance
import PhraseAudit.Report.Table

/-!
# What a refused offer leaves behind

An offer of an unknown phrase leaves a ledger as it is. An offer that comes out of order does not: no
line and no snippet is recorded, but its hits have been counted before the line is looked at, and stay.
So a history leaves the lines and snippets that its accepted offers leave on their own, while the hits
of a phrase are those of its accepted and of its refused offers together, and this sum is what the
table shows.
-/

namespace PhraseAudit

/-- The row with some more hits. -/
def LedgerRow.counted (row : LedgerRow) (extra : Int) : LedgerRow :=
  { row with hits := row.hits + extra }

namespace LedgerRow

@[simp]
theorem phrase_counted (row : LedgerRow) (extra : Int) : (row.counted extra).phrase = row.phrase :=
  rfl

@[simp]
theorem counted_zero (row : LedgerRow) : row.counted 0 = row := by
  simp [counted]

@[simp]
theorem counted_counted (row : LedgerRow) (extra more : Int) :
    (row.counted extra).counted more = row.counted (extra + more) := by
  simp [counted, Int.add_assoc]

/-- Hits that were counted before have no part in what becomes of an occurrence, and stay. -/
theorem record_counted (row : LedgerRow) (extra : Int) (sighting : Sighting) (hits : Int) :
    (row.counted extra).record sighting hits =
      ((row.record sighting hits).1, (row.record sighting hits).2.counted extra) := by
  have order : row.hits + extra + hits = row.hits + hits + extra := Int.add_right_comm _ _ _
  unfold record
  simp only [counted, order]
  split
  · rfl
  · split
    · rfl
    · split <;> rfl

/-- A row that refuses an occurrence counts its hits. -/
theorem record_of_error {row : LedgerRow} {sighting : Sighting} {hits : Int} {error : LedgerError}
    (refused : (row.record sighting hits).1 = .error error) :
    (row.record sighting hits).2 = row.counted hits := by
  unfold record at refused ⊢
  simp only at refused ⊢
  split at refused
  · cases refused
  · split at refused
    · cases refused
    · split at refused
      · rename_i last _ different above
        rw [if_neg different, if_pos above]
        rfl
      · cases refused

end LedgerRow

/-- One more offer of a phrase adds its hits to those of the phrase, and to no others. -/
theorem Offer.hitsOf_concat (phrase : Text) (history : List Offer) (offer : Offer) :
    hitsOf phrase (history ++ [offer]) =
      hitsOf phrase history + if phrase = offer.phrase then offer.hits else 0 := by
  by_cases about : phrase = offer.phrase
  · subst about
    simp [hitsOf, ofPhrase_concat_self]
  · have other : offer.phrase ≠ phrase := fun same => about same.symm
    simp [hitsOf, ofPhrase_concat_of_ne other, about]

namespace Ledger

/-- The offers of a history that were accepted, or those that were refused, in their order. -/
def judged (ledger : Ledger) (asAccepted : Bool) : List Offer → List Offer
  | [] => []
  | offer :: rest =>
    let others := (ledger.offer offer).2.judged asAccepted rest
    if (ledger.offer offer).1.isOk = asAccepted then offer :: others else others

/-- The offers of a history that were accepted. -/
def accepted (ledger : Ledger) (history : List Offer) : List Offer :=
  ledger.judged true history

/-- The offers of a history that were refused. -/
def refused (ledger : Ledger) (history : List Offer) : List Offer :=
  ledger.judged false history

/-- One more offer is judged after the history before it. -/
theorem judged_concat (ledger : Ledger) (asAccepted : Bool) (history : List Offer)
    (offer : Offer) :
    ledger.judged asAccepted (history ++ [offer]) = ledger.judged asAccepted history ++
      if ((ledger.offerAll history).offer offer).1.isOk = asAccepted then [offer] else [] := by
  induction history generalizing ledger with
  | nil => rfl
  | cons first rest ih =>
    rw [List.cons_append, judged, judged, ih, offerAll_cons]
    split
    · rfl
    · rfl

/-- A ledger counts more than another when it has the same rows, except that some hits are added to
those of each phrase. -/
def CountsMore (extra : Text → Int) (ledger other : Ledger) : Prop :=
  other.rows = ledger.rows.map fun row => row.counted (extra row.phrase)

section CountsMore

variable {extra : Text → Int} {ledger other : Ledger}

/-- The row of a phrase has the hits that are added for the phrase. -/
theorem CountsMore.row? (more : CountsMore extra ledger other) (phrase : Text) :
    other.row? phrase = (ledger.row? phrase).map fun row => row.counted (extra row.phrase) := by
  rw [Ledger.row?, more, List.find?_map]
  rfl

/-- A ledger that counts more answers an offer in the same way. -/
theorem CountsMore.answer (more : CountsMore extra ledger other) (offer : Offer) :
    (other.offer offer).1 = (ledger.offer offer).1 := by
  unfold Ledger.offer record
  rw [more.row?]
  cases ledger.row? offer.phrase with
  | none => rfl
  | some row =>
    simp only [Option.map_some]
    rw [LedgerRow.record_counted]

/-- A ledger that counts more goes on doing so when both are offered the same. -/
theorem CountsMore.offered (more : CountsMore extra ledger other) (offer : Offer) :
    CountsMore extra (ledger.offer offer).2 (other.offer offer).2 := by
  rw [CountsMore, Ledger.offer, Ledger.offer, rows_record, rows_record, more, List.map_map,
    List.map_map]
  apply List.map_congr_left
  intro row _
  have same : (row.counted (extra row.phrase)).phrase = row.phrase := row.phrase_counted _
  rw [Function.comp_apply, Function.comp_apply]
  by_cases about : row.phrase = offer.phrase
  · rw [if_pos (same.trans about), if_pos about, LedgerRow.record_counted, LedgerRow.phrase_record]
  · rw [if_neg (same ▸ about), if_neg about]

end CountsMore

/-- A refused offer adds its hits to the row of its phrase, if there is one, and changes nothing
else. -/
theorem rows_of_refused {ledger : Ledger} {offer : Offer} {error : LedgerError}
    (refused : (ledger.offer offer).1 = .error error) :
    (ledger.offer offer).2.rows = ledger.rows.map fun row =>
      if row.phrase = offer.phrase then row.counted offer.hits else row := by
  rw [Ledger.offer, rows_record]
  apply List.map_congr_left
  intro row member
  by_cases about : row.phrase = offer.phrase
  · have judgement := record_result member offer.sighting offer.hits
    rw [about] at judgement
    rw [if_pos about, if_pos about]
    exact LedgerRow.record_of_error (judgement.symm.trans refused)
  · rw [if_neg about, if_neg about]

/-- After a refusal a ledger counts more by the hits that were refused. -/
theorem CountsMore.after_refusal {extra : Text → Int} {ledger other : Ledger}
    (more : CountsMore extra ledger other) {offer : Offer} {error : LedgerError}
    (refused : (other.offer offer).1 = .error error) :
    CountsMore (fun phrase => extra phrase + if phrase = offer.phrase then offer.hits else 0)
      ledger (other.offer offer).2 := by
  rw [CountsMore, rows_of_refused refused, more, List.map_map]
  apply List.map_congr_left
  intro row _
  have same : (row.counted (extra row.phrase)).phrase = row.phrase := row.phrase_counted _
  rw [Function.comp_apply]
  by_cases about : row.phrase = offer.phrase
  · rw [if_pos (same.trans about), if_pos about, LedgerRow.counted_counted]
  · rw [if_neg (same ▸ about), if_neg about, Int.add_zero]

/-- A history leaves what its accepted offers leave on their own, and the hits of the refused ones
besides. The induction is on the history from its end: the last offer is answered in both ledgers
alike, since they differ in hits only. -/
theorem countsMore_accepted (ledger : Ledger) (history : List Offer) :
    CountsMore (fun phrase => Offer.hitsOf phrase (ledger.refused history))
      (ledger.offerAll (ledger.accepted history)) (ledger.offerAll history) := by
  induction history using List.reverseRecOn with
  | nil =>
    refine ((List.map_id _).symm.trans (List.map_congr_left ?_))
    intro row _
    exact row.counted_zero.symm
  | append_singleton history offer ih =>
    rw [offerAll_concat]
    unfold accepted refused at ih ⊢
    rw [judged_concat, judged_concat]
    cases answer : ((ledger.offerAll history).offer offer).1 with
    | ok novelty =>
      simp only [Except.isOk, Except.toBool, if_true, Bool.true_eq_false, if_false,
        List.append_nil]
      rw [offerAll_concat]
      exact ih.offered offer
    | error error =>
      simp only [Except.isOk, Except.toBool, Bool.false_eq_true, if_false, List.append_nil,
        if_true, Offer.hitsOf_concat]
      exact ih.after_refusal answer

/-- The accepted offers of a history are accepted also without the others. -/
theorem accepts_accepted (ledger : Ledger) (history : List Offer) :
    ledger.Accepts (ledger.accepted history) := by
  induction history using List.reverseRecOn with
  | nil => simp [Accepts, accepted, judged, outcomes]
  | append_singleton history offer ih =>
    have more := countsMore_accepted ledger history
    unfold accepted at ih more ⊢
    rw [judged_concat]
    cases answer : ((ledger.offerAll history).offer offer).1 with
    | ok novelty =>
      have isOk : (Except.ok novelty : Except LedgerError Novelty).isOk = true := rfl
      rw [if_pos isOk, accepts_append, accepts_cons]
      refine ⟨ih, ⟨novelty, (more.answer offer).symm.trans answer⟩, ?_⟩
      simp [Accepts, outcomes]
    | error error =>
      rw [if_neg (by simp [Except.isOk, Except.toBool]), List.append_nil]
      exact ih

/-- The rows that are used are those that the accepted offers leave, with the refused hits added. -/
theorem used_offerAll (ledger : Ledger) (history : List Offer) :
    (ledger.offerAll history).used = (ledger.offerAll (ledger.accepted history)).used.map fun row =>
      row.counted (Offer.hitsOf row.phrase (ledger.refused history)) := by
  rw [used, countsMore_accepted, List.filter_map]
  rfl

/-- A refused offer leaves a ledger as it is exactly when its phrase is not known or it has no hits. -/
theorem refused_eq_self_iff {ledger : Ledger} {offer : Offer} {error : LedgerError}
    (refused : (ledger.offer offer).1 = .error error) :
    (ledger.offer offer).2 = ledger ↔ offer.phrase ∉ ledger.known ∨ offer.hits = 0 := by
  have rows := rows_of_refused refused
  constructor
  · intro same
    by_cases member : offer.phrase ∈ ledger.known
    · right
      obtain ⟨row, inside, about⟩ := List.mem_map.1 member
      rw [same] at rows
      have fixed := List.map_inj_left.1 ((List.map_id _).trans rows) row inside
      rw [if_pos about] at fixed
      have hits : row.hits = row.hits + offer.hits := congrArg LedgerRow.hits fixed
      omega
    · exact .inl member
  · intro harmless
    apply eq_of_rows_eq
    rw [rows]
    refine (List.map_congr_left ?_).trans (List.map_id _)
    intro row inside
    split
    · rename_i about
      rcases harmless with unknown | none
      · exact absurd (List.mem_map.2 ⟨row, inside, about⟩) unknown
      · rw [none, LedgerRow.counted_zero]
        rfl
    · rfl

/-- A refused offer is not recorded, but its hits are counted.

A ledger that refuses an offer has afterwards the lines and snippets that it had before. The hits of
the phrase have grown by those of the offer, if the phrase is known, so that the ledger is unchanged
exactly when the phrase is not known or the offer has no hits. Hence a history leaves the rows that
its accepted offers leave on their own, with the hits of the refused ones added, and the hits in the
table are those of the accepted and the refused offers together. -/
theorem refusal_counts_hits (known : PhraseSet) (history : List Offer) :
    let ledger := (ofKnown known).offerAll history
    let accepted := (ofKnown known).accepted history
    let refused := (ofKnown known).refused history
    (∀ offer error, (ledger.offer offer).1 = .error error →
      (ledger.offer offer).2.rows = ledger.rows.map (fun row =>
        if row.phrase = offer.phrase then row.counted offer.hits else row) ∧
      ((ledger.offer offer).2 = ledger ↔ offer.phrase ∉ known ∨ offer.hits = 0)) ∧
    (ofKnown known).Accepts accepted ∧
    ledger.used = ((ofKnown known).offerAll accepted).used.map (fun row =>
      row.counted (Offer.hitsOf row.phrase refused)) ∧
    ∀ row ∈ ledger.used, (Report.tableRow row).hits =
      Text.ofInt (Offer.hitsOf row.phrase accepted + Offer.hitsOf row.phrase refused) := by
  intro ledger accepted refused
  refine ⟨?_, accepts_accepted _ history, used_offerAll _ history, ?_⟩
  · intro offer error answer
    have members : offer.phrase ∈ ledger.known ↔ offer.phrase ∈ known :=
      iff_of_eq (congrArg (List.Mem offer.phrase) (known_offerAll known history))
    refine ⟨rows_of_refused answer, ?_⟩
    rw [refused_eq_self_iff answer, members]
  · intro row member
    rw [used_offerAll] at member
    obtain ⟨alone, used, rfl⟩ := List.mem_map.1 member
    obtain ⟨phrase, _, rfl, _⟩ := (mem_used_offerAll_iff known accepted alone).1 used
    rfl

/-- An offer that comes out of order is refused, and counted. -/
theorem refusal_counts_hits_backwards :
    let known := PhraseSet.ofList ["cat".toList]
    let history : List Offer := [⟨"cat".toList, ⟨5, "a cat".toList⟩, 1⟩]
    let late : Offer := ⟨"cat".toList, ⟨3, "the cat".toList⟩, 1⟩
    let ledger := (ofKnown known).offerAll history
    (ledger.offer late).1 = .error (.outOfOrder 3 "cat".toList) ∧
      (ledger.offer late).2 ≠ ledger ∧
      (ledger.offer late).2.rows = [⟨"cat".toList, 2, [⟨5, "a cat".toList⟩]⟩] := by
  intro known history late ledger
  have answer : (ledger.offer late).1 = .error (.outOfOrder 3 "cat".toList) := rfl
  obtain ⟨rows, unchanged⟩ := (refusal_counts_hits known history).1 late _ answer
  refine ⟨answer, ?_, rows.trans rfl⟩
  intro same
  rcases unchanged.1 same with unknown | none
  · exact unknown ((PhraseSet.mem_ofList _ _).2 List.mem_cons_self)
  · cases none

end Ledger

end PhraseAudit
