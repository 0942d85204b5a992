import PhraseAudit.Proofs.Ledger.History

/-!
# Histories that are accepted

A history is accepted when no offer of it is refused. Whether it is can be told from its offers: each
of a known phrase, and the lines of no phrase ever falling. The row of a phrase then holds every line
that was offered for it, each once.
-/

namespace PhraseAudit

/-- When the keys of a list never fall, its left maxima have the keys of all entries. -/
theorem mem_map_leftMaxima_iff {α : Type} {key : α → Int} {entries : List α}
    (ascending : entries.Pairwise fun earlier later => key earlier ≤ key later) (value : Int) :
    value ∈ (leftMaxima key entries).map key ↔ value ∈ entries.map key := by
  constructor
  · intro member
    obtain ⟨entry, inside, rfl⟩ := List.mem_map.1 member
    exact List.mem_map_of_mem (mem_of_mem_leftMaxima inside)
  · intro member
    induction entries using List.reverseRecOn with
    | nil => exact member
    | append_singleton entries last ih =>
      obtain ⟨before, _, below⟩ := List.pairwise_append.1 ascending
      have step := ih before
      rw [leftMaxima_concat]
      rw [List.map_append, List.mem_append] at member ⊢
      rcases member with earlier | atEnd
      · exact .inl (step earlier)
      · obtain rfl : value = key last := by simpa using atEnd
        split
        · right
          simp
        · rename_i reached
          -- Some entry before the last has a key as great as the last one, and so the same.
          simp only [not_forall, Int.not_lt] at reached
          obtain ⟨other, inside, above⟩ := reached
          have same : key other = key last :=
            Int.le_antisymm (below other inside last (List.mem_singleton_self _)) above
          exact .inl (step (same ▸ List.mem_map_of_mem inside))

namespace Offer

/-- The lines of one more offer of a phrase are those before and its own. -/
theorem linesOf_concat_self (offer : Offer) (history : List Offer) :
    linesOf offer.phrase (history ++ [offer]) =
      linesOf offer.phrase history ++ [offer.sighting.line] := by
  simp [linesOf, ofPhrase_concat_self]

/-- An offer of another phrase does not change the lines of a phrase. -/
theorem linesOf_concat_of_ne {phrase : Text} {offer : Offer} (other : offer.phrase ≠ phrase)
    (history : List Offer) : linesOf phrase (history ++ [offer]) = linesOf phrase history := by
  rw [linesOf, ofPhrase_concat_of_ne other, linesOf]

/-- An occurrence is not refused exactly when no line before exceeds its line. -/
theorem verdict_isOk_iff (phrase : Text) (earlier : List Int) (line : Int) :
    (∃ novelty, verdict phrase earlier line = .ok novelty) ↔ ∀ other ∈ earlier, other ≤ line := by
  constructor
  · rintro ⟨novelty, accepted⟩ other member
    cases novelty with
    | newLine =>
      exact Int.le_of_lt ((verdict_eq_newLine_iff phrase earlier line).1 accepted other member)
    | sameLine => exact ((verdict_eq_sameLine_iff phrase earlier line).1 accepted).2 other member
  · intro greatest
    by_cases member : line ∈ earlier
    · exact ⟨.sameLine, (verdict_eq_sameLine_iff phrase earlier line).2 ⟨member, greatest⟩⟩
    · refine ⟨.newLine, (verdict_eq_newLine_iff phrase earlier line).2 ?_⟩
      intro other inside
      have different : other ≠ line := fun same => member (same ▸ inside)
      have below := greatest other inside
      omega

end Offer

namespace Ledger

/-- No offer of a history is refused. -/
def Accepts (ledger : Ledger) (history : List Offer) : Prop :=
  ∀ outcome ∈ ledger.outcomes history, ∃ novelty, outcome = .ok novelty

/-- The ledger after a history that begins with an offer is that after the rest, begun where the offer
leads. -/
theorem offerAll_cons (ledger : Ledger) (offer : Offer) (rest : List Offer) :
    ledger.offerAll (offer :: rest) = (ledger.offer offer).2.offerAll rest :=
  rfl

/-- The ledger after a history in two parts is that after the second, begun where the first ends. -/
theorem offerAll_append (ledger : Ledger) (first second : List Offer) :
    ledger.offerAll (first ++ second) = (ledger.offerAll first).offerAll second :=
  List.foldl_append

/-- What becomes of a history in two parts is what becomes of each of them. -/
theorem outcomes_append (ledger : Ledger) (first second : List Offer) :
    ledger.outcomes (first ++ second) =
      ledger.outcomes first ++ (ledger.offerAll first).outcomes second := by
  induction first generalizing ledger with
  | nil => rfl
  | cons offer rest ih =>
    rw [List.cons_append, outcomes, outcomes, ih, List.cons_append, offerAll_cons]

/-- A history in two parts is accepted when the first part is, and the second after it. -/
theorem accepts_append (ledger : Ledger) (first second : List Offer) :
    ledger.Accepts (first ++ second) ↔
      ledger.Accepts first ∧ (ledger.offerAll first).Accepts second := by
  rw [Accepts, outcomes_append]
  exact List.forall_mem_append

/-- A history that begins with an offer is accepted when the offer is, and the rest after it. -/
theorem accepts_cons (ledger : Ledger) (offer : Offer) (rest : List Offer) :
    ledger.Accepts (offer :: rest) ↔
      (∃ novelty, (ledger.offer offer).1 = .ok novelty) ∧ (ledger.offer offer).2.Accepts rest :=
  List.forall_mem_cons

/-- A history of known phrases is accepted exactly when the lines of no phrase ever fall. The
induction is on the history from its end: the last offer is judged by the lines before it. -/
theorem accepts_iff_ascending {known : PhraseSet} {history : List Offer}
    (members : ∀ offer ∈ history, offer.phrase ∈ known) :
    (ofKnown known).Accepts history ↔
      ∀ phrase ∈ known, (Offer.linesOf phrase history).Pairwise (· ≤ ·) := by
  induction history using List.reverseRecOn with
  | nil => simp [Accepts, outcomes, Offer.linesOf, Offer.ofPhrase]
  | append_singleton history offer ih =>
    have before : ∀ other ∈ history, other.phrase ∈ known :=
      fun other inside => members other (List.mem_append_left _ inside)
    have last : offer.phrase ∈ known := members offer (by simp)
    have single : ((ofKnown known).offerAll history).Accepts [offer] ↔
        ∀ line ∈ Offer.linesOf offer.phrase history, line ≤ offer.sighting.line := by
      rw [accepts_cons, offer_of_known last, Offer.verdict_isOk_iff]
      simp [Accepts, outcomes]
    rw [accepts_append, ih before, single]
    constructor
    · rintro ⟨ascending, below⟩ phrase inside
      by_cases about : offer.phrase = phrase
      · subst about
        rw [Offer.linesOf_concat_self, List.pairwise_append]
        refine ⟨ascending _ inside, List.pairwise_singleton _ _, ?_⟩
        intro line member other same
        rw [List.mem_singleton.1 same]
        exact below line member
      · rw [Offer.linesOf_concat_of_ne about]
        exact ascending phrase inside
    · intro ascending
      refine ⟨fun phrase inside => ?_, fun line member => ?_⟩
      · have whole := ascending phrase inside
        by_cases about : offer.phrase = phrase
        · subst about
          rw [Offer.linesOf_concat_self, List.pairwise_append] at whole
          exact whole.1
        · rwa [Offer.linesOf_concat_of_ne about] at whole
      · have whole := ascending offer.phrase last
        rw [Offer.linesOf_concat_self, List.pairwise_append] at whole
        exact whole.2.2 line member _ (List.mem_singleton_self _)

end Ledger

end PhraseAudit
