import PhraseAudit.Proofs.Store.Mirror

/-!
# What a store keeps of a history

The three dictionaries of a store are changed at different steps, and an occurrence that is refused has
changed some of them. After any history they have the same phrases nevertheless, and under each of them
the lines, the hits and the first occurrences that the history tells.
-/

namespace PhraseAudit

/-- A line that is out of order is named in the message, unless it has too many digits. -/
theorem LedgerError.message_outOfOrder (limit : DigitLimit) (line : Int) (phrase : Text) :
    (LedgerError.outOfOrder line phrase).message limit =
      if limit.Allows line then
        s!"Line {String.ofList (Text.ofInt line)} recorded out of order for " ++
          phrase.quotedString
      else (NumberError.mk (limit.getD 0)).message := by
  rw [message]
  by_cases allowed : limit.Allows line
  · rw [if_pos allowed, (limit.check_eq_ok_iff [line]).2 (List.forall_mem_singleton.2 allowed)]
    rfl
  · rw [if_neg allowed,
      (limit.check_eq_error_iff [line] _).2 ⟨rfl, line, List.mem_cons_self, allowed⟩]

namespace Dictionary

variable {κ ν : Type} [DecidableEq κ]

/-- Keys with one more at the end, unless it is there already. -/
def withKey (keys : List κ) (key : κ) : List κ :=
  if key ∈ keys then keys else keys ++ [key]

/-- A key that is there is not added. -/
theorem withKey_of_mem {keys : List κ} {key : κ} (member : key ∈ keys) : withKey keys key = keys :=
  if_pos member

/-- A key is not added twice. -/
theorem withKey_withKey (keys : List κ) (key : κ) :
    withKey (withKey keys key) key = withKey keys key := by
  refine withKey_of_mem ?_
  unfold withKey
  split
  · rename_i member
    exact member
  · exact List.mem_append_right _ List.mem_cons_self

/-- What is found under a key is one of the entries. -/
theorem mem_of_get? {dictionary : Dictionary κ ν} {key : κ} {value : ν}
    (found : dictionary.get? key = some value) : (key, value) ∈ dictionary.entries := by
  obtain ⟨before, after, entries, _⟩ := List.lookup_eq_some_iff.1 found
  rw [entries]
  exact List.mem_append_right _ List.mem_cons_self

end Dictionary

namespace Store

/-- The three dictionaries have the same phrases, in the same order. -/
structure Aligned (store : Store) : Prop where
  hits : store.hits.keys = store.lines.keys
  firstSeen : store.firstSeen.keys = store.lines.keys

/-- Where a phrase has lines already, nothing but its hits is new. -/
theorem Aligned.enter {store : Store} (aligned : store.Aligned) {phrase : Text}
    (seen : phrase ∈ store.lines.keys) (hits : Int) : (store.enter phrase hits).Aligned := by
  have lines : (store.enter phrase hits).lines.keys = store.lines.keys :=
    (Dictionary.keys_ensure _ _ _).trans (Dictionary.withKey_of_mem seen)
  constructor
  · refine (Dictionary.keys_insert _ _ _).trans ?_
    rw [lines, aligned.hits]
    exact Dictionary.withKey_of_mem seen
  · rw [lines]
    exact aligned.firstSeen

/-- With a line of its own, a phrase comes into all three dictionaries. -/
theorem Aligned.extend {store : Store} (aligned : store.Aligned) (phrase : Text)
    (sighting : Sighting) (hits : Int) :
    ((store.enter phrase hits).extend phrase sighting).Aligned := by
  have entered : (store.enter phrase hits).lines.keys =
      Dictionary.withKey store.lines.keys phrase := Dictionary.keys_ensure _ _ _
  have lines : ((store.enter phrase hits).extend phrase sighting).lines.keys =
      Dictionary.withKey store.lines.keys phrase := by
    refine (Dictionary.keys_insert _ _ _).trans ?_
    rw [entered]
    exact Dictionary.withKey_withKey _ _
  constructor
  · refine (Dictionary.keys_insert _ _ _).trans ?_
    rw [lines, aligned.hits]
    rfl
  · refine (Dictionary.keys_insert _ _ _).trans ?_
    rw [lines]
    exact congrArg (Dictionary.withKey · phrase) aligned.firstSeen

/-- The dictionaries stay aligned when an occurrence is added, also when it is refused. A phrase that
gets no line has one already, since the last of its lines was looked at. -/
theorem Aligned.add {store : Store} (aligned : store.Aligned) (phrase : Text) (sighting : Sighting)
    (hits : Int) : (store.add phrase sighting hits).2.Aligned := by
  unfold Store.add
  split
  · unfold addLine
    split
    · exact aligned.extend phrase sighting hits
    · rename_i last ends
      have seen : phrase ∈ store.lines.keys := by
        rw [Dictionary.mem_keys_iff]
        by_contra absent
        have nothing : store.lines.get? phrase = none :=
          Option.eq_none_iff_forall_ne_some.2 fun value found => absent ⟨value, found⟩
        have entered : (store.enter phrase hits).linesOf phrase = [] := by
          rw [linesOf, Store.enter, Dictionary.get?_ensure, if_pos rfl, nothing]
          rfl
        rw [entered] at ends
        cases ends
      split
      · exact aligned.enter seen hits
      · split
        · exact aligned.enter seen hits
        · exact aligned.extend phrase sighting hits
  · exact aligned

/-- The dictionaries are aligned after every history. -/
theorem aligned_offerAll (known : PhraseSet) (history : List Offer) :
    ((ofKnown known).offerAll history).Aligned := by
  induction history using List.reverseRecOn with
  | nil => exact ⟨rfl, rfl⟩
  | append_singleton history offer ih =>
    rw [offerAll_concat]
    exact ih.add _ _ _

/-- A phrase under which something is kept is a known one with a used row. -/
theorem used_of_mem_keys {known : PhraseSet} {history : List Offer} {phrase : Text}
    (member : phrase ∈ ((ofKnown known).offerAll history).lines.keys) :
    phrase ∈ known ∧ (Offer.rowOf history phrase).sightings ≠ [] := by
  obtain ⟨inside, offer, made, about⟩ := (mem_keys_lines_iff known history phrase).1 member
  refine ⟨inside, fun unused => ?_⟩
  exact (Offer.sightings_rowOf_eq_nil_iff history phrase).1 unused offer made about

/-- The first occurrences of a phrase are kept under the lines of its row, each as it was offered first
on this line. -/
theorem details_of_used {known : PhraseSet} {history : List Offer} {phrase : Text}
    (member : phrase ∈ known) (used : (Offer.rowOf history phrase).sightings ≠ []) :
    ∃ details, ((ofKnown known).offerAll history).firstSeen.get? phrase = some details ∧
      details.keys = (Offer.rowOf history phrase).lines ∧
      ∀ line ∈ details.keys, ∃ sighting, details.get? line = some sighting ∧
        ((Offer.ofPhrase phrase history).map (·.sighting)).find? (fun other => other.line = line) =
          some sighting := by
  have kept := (keeps_of_known known history member).details
  rw [Offer.phrase_rowOf, LedgerRow.ifUsed, if_neg used, Option.map_eq_some_iff] at kept
  obtain ⟨details, found, entries⟩ := kept
  refine ⟨details, found, ?_, fun line inside => ?_⟩
  · rw [Dictionary.keys, entries, LedgerRow.keys_entries]
  · obtain ⟨sighting, value⟩ := (details.mem_keys_iff line).1 inside
    have entry := Dictionary.mem_of_get? value
    rw [entries] at entry
    obtain ⟨first, listed, same⟩ := List.mem_map.1 entry
    obtain ⟨rfl, rfl⟩ := Prod.mk.inj same
    exact ⟨first, value, find?_of_mem_leftMaxima listed⟩

/-- What a store answers and keeps is told by the history of offers.

The next offer is refused as unknown exactly when its phrase is not known. Otherwise it is on a new
line when its line exceeds all lines offered for the phrase before, on the same line when it is the
greatest of them, and out of order when one of them exceeds it. The message about a line out of order
names the line, unless the line has more digits than the host allows: then the message is about that.

The three dictionaries have the same phrases, those known ones that were offered. Under each of them the
lines are the left maxima of the lines offered for it, at least one. The first occurrences have just
these lines as keys, each with the snippet of the first offer on that line. And the hits are those of all
offers of the phrase, also of those that were refused.

Proof: under each known phrase the store keeps the row that the history tells, by induction on its last
offer, and the keys of the three dictionaries stay the same through every step. -/
theorem offerAll_told_by_history (known : PhraseSet) (history : List Offer) :
    let store := (ofKnown known).offerAll history
    (∀ offer : Offer,
      let earlier := Offer.linesOf offer.phrase history
      let line := offer.sighting.line
      let outcome := (store.offer offer).1
      (outcome = .error (.unknownPhrase offer.phrase) ↔ offer.phrase ∉ known) ∧
      (offer.phrase ∈ known →
        (outcome = .ok .newLine ↔ ∀ other ∈ earlier, other < line) ∧
        (outcome = .ok .sameLine ↔ line ∈ earlier ∧ ∀ other ∈ earlier, other ≤ line) ∧
        (outcome = .error (.outOfOrder line offer.phrase) ↔ ∃ other ∈ earlier, line < other)) ∧
      ∀ limit : DigitLimit, (LedgerError.outOfOrder line offer.phrase).message limit =
        if limit.Allows line then
          s!"Line {String.ofList (Text.ofInt line)} recorded out of order for " ++
            offer.phrase.quotedString
        else (NumberError.mk (limit.getD 0)).message) ∧
    (∀ phrase, phrase ∈ store.lines.keys ↔
      phrase ∈ known ∧ ∃ offer ∈ history, offer.phrase = phrase) ∧
    store.hits.keys = store.lines.keys ∧ store.firstSeen.keys = store.lines.keys ∧
    ∀ phrase ∈ store.lines.keys, ∃ lines details,
      store.lines.get? phrase = some lines ∧ lines ≠ [] ∧
      lines = leftMaxima id (Offer.linesOf phrase history) ∧ lines.Pairwise (· < ·) ∧
      store.firstSeen.get? phrase = some details ∧ details.keys = lines ∧
      (∀ line ∈ lines, ∃ sighting, details.get? line = some sighting ∧
        ((Offer.ofPhrase phrase history).map (·.sighting)).find? (fun other => other.line = line) =
          some sighting) ∧
      store.hits.get? phrase = some ((Offer.ofPhrase phrase history).map (·.hits)).sum := by
  intro store
  obtain ⟨alike, alikeToo⟩ := aligned_offerAll known history
  refine ⟨?_, mem_keys_lines_iff known history, alike, alikeToo, ?_⟩
  · intro offer earlier line outcome
    have answered : outcome = _ := answer_offerAll known history offer
    rw [answered]
    refine ⟨Ledger.offer_eq_unknownPhrase_iff known history offer, fun member => ?_,
      fun limit => LedgerError.message_outOfOrder limit line offer.phrase⟩
    rw [Ledger.offer_of_known member history]
    exact ⟨Offer.verdict_eq_newLine_iff _ _ _, Offer.verdict_eq_sameLine_iff _ _ _,
      Offer.verdict_eq_outOfOrder_iff _ _ _⟩
  · intro phrase seen
    obtain ⟨member, used⟩ := used_of_mem_keys seen
    obtain ⟨details, found, keys, first⟩ := details_of_used member used
    have kept := keeps_of_known known history member
    refine ⟨(Offer.rowOf history phrase).lines, details, ?_, ?_, Offer.lines_rowOf history phrase,
      (sound_rowOf history phrase).increasing, found, keys, keys ▸ first, ?_⟩
    · exact kept.lines.trans (if_neg used)
    · rwa [LedgerRow.lines, ne_eq, List.map_eq_nil_iff]
    · exact kept.hits.trans (if_neg used)

/-- Two phrases are offered in turn, one of them on a line again and on a line before, and an unknown
phrase in between. -/
theorem offerAll_told_by_history_mixed :
    let known := PhraseSet.ofList ["cat".toList, "dog".toList]
    let history : List Offer := [
      ⟨"cat".toList, ⟨5, "a cat".toList⟩, 2⟩, ⟨"dog".toList, ⟨1, "a dog".toList⟩, 1⟩,
      ⟨"cat".toList, ⟨3, "no cat".toList⟩, 1⟩, ⟨"cow".toList, ⟨9, "a cow".toList⟩, 1⟩,
      ⟨"cat".toList, ⟨5, "the cat".toList⟩, 4⟩, ⟨"cat".toList, ⟨8, "cats".toList⟩, 1⟩]
    let store := (ofKnown known).offerAll history
    (store.offer ⟨"cat".toList, ⟨7, []⟩, 1⟩).1 = .error (.outOfOrder 7 "cat".toList) ∧
      store.lines.get? "cat".toList = some [5, 8] ∧ store.hits.get? "cat".toList = some 8 := by
  intro known history store
  have member : "cat".toList ∈ known := (PhraseSet.mem_ofList _ _).2 (by simp)
  obtain ⟨answers, keys, _, _, kept⟩ := offerAll_told_by_history known history
  refine ⟨?_, ?_⟩
  · exact ((answers ⟨"cat".toList, ⟨7, []⟩, 1⟩).2.1 member).2.2.2 ⟨8, by decide, by decide⟩
  · have seen := (keys "cat".toList).2 ⟨member, _, List.mem_cons_self, rfl⟩
    obtain ⟨lines, _, found, _, same, _, _, _, _, hits⟩ := kept "cat".toList seen
    have told : lines = [5, 8] := same.trans (by decide)
    exact ⟨told ▸ found, hits⟩

end Store

end PhraseAudit
