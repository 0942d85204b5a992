import PhraseAudit.Proofs.Store.Reports

/-!
# Documents that agree with themselves

A document says of each phrase that was seen on which lines, and again with a snippet of each line. The
two parts are taken from two dictionaries of a store. Whatever was offered to the store, and whatever it
refused, both parts are about the same phrases and the same lines, in order. What was offered of one
phrase leaves the rest of the document alone, so that only the order among the offers of each phrase
matters.
-/

namespace PhraseAudit

namespace Offer

/-- The row of a phrase is told by the offers of that phrase alone. -/
theorem rowOf_congr {phrase : Text} {history other : List Offer}
    (same : ofPhrase phrase other = ofPhrase phrase history) :
    rowOf other phrase = rowOf history phrase := by
  rw [rowOf, rowOf, hitsOf, hitsOf, same]

end Offer

namespace Ledger

/-- The used rows are in order of their phrases. -/
theorem used_increase (ledger : Ledger) : (ledger.used.map (·.phrase)).Pairwise (· < ·) :=
  ledger.increasing.sublist (List.filter_sublist.map _)

/-- A used row holds some lines, and these increase strictly. -/
theorem lines_of_mem_used {known : PhraseSet} {history : List Offer} {row : LedgerRow}
    (member : row ∈ ((ofKnown known).offerAll history).used) :
    row.lines ≠ [] ∧ row.lines.Pairwise (· < ·) := by
  have seen := ((mem_used_iff _ _).1 member).2
  obtain ⟨phrase, _, rfl, _⟩ := (mem_used_offerAll_iff known history row).1 member
  constructor
  · rwa [LedgerRow.lines, ne_eq, List.map_eq_nil_iff]
  · rw [Offer.lines_rowOf]
    exact leftMaxima_increase id _

/-- Histories with the same offers of each known phrase, in whatever way these are mixed, leave one
ledger. -/
theorem offerAll_congr {known : PhraseSet} {history other : List Offer}
    (same : ∀ phrase ∈ known, Offer.ofPhrase phrase other = Offer.ofPhrase phrase history) :
    (ofKnown known).offerAll other = (ofKnown known).offerAll history := by
  apply eq_of_rows_eq
  rw [rows_offerAll, rows_offerAll]
  exact List.map_congr_left fun phrase member => Offer.rowOf_congr (same phrase member)

end Ledger

namespace Document

/-- The phrases of the occurrences are those of the used rows. -/
theorem keys_occurrences (ledger : Ledger) (summary : Option Summary) :
    (ofLedger ledger summary).occurrences.map (·.1) = ledger.used.map (·.phrase) := by
  rw [ofLedger, List.map_map]
  rfl

/-- The phrases of the details are those of the used rows as well. -/
theorem keys_details (ledger : Ledger) (summary : Option Summary) :
    (ofLedger ledger summary).details.map (·.1) = ledger.used.map (·.phrase) := by
  rw [ofLedger, List.map_map]
  rfl

/-- Under one phrase the details have the lines of the occurrences, since one phrase has one row, from
which both are taken. -/
theorem lines_of_mem_details {ledger : Ledger} {summary : Option Summary} {phrase : Text}
    {lines : List Int} {sightings : List Sighting}
    (occurrence : (phrase, lines) ∈ (ofLedger ledger summary).occurrences)
    (detail : (phrase, sightings) ∈ (ofLedger ledger summary).details) :
    sightings.map (·.line) = lines := by
  obtain ⟨row, used, same⟩ := List.mem_map.1 occurrence
  obtain ⟨rfl, rfl⟩ := Prod.mk.inj same
  obtain ⟨other, otherUsed, equal⟩ := List.mem_map.1 detail
  obtain ⟨about, rfl⟩ := Prod.mk.inj equal
  have one : other = row := Ledger.eq_of_phrase_eq (List.mem_of_mem_filter otherUsed)
    (List.mem_of_mem_filter used) about
  rw [one]
  rfl

/-- The phrases of the occurrences are the known ones that were offered. -/
theorem mem_keys_iff (known : PhraseSet) (history : List Offer) (summary : Option Summary)
    (phrase : Text) :
    phrase ∈ (ofLedger ((Ledger.ofKnown known).offerAll history) summary).occurrences.map (·.1) ↔
      phrase ∈ known ∧ ∃ offer ∈ history, offer.phrase = phrase := by
  rw [keys_occurrences, List.mem_map]
  exact Ledger.exists_used_offerAll_iff known history phrase

/-- The document of a store is coherent after every history of offers, refused ones included.

Its phrases are the known ones, each once and in order. The phrases under the occurrences are those
of them that were offered, in order, and the details have the same ones in the same order. Under one
phrase the lines of the details are those of the occurrences. There is at least one, and they
increase strictly. The summary is the given one. And histories with the same offers of each known
phrase, in whatever way these are mixed with one another and with offers of unknown phrases, have the
same document.

Proof: the document of the store is that of the ledger which it mirrors. The rows of the ledger are told
by the history, and the row of a phrase by the offers of that phrase alone. It holds the left maxima of
the lines offered. -/
theorem coherent_after_history (known : PhraseSet) (history : List Offer)
    (summary : Option Summary) :
    let document := ((Store.ofKnown known).offerAll history).document summary
    document.phrases.Pairwise (· < ·) ∧
    (∀ phrase, phrase ∈ document.phrases ↔ phrase ∈ known) ∧
    (document.occurrences.map (·.1)).Pairwise (· < ·) ∧
    (∀ phrase, phrase ∈ document.occurrences.map (·.1) ↔
      phrase ∈ document.phrases ∧ ∃ offer ∈ history, offer.phrase = phrase) ∧
    document.details.map (·.1) = document.occurrences.map (·.1) ∧
    (∀ phrase lines, (phrase, lines) ∈ document.occurrences →
      lines ≠ [] ∧ lines.Pairwise (· < ·) ∧
      ∀ sightings, (phrase, sightings) ∈ document.details → sightings.map (·.line) = lines) ∧
    document.summary = summary ∧
    ∀ other,
      (∀ phrase ∈ known, Offer.ofPhrase phrase other = Offer.ofPhrase phrase history) →
      ((Store.ofKnown known).offerAll other).document summary = document := by
  intro document
  let ledger := (Ledger.ofKnown known).offerAll history
  have mirrored : document = ofLedger ledger summary :=
    Store.document_offerAll known history summary
  have phrases : document.phrases = known.toList := by
    rw [mirrored]
    exact Ledger.known_offerAll known history
  have keys : document.occurrences.map (·.1) = ledger.used.map (·.phrase) := by
    rw [mirrored]
    exact keys_occurrences ledger summary
  have detailKeys : document.details.map (·.1) = ledger.used.map (·.phrase) := by
    rw [mirrored]
    exact keys_details ledger summary
  refine ⟨?_, ?_, ?_, ?_, detailKeys.trans keys.symm, ?_, rfl, ?_⟩
  · rw [phrases]
    exact known.increasing
  · intro phrase
    rw [phrases]
    rfl
  · rw [keys]
    exact ledger.used_increase
  · intro phrase
    rw [phrases, mirrored]
    exact mem_keys_iff known history summary phrase
  · rw [mirrored]
    intro phrase lines member
    obtain ⟨row, used, same⟩ := List.mem_map.1 member
    obtain ⟨nonempty, increasing⟩ := Ledger.lines_of_mem_used used
    obtain ⟨_, rfl⟩ := Prod.mk.inj same
    exact ⟨nonempty, increasing, fun _ detail => lines_of_mem_details member detail⟩
  · intro other same
    rw [mirrored, Store.document_offerAll]
    exact congrArg (ofLedger · summary) (Ledger.offerAll_congr same)

/-- The offers of two phrases are mixed in another way, one of them refused, and an offer of an unknown
phrase is left out. -/
theorem coherent_after_history_mixed :
    let known := PhraseSet.ofList ["cat".toList, "dog".toList]
    let late : Offer := ⟨"cat".toList, ⟨5, "a cat".toList⟩, 2⟩
    let early : Offer := ⟨"cat".toList, ⟨3, "no cat".toList⟩, 1⟩
    let dog : Offer := ⟨"dog".toList, ⟨4, "a dog".toList⟩, 1⟩
    let cow : Offer := ⟨"cow".toList, ⟨9, "a cow".toList⟩, 1⟩
    ((Store.ofKnown known).offerAll [dog, late, early]).document none =
      ((Store.ofKnown known).offerAll [late, cow, early, dog]).document none := by
  intro known late early dog cow
  have same : ∀ phrase ∈ known.toList, Offer.ofPhrase phrase [dog, late, early] =
      Offer.ofPhrase phrase [late, cow, early, dog] := by decide
  exact (coherent_after_history known [late, cow, early, dog] none).2.2.2.2.2.2.2
    [dog, late, early] same

end Document

end PhraseAudit
