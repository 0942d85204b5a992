import PhraseAudit.Proofs.Phrase.Occurrence
import PhraseAudit.Proofs.Search.Comparison
import PhraseAudit.Proofs.Unicode.Matching

/-!
# Phrases in another case

Phrases that are the same up to case are different phrases of a set, each with a row of its own. But
what is found of one is what is found of the other, so that these rows hold the same.
-/

namespace PhraseAudit

namespace Phrase

variable {phrase variant : Phrase}

/-- A phrase stands where its variant stands. -/
theorem standsAt_of_sameUpToCase (same : Text.SameUpToCase phrase.text variant.text)
    {before : Option Char} {rest : Text} (stands : variant.standsAt before rest = true) :
    phrase.standsAt before rest = true := by
  obtain ⟨read, behind, split, sameRead, openFront, openBehind⟩ :=
    (variant.standsAt_iff before rest).1 stands
  exact (phrase.standsAt_iff before rest).2
    ⟨read, behind, split, same.trans sameRead, openFront, openBehind⟩

/-- Phrases that are the same up to case have one pattern. -/
theorem pattern_eq_of_sameUpToCase (same : Text.SameUpToCase phrase.text variant.text) :
    variant.pattern = phrase.pattern := by
  have width : variant.text.length = phrase.text.length := same.length_eq.symm
  have stands : ∀ before rest, variant.standsAt before rest = phrase.standsAt before rest := by
    intro before rest
    rw [Bool.eq_iff_iff]
    exact ⟨standsAt_of_sameUpToCase same, standsAt_of_sameUpToCase same.symm⟩
  simp only [pattern, width, stands]

/-- A phrase that is read as a text of its length occurs in this text once, and takes all of it. -/
theorem occurrences_eq_singleton {text : Text} (same : Text.SameUpToCase phrase.text text) :
    phrase.occurrences text = [⟨0, text.length, ()⟩] := by
  have width : phrase.text.length = text.length := same.length_eq
  have stands : phrase.standsAt none text = true :=
    (phrase.standsAt_iff none text).2 ⟨text, [], (List.append_nil text).symm, same, rfl, rfl⟩
  cases text with
  | nil => exact absurd (List.length_eq_zero_iff.1 width) phrase.nonempty
  | cons c rest =>
    have reads : phrase.pattern.read? none (c :: rest) = some ⟨(), phrase.text.length⟩ :=
      if_pos stands
    have passed := phrase.pattern.scanFrom_skip 1 (some c) rest.length rest
    rw [List.drop_length, Pattern.scanFrom] at passed
    rw [occurrences, Pattern.scan, Pattern.scanFrom, reads, width]
    simp [passed]

end Phrase

namespace Search

/-- What is counted of two texts alike leaves the same in their rows. -/
theorem rowKept_eq_of_countOn_eq {stripTags : Bool} {text other : Text}
    (equal : countOn stripTags other = countOn stripTags text) (lines : List (Int × Text)) :
    rowKept stripTags lines other = { rowKept stripTags lines text with phrase := other } := by
  simp only [rowKept, rowAfter, equal]

/-- Phrases in another case are reported alike.

Let two phrases match letter by letter, where a letter of the first stands for a group of small
letters and the character of the second is made small only. In every text they are found at the same
places, and the first is found in the second. Lines whose numbers never fall are searched without
error, and whatever lines are searched without error, each of the two phrases has a row. Both rows
hold the same lines with the same snippets and have the same hits, both or none of them are used, and
they are two rows if the phrases are two.

Proof: to match is to have one representative, which treats both sides alike. So the patterns of the
two phrases read the same at every place of every text, and what is counted on a line is the same. -/
theorem variants_recorded_alike {phrase variant : Phrase}
    (matched : List.Forall₂ Unicode.Matches phrase.text variant.text) :
    (∀ text, variant.occurrences text = phrase.occurrences text) ∧
    phrase.occurrences variant.text = [⟨0, variant.text.length, ()⟩] ∧
    ∀ (auditor : Auditor) (known : PhraseSet), phrase.text ∈ known → variant.text ∈ known →
      ∀ lines : List (Int × Text),
        (lines.Pairwise (fun earlier later => earlier.1 ≤ later.1) →
          ∃ ledger, (auditor.search ⟨lines, none⟩ known).result = .ok ledger) ∧
        ∀ ledger, (auditor.search ⟨lines, none⟩ known).result = .ok ledger →
          ∃ row other, ledger.row? phrase.text = some row ∧
            ledger.row? variant.text = some other ∧
            other.lines = row.lines ∧ other.hits = row.hits ∧ other.sightings = row.sightings ∧
            (other ∈ ledger.used ↔ row ∈ ledger.used) ∧
            (variant.text ≠ phrase.text → other ≠ row) := by
  have same := (Unicode.sameUpToCase_iff_forall₂ _ _).2 matched
  have found : ∀ text, variant.occurrences text = phrase.occurrences text := by
    intro text
    rw [Phrase.occurrences, Phrase.occurrences, Phrase.pattern_eq_of_sameUpToCase same]
  refine ⟨found, Phrase.occurrences_eq_singleton same,
    fun auditor known member memberVariant lines => ⟨?_, ?_⟩⟩
  · intro ascending
    exact exists_search ascending auditor known
  · intro ledger success
    have equal : countOn auditor.stripTags variant.text = countOn auditor.stripTags phrase.text := by
      funext pair
      rw [countOn_phrase, countOn_phrase, found]
    have row := row?_of_search success member
    have other := row?_of_search success memberVariant
    have inside := ((ledger.row?_eq_some_iff _ _).1 row).1
    have insideOther := ((ledger.row?_eq_some_iff _ _).1 other).1
    rw [rowKept_eq_of_countOn_eq equal] at other insideOther
    refine ⟨_, _, row, other, rfl, rfl, rfl, ?_, ?_⟩
    · rw [Ledger.mem_used_iff, Ledger.mem_used_iff]
      simp only [inside, insideOther, true_and]
    · intro different equalRows
      exact different (congrArg LedgerRow.phrase equalRows)

/-- A phrase is written with a Kelvin sign and a long s in place of two of its letters. -/
theorem variants_recorded_alike_kelvin :
    let plain := "kiss".toList
    let fancy := "\u212Ais\u017F".toList
    let lines : List (Int × Text) :=
      [(1, "KISS me, \u212Aiss me".toList), (1, "a kiss".toList), (7, "kisses".toList)]
    let known := PhraseSet.ofList [plain, fancy]
    List.Forall₂ Unicode.Matches plain fancy ∧
      ∃ ledger, ((Auditor.new true []).search ⟨lines, none⟩ known).result = .ok ledger ∧
        ∃ row other, ledger.row? plain = some row ∧ ledger.row? fancy = some other ∧
          other.lines = row.lines ∧ other.hits = row.hits ∧ other.sightings = row.sightings ∧
          other ≠ row := by
  intro plain fancy lines known
  let phrase : Phrase := ⟨plain, by decide⟩
  let variant : Phrase := ⟨fancy, by decide⟩
  have matched : List.Forall₂ Unicode.Matches phrase.text variant.text :=
    (Unicode.sameUpToCase_iff_forall₂ _ _).1 (by decide)
  have member : phrase.text ∈ known := (PhraseSet.mem_ofList _ _).2 (by simp [phrase])
  have memberVariant : variant.text ∈ known := (PhraseSet.mem_ofList _ _).2 (by simp [variant])
  obtain ⟨reported, alike⟩ := (variants_recorded_alike matched).2.2
    (Auditor.new true []) known member memberVariant lines
  obtain ⟨ledger, success⟩ := reported (by decide)
  obtain ⟨row, other, here, there, sameLines, sameHits, sameSightings, _, apart⟩ :=
    alike ledger success
  exact ⟨matched, ledger, success, row, other, here, there, sameLines, sameHits, sameSightings,
    apart (by decide)⟩

end Search

end PhraseAudit
