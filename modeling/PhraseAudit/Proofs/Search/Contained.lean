import PhraseAudit.Proofs.Search.Comparison
import PhraseAudit.Proofs.Phrase.Joined
import PhraseAudit.Proofs.Unicode.WordCase

/-!
# Phrases inside phrases

A phrase that occurs inside another is found wherever the longer one is found. Each phrase is searched
for on its own, so that a longer one never hides it. The letters of the text are the same up to case
as those of the longer phrase, and so word characters where those are. Only a combining iota in the
longer phrase would break this, as it is no word character but the same as a letter up to case.
-/

namespace PhraseAudit

namespace Phrase

open Unicode

/-- A place stays open when its neighbour is put into another case. -/
theorem isOpen_of_map_fold_eq {neighbour other : Option Char}
    (same : neighbour.map fold = other.map fold) (plain : neighbour ≠ some combiningIota)
    (openPlace : isOpen neighbour = true) : isOpen other = true := by
  cases other with
  | none => rfl
  | some d =>
    obtain ⟨c, rfl, equal⟩ := Option.map_eq_some_iff.1 same
    have noWord : isWord c = false := by simpa [isOpen] using openPlace
    have different : c ≠ combiningIota := fun mark => plain (congrArg some mark)
    simp [isOpen, isWord_eq_false_of_fold_eq different noWord equal]

/-- A phrase that occurs inside another occurs in every text at the same place of an occurrence of
the other. -/
theorem OccursAt.within {long short : Phrase} {place : Nat}
    (inside : short.OccursAt long.text place) (plain : combiningIota ∉ long.text) {text : Text}
    {start : Nat} (occurs : long.OccursAt text start) : short.OccursAt text (start + place) := by
  obtain ⟨front, read, behind, rfl, rfl, same, openFront, openBehind⟩ := occurs
  obtain ⟨before, word, after, split, rfl, sameWord, openBefore, openAfter⟩ := inside
  -- The text read as the longer phrase is cut where the longer phrase is.
  rw [Text.SameUpToCase, split, List.map_append, List.map_append] at same
  obtain ⟨lead, readAfter, rfl, sameLead, sameAfter⟩ := List.map_eq_append_iff.1 same.symm
  obtain ⟨readBefore, readWord, rfl, sameBefore, sameRead⟩ := List.map_eq_append_iff.1 sameLead
  have lengths : readBefore.length = before.length := by
    rw [← List.length_map fold, sameBefore, List.length_map]
  have openReadBefore : isOpen readBefore.getLast? = true := by
    refine isOpen_of_map_fold_eq ?_ ?_ openBefore
    · rw [← List.getLast?_map, ← List.getLast?_map, sameBefore]
    · intro ends
      have member := List.mem_of_getLast? ends
      exact plain (split ▸ List.mem_append_left _ (List.mem_append_left _ member))
  have openReadAfter : isOpen readAfter.head? = true := by
    refine isOpen_of_map_fold_eq ?_ ?_ openAfter
    · rw [← List.head?_map, ← List.head?_map, sameAfter]
    · intro begins
      have member := List.mem_of_head? begins
      exact plain (split ▸ List.mem_append_right _ member)
  exact ⟨front ++ readBefore, readWord, readAfter ++ behind, by simp, by simp [lengths],
    sameWord.trans sameRead.symm, isOpen_getLast?_append openFront openReadBefore,
    isOpen_head?_append openReadAfter openBehind⟩

/-- A phrase that occurs inside another is found in every text at least as often. -/
theorem length_occurrences_le_of_occurs {long short : Phrase}
    (plain : combiningIota ∉ long.text) (contained : short.Occurs long.text) (text : Text) :
    (long.occurrences text).length ≤ (short.occurrences text).length := by
  obtain ⟨place, inside⟩ := contained
  have fits := length_le_of_occursAt inside
  apply length_occurrences_le (· + place)
  · intro start occurs
    exact inside.within plain occurs
  · intro earlier later apart
    omega

example :
    let long : Phrase := ⟨['a', combiningIota], by decide⟩
    let short : Phrase := ⟨['a'], by decide⟩
    short.Occurs long.text ∧ long.Occurs "aι".toList ∧ ¬ short.Occurs "aι".toList := by
  set_option maxRecDepth 2000 in decide

end Phrase

namespace Search

/-- A phrase inside another is reported wherever the other is.

Let one phrase occur as a whole word and up to case inside another, which has no combining iota.
Every text holds at least as many occurrences of the one as of the other. Lines whose numbers never
fall are searched without error, and whatever lines are searched without error, each line recorded
for the longer phrase is recorded for the shorter one, which has at least as many hits.

Proof: being the same up to case is transitive, and whether a character belongs to a word does not
depend on its case. So each occurrence of the longer phrase has one of the shorter inside it, and
those in disjoint stretches are disjoint. -/
theorem contained_recorded_as_often {long short : Phrase}
    (plain : Unicode.combiningIota ∉ long.text) (contained : short.Occurs long.text) :
    (∀ text, (long.occurrences text).length ≤ (short.occurrences text).length) ∧
    ∀ (auditor : Auditor) (known : PhraseSet), long.text ∈ known → short.text ∈ known →
      ∀ lines : List (Int × Text),
        (lines.Pairwise (fun earlier later => earlier.1 ≤ later.1) →
          ∃ ledger, (auditor.search ⟨lines, none⟩ known).result = .ok ledger) ∧
        ∀ ledger, (auditor.search ⟨lines, none⟩ known).result = .ok ledger →
          (∀ number ∈ ledger.linesOf long.text, number ∈ ledger.linesOf short.text) ∧
            ledger.hitsOf long.text ≤ ledger.hitsOf short.text := by
  have fewer := Phrase.length_occurrences_le_of_occurs plain contained
  refine ⟨fewer, fun auditor known longKnown shortKnown lines => ⟨?_, ?_⟩⟩
  · intro ascending
    exact exists_search ascending auditor known
  · intro ledger success
    refine recorded_le_of_countOn_le success success longKnown shortKnown fun pair _ => ?_
    rw [countOn_phrase, countOn_phrase]
    exact fewer _

/-- The longer phrase stands twice on a line, and the shorter one also on its own. -/
theorem contained_recorded_as_often_new_york :
    let lines : List (Int × Text) :=
      [(1, "New York, new york".toList), (1, "a new one".toList), (4, "NEWYORK".toList)]
    let known := PhraseSet.ofList ["New York".toList, "NEW".toList]
    Unicode.combiningIota ∉ "New York".toList ∧
      ∃ ledger, ((Auditor.new true []).search ⟨lines, none⟩ known).result = .ok ledger ∧
        (∀ number ∈ ledger.linesOf "New York".toList, number ∈ ledger.linesOf "NEW".toList) ∧
        ledger.hitsOf "New York".toList ≤ ledger.hitsOf "NEW".toList := by
  intro lines known
  let long : Phrase := ⟨"New York".toList, by decide⟩
  let short : Phrase := ⟨"NEW".toList, by decide⟩
  have plain : Unicode.combiningIota ∉ long.text := by decide
  have contained : short.Occurs long.text := by set_option maxRecDepth 2000 in decide
  have longKnown : long.text ∈ known := (PhraseSet.mem_ofList _ _).2 (by simp [long])
  have shortKnown : short.text ∈ known := (PhraseSet.mem_ofList _ _).2 (by simp [short])
  obtain ⟨reported, recorded⟩ := (contained_recorded_as_often plain contained).2
    (Auditor.new true []) known longKnown shortKnown lines
  obtain ⟨ledger, success⟩ := reported (by decide)
  exact ⟨plain, ledger, success, recorded ledger success⟩

end Search

end PhraseAudit
