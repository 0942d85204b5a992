import PhraseAudit.Proofs.Search.Comparison
import PhraseAudit.Proofs.Tag.Blanking

/-!
# Searching with tags and without

Blanking tags makes a search report less, and never anything that it would not report with the tags
in place. This is so for phrases without a space. A phrase with one may well be found only where the
space stands for a tag.
-/

namespace PhraseAudit.Search

/-- A text without a space is counted at most as often on a line whose tags are blanked. -/
theorem countOn_blanked_le {text : Text} (without : ' ' ∉ text) (pair : Int × Text) :
    countOn true text pair ≤ countOn false text pair := by
  by_cases empty : text = []
  · subst empty
    exact Nat.le_refl 0
  · let phrase : Phrase := ⟨text, empty⟩
    have blanked : Line.searchable true pair.2 = Tag.blank (Line.searchable false pair.2) := rfl
    have fewer : countOn true phrase.text pair ≤ countOn false phrase.text pair := by
      rw [countOn_phrase, countOn_phrase, blanked]
      exact Tag.length_occurrences_blank_le without _
    exact fewer

example : countOn true "New York".toList (1, "New<br>York".toList) = 1 ∧
    countOn false "New York".toList (1, "New<br>York".toList) = 0 := by
  decide

/-- Blanking tags can only remove what is recorded. Lines whose numbers increase are searched
without error in both ways. Each line that is recorded for a known text without a space when the
tags are blanked is recorded for it when they are kept, and it has at least as many hits then.

Proof: a phrase found beside blanked tags lies in the text between two of them, and so stands beside
the brackets of the tags when these are kept. Places that do not overlap are carried to places that
do not, and a search from the left finds at least as many as any such choice. -/
theorem blanking_records_no_more (auditor : Auditor) (known : PhraseSet)
    (lines : List (Int × Text))
    (increasing : lines.Pairwise fun earlier later => earlier.1 < later.1) :
    ∃ blanked kept,
      ({ auditor with stripTags := true }.search ⟨lines, none⟩ known).result = .ok blanked ∧
      ({ auditor with stripTags := false }.search ⟨lines, none⟩ known).result = .ok kept ∧
      ∀ text ∈ known, ' ' ∉ text →
        (∀ number ∈ blanked.linesOf text, number ∈ kept.linesOf text) ∧
          blanked.hitsOf text ≤ kept.hitsOf text := by
  have ascending : lines.Pairwise fun earlier later => earlier.1 ≤ later.1 :=
    increasing.imp Int.le_of_lt
  obtain ⟨blanked, success⟩ := exists_search ascending { auditor with stripTags := true } known
  obtain ⟨kept, successKept⟩ := exists_search ascending { auditor with stripTags := false } known
  refine ⟨blanked, kept, success, successKept, fun text member without => ?_⟩
  exact recorded_le_of_countOn_le success successKept member member
    fun pair _ => countOn_blanked_le without pair

/-- A phrase stands in a tag on the first line, and beside one on the second. -/
theorem blanking_records_no_more_cat :
    let lines : List (Int × Text) := [(3, "<b cat>".toList), (8, "cat<br><cat>".toList)]
    let known := PhraseSet.ofList ["cat".toList, "a cat".toList]
    ∃ blanked kept,
      ((Auditor.new true []).search ⟨lines, none⟩ known).result = .ok blanked ∧
      ((Auditor.new false []).search ⟨lines, none⟩ known).result = .ok kept ∧
      (∀ number ∈ blanked.linesOf "cat".toList, number ∈ kept.linesOf "cat".toList) ∧
      blanked.hitsOf "cat".toList ≤ kept.hitsOf "cat".toList := by
  intro lines known
  have increasing : lines.Pairwise fun earlier later => earlier.1 < later.1 := by decide
  have member : "cat".toList ∈ known := (PhraseSet.mem_ofList _ _).2 (by simp)
  obtain ⟨blanked, kept, success, successKept, fewer⟩ :=
    blanking_records_no_more (Auditor.new true []) known lines increasing
  exact ⟨blanked, kept, success, successKept, fewer _ member (by decide)⟩

end PhraseAudit.Search
