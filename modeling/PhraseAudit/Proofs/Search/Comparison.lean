import Mathlib.Algebra.Order.BigOperators.Group.List
import Mathlib.Algebra.Order.Group.Nat
import PhraseAudit.Proofs.Search.Numbering

/-!
# Comparing what is recorded about two texts

What is recorded about a text follows from how often it occurs on each line. If one text occurs on
no line more often than another, no line is recorded for it that is not recorded for the other, and
it has no more hits. The two may be searched for in different ways, so that one text can also be
compared with itself.
-/

namespace PhraseAudit

namespace Ledger

/-- The numbers of the lines recorded for a text, none for a text without a row. -/
def linesOf (ledger : Ledger) (text : Text) : List Int :=
  ((ledger.row? text).map (·.lines)).getD []

/-- The hits recorded for a text, none for a text without a row. -/
def hitsOf (ledger : Ledger) (text : Text) : Int :=
  ((ledger.row? text).map (·.hits)).getD 0

end Ledger

namespace Search

/-- The row of a known text after a search that succeeds is the one that the lines tell. -/
theorem row?_of_search {auditor : Auditor} {known : PhraseSet} {lines : List (Int × Text)}
    {failure : Option ReadError} {ledger : Ledger}
    (success : (auditor.search ⟨lines, failure⟩ known).result = .ok ledger) {text : Text}
    (member : text ∈ known) : ledger.row? text = some (rowKept auditor.stripTags lines text) := by
  refine (ledger.row?_eq_some_iff text _).2 ⟨?_, phrase_rowKept _ _ _⟩
  rw [(rows_of_search success).1]
  exact List.mem_map_of_mem member

section Pointwise

variable {stripTags stripOther : Bool} {lines : List (Int × Text)} {text other : Text}

/-- A text that occurs on no line more often than another occurs only on lines of the other. -/
theorem mem_lines_rowAfter_of_countOn_le
    (fewer : ∀ pair ∈ lines, countOn stripTags text pair ≤ countOn stripOther other pair)
    {number : Int} (member : number ∈ (rowAfter stripTags lines text).lines) :
    number ∈ (rowAfter stripOther lines other).lines := by
  obtain ⟨sighting, seen, rfl⟩ := List.mem_map.1 member
  obtain ⟨pair, kept, rfl⟩ := List.mem_map.1 seen
  obtain ⟨inside, occurs⟩ := List.mem_filter.1 kept
  have more : 0 < countOn stripOther other pair :=
    Nat.lt_of_lt_of_le (of_decide_eq_true occurs) (fewer pair inside)
  exact List.mem_map_of_mem
    (List.mem_map_of_mem (List.mem_filter.2 ⟨inside, decide_eq_true more⟩))

/-- A text that occurs on no line more often than another has no more hits. -/
theorem hits_rowAfter_le_of_countOn_le
    (fewer : ∀ pair ∈ lines, countOn stripTags text pair ≤ countOn stripOther other pair) :
    (rowAfter stripTags lines text).hits ≤ (rowAfter stripOther lines other).hits :=
  Int.ofNat_le.2 (List.sum_le_sum fewer)

end Pointwise

/-- When two searches of the same lines succeed, and a text of the first occurs on no line more often
than a text of the second, then each line recorded for the one is recorded for the other, and the
one has no more hits. -/
theorem recorded_le_of_countOn_le {auditor second : Auditor} {known : PhraseSet}
    {lines : List (Int × Text)} {failure : Option ReadError} {ledger after : Ledger}
    (success : (auditor.search ⟨lines, failure⟩ known).result = .ok ledger)
    (successSecond : (second.search ⟨lines, failure⟩ known).result = .ok after) {text other : Text}
    (member : text ∈ known) (memberOther : other ∈ known)
    (fewer : ∀ pair ∈ lines,
      countOn auditor.stripTags text pair ≤ countOn second.stripTags other pair) :
    (∀ number ∈ ledger.linesOf text, number ∈ after.linesOf other) ∧
      ledger.hitsOf text ≤ after.hitsOf other := by
  have ascending := (rows_of_search successSecond).2 other memberOther
  rw [Ledger.linesOf, Ledger.linesOf, Ledger.hitsOf, Ledger.hitsOf, row?_of_search success member,
    row?_of_search successSecond memberOther]
  refine ⟨fun number recorded => ?_, hits_rowAfter_le_of_countOn_le fewer⟩
  have seen : number ∈ (rowAfter auditor.stripTags lines text).lines := by
    obtain ⟨sighting, kept, rfl⟩ := List.mem_map.1 recorded
    exact List.mem_map_of_mem (mem_of_mem_leftMaxima kept)
  exact (mem_lines_rowKept_iff ascending number).2 (mem_lines_rowAfter_of_countOn_le fewer seen)

end Search

end PhraseAudit
