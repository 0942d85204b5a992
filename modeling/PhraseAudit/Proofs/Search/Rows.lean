import Mathlib.Algebra.GroupWithZero.Nat
import PhraseAudit.Auditor
import PhraseAudit.Proofs.Phrase.Index

/-!
# The rows that lines tell

What is recorded about a text depends on that text and the lines alone: how often it occurs in each
line, and on which lines it occurs at all. `rowAfter` says so without a ledger. An index counts the
same, whatever other phrases are searched for at the same time.
-/

namespace PhraseAudit.Search

/-- How often a text occurs in the searchable part of a line. The empty text is no phrase and never
occurs. -/
def countOf (text cleaned : Text) : Nat :=
  match Phrase.ofText text with
  | .ok phrase => (phrase.occurrences cleaned).length
  | .error .empty => 0

/-- How often a text occurs on a numbered line. -/
def countOn (stripTags : Bool) (text : Text) (pair : Int × Text) : Nat :=
  countOf text (Line.searchable stripTags pair.2)

/-- What is recorded of a numbered line on which a phrase occurs. -/
def sightingOf (pair : Int × Text) : Sighting :=
  ⟨pair.1, Line.snippet pair.2 Line.snippetLimit⟩

/-- The row of a text after some lines were searched. -/
def rowAfter (stripTags : Bool) (lines : List (Int × Text)) (text : Text) : LedgerRow where
  phrase := text
  hits := ((lines.map (countOn stripTags text)).sum : Nat)
  sightings := (lines.filter fun pair => 0 < countOn stripTags text pair).map sightingOf

/-- The empty text occurs nowhere. -/
theorem countOf_nil (cleaned : Text) : countOf [] cleaned = 0 :=
  rfl

/-- A phrase occurs as often as it is found. -/
theorem countOf_phrase (phrase : Phrase) (cleaned : Text) :
    countOf phrase.text cleaned = (phrase.occurrences cleaned).length := by
  obtain ⟨text, proper⟩ := phrase
  simp [countOf, Phrase.ofText, proper]

/-- A phrase occurs on a line as often as it is found in what is searched of it. -/
theorem countOn_phrase (stripTags : Bool) (phrase : Phrase) (pair : Int × Text) :
    countOn stripTags phrase.text pair =
      (phrase.occurrences (Line.searchable stripTags pair.2)).length :=
  countOf_phrase phrase _

/-- The row of the empty text stays blank. -/
theorem rowAfter_empty (stripTags : Bool) (lines : List (Int × Text)) :
    rowAfter stripTags lines [] = LedgerRow.blank [] := by
  have none : ∀ pair, countOn stripTags [] pair = 0 := fun _ => rfl
  have sum : (lines.map (countOn stripTags [])).sum = 0 := by
    induction lines with
    | nil => rfl
    | cons pair rest ih => rw [List.map_cons, List.sum_cons, none, ih]
  simp [rowAfter, LedgerRow.blank, none, sum]

/-- Every line of a row has at least one hit. -/
theorem length_lines_rowAfter_le_hits (stripTags : Bool) (lines : List (Int × Text)) (text : Text) :
    ((rowAfter stripTags lines text).lines.length : Int) ≤ (rowAfter stripTags lines text).hits := by
  rw [LedgerRow.lines, rowAfter, List.length_map, List.length_map, Int.ofNat_le]
  induction lines with
  | nil => exact Nat.le_refl 0
  | cons pair rest ih =>
    rw [List.map_cons, List.sum_cons, List.filter_cons]
    by_cases occurs : 0 < countOn stripTags text pair
    · rw [if_pos (decide_eq_true occurs), List.length_cons]
      omega
    · rw [if_neg (by simpa using occurs)]
      omega

/-- What an index counts of a text of its set is how often the text occurs. -/
theorem countIn_occurrences {set : PhraseSet} {text : Text} (member : text ∈ set)
    (cleaned : Text) :
    PhraseIndex.countIn text ((PhraseIndex.ofSet set).occurrences cleaned) =
      countOf text cleaned := by
  by_cases nothing : countOf text cleaned = 0
  · rw [nothing]
    apply PhraseIndex.countIn_eq_zero
    intro pair inside about
    obtain ⟨_, same, found⟩ := (PhraseIndex.mem_occurrences_iff set cleaned pair).1 inside
    rw [← about, countOf_phrase, ← same] at nothing
    exact found (List.length_eq_zero_iff.1 nothing)
  · have proper : text ≠ [] := by
      intro empty
      exact nothing (empty ▸ countOf_nil cleaned)
    let phrase : Phrase := ⟨text, proper⟩
    have count : countOf text cleaned = (phrase.occurrences cleaned).length :=
      countOf_phrase phrase cleaned
    have found : phrase.occurrences cleaned ≠ [] := by
      intro empty
      rw [count, empty] at nothing
      exact nothing rfl
    have inside := (PhraseIndex.mem_occurrences_iff set cleaned
      (phrase, phrase.occurrences cleaned)).2 ⟨member, rfl, found⟩
    rw [count]
    exact PhraseIndex.countIn_eq_length (PhraseIndex.nodup_occurrences set cleaned) inside

end PhraseAudit.Search
