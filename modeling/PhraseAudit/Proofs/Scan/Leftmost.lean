import Mathlib.Algebra.Order.BigOperators.Group.List
import Mathlib.Algebra.Order.Group.Nat
import PhraseAudit.Proofs.Scan.Outside
import PhraseAudit.Proofs.Scan.Places

/-!
# Every place that a scan could find

A pattern can be asked at any position of a text, whatever a scan of the text makes of it. What a
scan reports was read at its start. Conversely every position at which something can be read is
covered by what the scan reports, and so each match is the first one behind the match before it.
-/

namespace PhraseAudit

namespace Pattern

variable {α : Type}

/-- What a pattern reads at a position of a text. -/
def readAt? (pattern : Pattern α) (text : Text) (position : Nat) : Option (Hit α) :=
  pattern.read? (text.take position).getLast? (text.drop position)

/-- What is read behind some front of a text. -/
theorem readAt?_append (pattern : Pattern α) (front rest : Text) :
    pattern.readAt? (front ++ rest) front.length = pattern.read? front.getLast? rest := by
  rw [readAt?, List.take_left, List.drop_left]

/-- Nothing is read behind the end of a text. -/
theorem read?_nil (pattern : Pattern α) (before : Option Char) :
    pattern.read? before [] = none := by
  cases reading : pattern.read? before [] with
  | none => rfl
  | some hit =>
    have positive := pattern.width_pos reading
    have fits := pattern.width_le reading
    exact absurd (Nat.lt_of_lt_of_le positive fits) (Nat.not_lt_zero _)

/-- Nothing is read in a quiet gap. -/
theorem readAt?_of_quiet {pattern : Pattern α} {front gap behind : Text}
    (quiet : pattern.Quiet front.getLast? gap behind) {position : Nat}
    (begins : front.length ≤ position) (ends : position < front.length + gap.length) :
    pattern.readAt? (front ++ (gap ++ behind)) position = none := by
  obtain ⟨passed, rfl⟩ := Nat.exists_eq_add_of_le begins
  have inside : passed < gap.length := Nat.lt_of_add_lt_add_left ends
  have split : gap = gap.take passed ++ gap[passed] :: gap.drop (passed + 1) := by
    rw [← List.drop_eq_getElem_cons inside, List.take_append_drop]
  have silent := quiet _ _ _ split
  have whole : front ++ (gap ++ behind) = front ++ gap.take passed ++
      (gap[passed] :: gap.drop (passed + 1) ++ behind) := by
    rw [List.append_assoc, ← List.append_assoc (gap.take passed), ← split]
  have width : (front ++ gap.take passed).length = front.length + passed := by
    rw [List.length_append, List.length_take_of_le (Nat.le_of_lt inside)]
  rw [whole, ← width, readAt?_append, List.getLast?_append]
  exact silent

/-- What a cut at the leftmost matches takes for a match is read at its start. The text in front of
the parts has been passed over already. -/
theorem readAt?_of_mem_spansFrom {pattern : Pattern α} {front : Text} {parts : List (Part α)}
    {rest : Text} (cuts : pattern.CutsFrom front.getLast? parts rest) {span : Found α}
    (member : span ∈ Cut.spansFrom front.length parts) :
    pattern.readAt? (front ++ Cut.toText ⟨parts, rest⟩) span.start =
      some ⟨span.value, span.stop - span.start⟩ := by
  induction parts generalizing front with
  | nil => cases member
  | cons part parts ih =>
    obtain ⟨_, reads, later⟩ := cuts
    have whole : front ++ Cut.toText ⟨part :: parts, rest⟩ =
        front ++ part.gap ++ (part.matched ++ Cut.toText ⟨parts, rest⟩) := by
      rw [List.append_assoc]
      exact congrArg (front ++ ·) (Cut.toText_cons part ⟨parts, rest⟩)
    have width : (front ++ part.gap).length = front.length + part.gap.length := List.length_append
    rcases List.mem_cons.1 member with rfl | behind
    · rw [whole]
      simp only [← width, readAt?_append, List.getLast?_append, reads, Nat.add_sub_cancel_left]
    · rw [← List.getLast?_append] at later
      have passed := ih later (by simpa only [List.length_append, Nat.add_assoc] using behind)
      rw [whole, ← List.append_assoc, List.append_assoc front]
      exact passed

/-- Every position of some parts at which something can be read is covered by a match. -/
theorem covered_of_cutsFrom {pattern : Pattern α} {front : Text} {parts : List (Part α)}
    {rest : Text} (cuts : pattern.CutsFrom front.getLast? parts rest) {position : Nat}
    (begins : front.length ≤ position)
    (reads : pattern.readAt? (front ++ Cut.toText ⟨parts, rest⟩) position ≠ none) :
    ∃ span ∈ Cut.spansFrom front.length parts, span.Covers position := by
  induction parts generalizing front with
  | nil =>
    refine absurd ?_ reads
    have quiet : pattern.Quiet front.getLast? rest [] := cuts
    change pattern.readAt? (front ++ rest) position = none
    by_cases inside : position < front.length + rest.length
    · have silent := readAt?_of_quiet quiet begins inside
      rwa [List.append_nil] at silent
    · rw [readAt?, List.drop_eq_nil_of_le (by rw [List.length_append]; omega), read?_nil]
  | cons part parts ih =>
    obtain ⟨quiet, _, later⟩ := cuts
    have whole : front ++ Cut.toText ⟨part :: parts, rest⟩ =
        front ++ (part.gap ++ (part.matched ++ Cut.toText ⟨parts, rest⟩)) :=
      congrArg (front ++ ·) (Cut.toText_cons part ⟨parts, rest⟩)
    rw [whole] at reads
    by_cases inGap : position < front.length + part.gap.length
    · exact absurd (readAt?_of_quiet quiet begins inGap) reads
    · by_cases inMatch : position < front.length + part.gap.length + part.matched.length
      · exact ⟨_, List.mem_cons_self, Nat.le_of_not_lt inGap, inMatch⟩
      · rw [← List.getLast?_append] at later
        have width : (front ++ (part.gap ++ part.matched)).length =
            front.length + part.gap.length + part.matched.length := by
          rw [List.length_append, List.length_append, Nat.add_assoc]
        obtain ⟨span, member, covers⟩ := ih later (by omega) (by simpa using reads)
        rw [width] at member
        exact ⟨span, List.mem_cons_of_mem _ member, covers⟩

/-- What a scan reports was read at its start. -/
theorem readAt?_of_mem_scan {pattern : Pattern α} {text : Text} {span : Found α}
    (member : span ∈ pattern.scan text) :
    pattern.readAt? text span.start = some ⟨span.value, span.stop - span.start⟩ := by
  obtain ⟨parts, rest, rfl, cuts, scanned, _⟩ := pattern.exists_cut text
  rw [scanned] at member
  have cutsHere : pattern.CutsFrom ([] : Text).getLast? parts rest := cuts
  exact readAt?_of_mem_spansFrom cutsHere member

/-- Every position at which something can be read is covered by what a scan reports. -/
theorem covered_of_readAt? {pattern : Pattern α} {text : Text} {position : Nat}
    (reads : pattern.readAt? text position ≠ none) :
    ∃ span ∈ pattern.scan text, span.Covers position := by
  obtain ⟨parts, rest, rfl, cuts, scanned, _⟩ := pattern.exists_cut text
  rw [scanned]
  have cutsHere : pattern.CutsFrom ([] : Text).getLast? parts rest := cuts
  exact covered_of_cutsFrom cutsHere (Nat.zero_le _) reads

/-- Nothing can be read behind the matches before one match and in front of it. -/
theorem start_le_of_readAt? {pattern : Pattern α} {text : Text} {front rest : List (Found α)}
    {span : Found α} (split : pattern.scan text = front ++ span :: rest) {position : Nat}
    (behind : ∀ earlier ∈ front, earlier.stop ≤ position)
    (reads : pattern.readAt? text position ≠ none) : span.start ≤ position := by
  obtain ⟨other, member, begins, ends⟩ := covered_of_readAt? reads
  have ordered := pattern.scan_ordered text
  rw [split] at member ordered
  obtain ⟨_, ordered, _⟩ := List.pairwise_append.1 ordered
  rcases List.mem_append.1 member with inFront | fromHere
  · exact absurd ends (Nat.not_lt_of_le (behind other inFront))
  · rcases List.mem_cons.1 fromHere with rfl | later
    · exact begins
    · have apart := List.rel_of_pairwise_cons ordered later
      have proper := (bounds_of_mem_scan (split ▸ List.mem_append_right _ List.mem_cons_self :
        span ∈ pattern.scan text)).1
      omega

/-- Replacing by nothing changes nothing exactly when nothing can be read at any position. -/
theorem replace_nil_eq_self_iff (pattern : Pattern α) (text : Text) :
    pattern.replace [] text = text ↔ ∀ position, pattern.readAt? text position = none := by
  constructor
  · intro same position
    cases reads : pattern.readAt? text position with
    | none => rfl
    | some hit =>
      -- A match takes away at least one character.
      obtain ⟨span, member, _⟩ := covered_of_readAt? (reads ▸ Option.some_ne_none hit)
      have proper := (bounds_of_mem_scan member).1
      have width : span.stop - span.start ∈
          (pattern.scan text).map fun span => span.stop - span.start :=
        List.mem_map.2 ⟨span, member, rfl⟩
      have total := List.le_sum_of_mem width
      have lengths := pattern.length_replace_add_widths text
      rw [same] at lengths
      omega
  · intro nowhere
    have quiet : pattern.Quiet none text [] := by
      intro front c rest split
      have silent := nowhere front.length
      rw [split, readAt?_append] at silent
      rwa [Option.or_none, List.append_nil]
    have kept := replaceFrom_of_quiet quiet []
    rwa [List.append_nil, replaceFrom, List.append_nil] at kept

end Pattern

end PhraseAudit
