import Mathlib.Algebra.GroupWithZero.Nat
import PhraseAudit.Proofs.Scan.Cut

/-!
# The places of matches

The matches that a scan finds take places inside the text, one behind the other. Replacing every
match by nothing leaves the parts of the text between these places and no more, so that what is
left is shorter by the widths of the matches. Two patterns that read matches of the same widths find
them in the same places, whatever else they make of them.
-/

namespace PhraseAudit

/-- The place of a match: where it starts, and where it stops. -/
def Found.place {α : Type} (span : Found α) : Nat × Nat :=
  (span.start, span.stop)

/-- The parts of a text, from a position on, that lie outside some places, one behind the other. -/
def Text.between (text : Text) (position : Nat) : List (Nat × Nat) → Text
  | [] => text.drop position
  | (start, stop) :: rest => (text.take start).drop position ++ between text stop rest

namespace Cut

variable {α : Type}

/-- Between the matches of some parts stand their gaps and the rest. The text in front of the parts
has been passed over already; it grows by one part in every step of the induction. -/
theorem between_spansFrom (front : Text) (parts : List (Part α)) (rest : Text) :
    (front ++ Cut.toText ⟨parts, rest⟩).between front.length
      ((spansFrom front.length parts).map Found.place) = Cut.filled [] ⟨parts, rest⟩ := by
  induction parts generalizing front with
  | nil => simp [spansFrom, Text.between, toText, filled]
  | cons part parts ih =>
    have whole : Cut.toText ⟨part :: parts, rest⟩ =
        part.gap ++ (part.matched ++ Cut.toText ⟨parts, rest⟩) := toText_cons part ⟨parts, rest⟩
    have left : Cut.filled [] ⟨part :: parts, rest⟩ = part.gap ++ Cut.filled [] ⟨parts, rest⟩ :=
      filled_cons [] part ⟨parts, rest⟩
    have gap : ((front ++ (part.gap ++ (part.matched ++ Cut.toText ⟨parts, rest⟩))).take
        (front.length + part.gap.length)).drop front.length = part.gap := by
      rw [← List.append_assoc, ← List.length_append, List.take_left, List.drop_left]
    have behind := ih (front ++ part.gap ++ part.matched)
    simp only [List.length_append, List.append_assoc] at behind
    simp only [spansFrom, List.map_cons, Found.place, Text.between, whole, left, gap]
    rw [Nat.add_assoc, ← behind]

/-- The matches of some parts stand behind one another. -/
theorem spansFrom_ordered (position : Nat) (parts : List (Part α)) :
    (spansFrom position parts).Pairwise fun earlier later => earlier.stop ≤ later.start := by
  induction parts generalizing position with
  | nil => exact List.Pairwise.nil
  | cons part parts ih =>
    refine List.pairwise_cons.2 ⟨?_, ih _⟩
    intro later member
    exact le_start_of_mem_spansFrom member

/-- The matches of some parts end inside the text of the parts. -/
theorem stop_le_of_mem_spansFrom {position : Nat} {parts : List (Part α)} {rest : Text}
    {span : Found α} (member : span ∈ spansFrom position parts) :
    span.stop ≤ position + (Cut.toText ⟨parts, rest⟩).length := by
  induction parts generalizing position with
  | nil => cases member
  | cons part parts ih =>
    have whole := congrArg List.length (toText_cons part ⟨parts, rest⟩)
    simp only [List.length_append] at whole
    change (Cut.toText ⟨part :: parts, rest⟩).length = _ at whole
    rcases List.mem_cons.1 member with rfl | later
    · simp only
      omega
    · have inside := ih later
      omega

/-- What is left without the matches and the widths of the matches make up the whole text. -/
theorem length_filled_add_widths (position : Nat) (parts : List (Part α)) (rest : Text) :
    (Cut.filled [] ⟨parts, rest⟩).length +
      ((spansFrom position parts).map fun span => span.stop - span.start).sum =
        (Cut.toText ⟨parts, rest⟩).length := by
  induction parts generalizing position with
  | nil => simp [spansFrom, filled, toText]
  | cons part parts ih =>
    have whole := congrArg List.length (toText_cons part ⟨parts, rest⟩)
    have left := congrArg List.length (filled_cons [] part ⟨parts, rest⟩)
    simp only [List.length_append, List.length_nil] at whole left
    change (Cut.toText ⟨part :: parts, rest⟩).length = _ at whole
    change (Cut.filled [] ⟨part :: parts, rest⟩).length = _ at left
    have behind := ih (position + part.gap.length + part.matched.length)
    simp only [spansFrom, List.map_cons, List.sum_cons, whole, left]
    omega

end Cut

namespace Pattern

variable {α : Type}

/-- A text can be cut so that its scan and its replacement are told by the cut. -/
theorem exists_cut (pattern : Pattern α) (text : Text) :
    ∃ parts rest, Cut.toText ⟨parts, rest⟩ = text ∧ pattern.CutsFrom none parts rest ∧
      pattern.scan text = Cut.spansFrom 0 parts ∧
      pattern.replace [] text = Cut.filled [] ⟨parts, rest⟩ := by
  obtain ⟨parts, rest, rfl, cuts⟩ := pattern.exists_cutsFrom none text
  exact ⟨parts, rest, rfl, cuts, scanFrom_of_cutsFrom cuts 0, replaceFrom_of_cutsFrom cuts []⟩

/-- What is left of a text without its matches stands between their places. -/
theorem replace_eq_between (pattern : Pattern α) (text : Text) :
    pattern.replace [] text = text.between 0 ((pattern.scan text).map Found.place) := by
  obtain ⟨parts, rest, rfl, _, scanned, replaced⟩ := pattern.exists_cut text
  rw [replaced, scanned]
  exact (Cut.between_spansFrom [] parts rest).symm

/-- The matches of a scan stand behind one another. -/
theorem scan_ordered (pattern : Pattern α) (text : Text) :
    (pattern.scan text).Pairwise fun earlier later => earlier.stop ≤ later.start := by
  obtain ⟨parts, _, _, _, scanned, _⟩ := pattern.exists_cut text
  rw [scanned]
  exact Cut.spansFrom_ordered 0 parts

/-- A match of a cut at the leftmost matches is not empty. -/
theorem start_lt_stop_of_cutsFrom {pattern : Pattern α} {before : Option Char}
    {parts : List (Part α)} {rest : Text} (cuts : pattern.CutsFrom before parts rest)
    {position : Nat} {span : Found α} (member : span ∈ Cut.spansFrom position parts) :
    span.start < span.stop := by
  induction parts generalizing before position with
  | nil => cases member
  | cons part parts ih =>
    obtain ⟨_, reads, behind⟩ := cuts
    rcases List.mem_cons.1 member with rfl | later
    · have width := List.length_pos_iff.2 (ne_nil_of_read? reads)
      simp only
      omega
    · exact ih behind later

/-- A match of a scan is not empty and lies inside the text. -/
theorem bounds_of_mem_scan {pattern : Pattern α} {text : Text} {span : Found α}
    (member : span ∈ pattern.scan text) : span.start < span.stop ∧ span.stop ≤ text.length := by
  obtain ⟨parts, rest, rfl, cuts, scanned, _⟩ := pattern.exists_cut text
  rw [scanned] at member
  have inside : span.stop ≤ 0 + (Cut.toText ⟨parts, rest⟩).length :=
    Cut.stop_le_of_mem_spansFrom member
  rw [Nat.zero_add] at inside
  exact ⟨start_lt_stop_of_cutsFrom cuts member, inside⟩

/-- What is left without the matches is shorter than the text by the widths of the matches. -/
theorem length_replace_add_widths (pattern : Pattern α) (text : Text) :
    (pattern.replace [] text).length +
      ((pattern.scan text).map fun span => span.stop - span.start).sum = text.length := by
  obtain ⟨parts, rest, rfl, _, scanned, replaced⟩ := pattern.exists_cut text
  rw [replaced, scanned]
  exact Cut.length_filled_add_widths 0 parts rest

/-- Two patterns that read matches of the same widths find them in the same places. -/
theorem map_place_scanFrom {β : Type} {pattern : Pattern α} {other : Pattern β}
    (agree : ∀ before rest,
      (pattern.read? before rest).map (·.width) = (other.read? before rest).map (·.width))
    (position : Nat) (before : Option Char) (skip : Nat) (text : Text) :
    (pattern.scanFrom position before skip text).map Found.place =
      (other.scanFrom position before skip text).map Found.place := by
  induction text generalizing position before skip with
  | nil => cases skip <;> rfl
  | cons c rest ih =>
    cases skip with
    | succ skip => exact ih (position + 1) (some c) skip
    | zero =>
      have here := agree before (c :: rest)
      rw [scanFrom, scanFrom]
      cases reading : pattern.read? before (c :: rest) with
      | none =>
        rw [reading] at here
        rw [Option.map_eq_none_iff.1 here.symm]
        exact ih (position + 1) (some c) 0
      | some hit =>
        rw [reading] at here
        obtain ⟨second, otherReading, width⟩ := Option.map_eq_some_iff.1 here.symm
        simp only [otherReading, List.map_cons, Found.place, width]
        exact congrArg _ (ih (position + 1) (some c) (hit.width - 1))

end Pattern

end PhraseAudit
