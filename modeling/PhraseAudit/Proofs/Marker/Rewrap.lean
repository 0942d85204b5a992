import PhraseAudit.Line
import PhraseAudit.Proofs.Marker.Grammar
import PhraseAudit.Proofs.Scan.Middle

/-!
# Other markers in the same places

A line is rewrapped by putting other blocks in the places of its markers. Whatever the new blocks
wrap, also if it looks like the beginning of a marker, the scan finds just these blocks again. The
reason is that no marker begins in front of a block and runs into it: its phrase would have to take
in the `@` of the block, and so the marker would have ended with the block that stood there before,
and would have been found first.
-/

namespace PhraseAudit

/-- The cut with a block of one's choice in the place of each marker. The choice is made for each
marker by its number, from the left. -/
def Cut.rewrap (choose : Nat → MarkerBlock) (cut : Cut MarkerBlock) : Cut MarkerBlock :=
  ⟨cut.parts.mapIdx fun number part => ⟨part.gap, (choose number).toText, choose number⟩, cut.rest⟩

/-- The line with a block of one's choice in the place of each marker. -/
def Marker.rewrap (choose : Nat → MarkerBlock) (line : Text) : Text :=
  ((MarkerBlock.pattern.cut line).rewrap choose).toText

namespace MarkerBlock

/-- A sign `@` behind the head of a block stands in its payload: what is in front of it is the
opening, the keyword, the sign behind the keyword, and a part of the payload. -/
theorem front_of_at {block : MarkerBlock} (wellFormed : block.WellFormed) {front behind : Text}
    (proper : front ≠ []) (split : block.toText = front ++ '@' :: behind) :
    ∃ inner, front = '@' :: '[' :: (block.keyword ++ '#' :: inner) ∧
      ∀ c ∈ inner, isPayload c = true := by
  obtain ⟨⟨kind, same⟩, allowed⟩ := wellFormed
  obtain ⟨c, front, rfl⟩ := List.exists_cons_of_ne_nil proper
  have whole : '@' :: ('[' :: (block.keyword ++ ['#']) ++ (block.payload ++ [']'])) =
      c :: (front ++ '@' :: behind) := by
    simpa [toText] using split
  obtain ⟨rfl, tail⟩ := List.cons.inj whole
  have absent : '@' ∉ '[' :: (block.keyword ++ ['#']) := by
    intro member
    rcases List.mem_cons.1 member with opening | inside
    · cases opening
    · rcases List.mem_append.1 inside with letter | closing
      · exact (plain_of_mem_keyword same letter).1 rfl
      · cases List.mem_singleton.1 closing
  obtain ⟨inner, atFront, atPayload⟩ := Text.split_behind absent tail
  refine ⟨inner, by rw [atFront]; simp, ?_⟩
  intro d member
  rcases List.append_eq_append_iff.1 atPayload with ⟨more, long, closing⟩ | ⟨more, short, _⟩
  · cases more with
    | nil =>
      rw [List.append_nil] at long
      exact allowed d (long ▸ member)
    | cons e more =>
      rw [List.cons_append, List.cons.injEq] at closing
      obtain ⟨rfl, impossible⟩ := closing
      simp at impossible
  · exact allowed d (short ▸ List.mem_append_left _ member)

/-- A marker that runs into a block ends with it. -/
theorem read?_of_front {keyword inner : Text} {kind : MarkerKind}
    (same : Text.SameUpToCase kind.keyword keyword) (allowed : ∀ c ∈ inner, isPayload c = true)
    {block : MarkerBlock} (wellFormed : block.WellFormed) (behind : Text) :
    ∃ found, read? ('@' :: '[' :: (keyword ++ '#' :: inner) ++ (block.toText ++ behind)) =
      some found := by
  obtain ⟨⟨other, otherSame⟩, otherAllowed⟩ := wellFormed
  let payload := inner ++ ('@' :: '[' :: (block.keyword ++ '#' :: block.payload))
  have payloadAllowed : ∀ c ∈ payload, isPayload c = true := by
    intro c member
    simp only [payload, List.mem_append, List.mem_cons] at member
    rcases member with inside | rfl | rfl | letter | rfl | wrapped
    · exact allowed c inside
    · rfl
    · rfl
    · exact (plain_of_mem_keyword otherSame letter).2
    · rfl
    · exact otherAllowed c wrapped
  refine ⟨⟨keyword, payload⟩, (read?_eq_some_iff _ _).2 ?_⟩
  refine ⟨⟨⟨kind, same⟩, payloadAllowed⟩, behind, ?_⟩
  simp [toText, payload]

/-- No marker begins in front of one block if none begins in front of another in its place,
whatever follows either of them. -/
theorem quiet_before_block {before other : Option Char} {gap behind otherBehind : Text}
    {block otherBlock : MarkerBlock} (wellFormed : block.WellFormed)
    (quiet : pattern.Quiet before gap (block.toText ++ behind)) :
    pattern.Quiet other gap (otherBlock.toText ++ otherBehind) := by
  intro front c rest split
  have silent : read? (c :: rest ++ (block.toText ++ behind)) = none :=
    Option.map_eq_none_iff.1 (quiet front c rest split)
  refine Option.map_eq_none_iff.2 ?_
  cases reading : read? (c :: rest ++ (otherBlock.toText ++ otherBehind)) with
  | none => rfl
  | some found =>
    exfalso
    obtain ⟨foundWellFormed, after, whole⟩ := (read?_eq_some_iff _ _).1 reading
    rcases List.append_eq_append_iff.1 whole with ⟨more, long, next⟩ | ⟨more, inside, _⟩
    · -- The marker runs into the block, or ends just in front of it.
      cases more with
      | nil =>
        rw [List.append_nil] at long
        rw [← long, read?_toText_append foundWellFormed] at silent
        cases silent
      | cons d more =>
        have sign : d = '@' := by
          simp only [toText, List.cons_append, List.cons.injEq] at next
          exact next.1.symm
        rw [sign] at long
        obtain ⟨inner, atFront, allowed⟩ :=
          front_of_at foundWellFormed (List.cons_ne_nil c rest) long
        obtain ⟨⟨kind, same⟩, _⟩ := foundWellFormed
        obtain ⟨again, success⟩ := read?_of_front same allowed wellFormed behind
        rw [atFront, success] at silent
        cases silent
    · -- The marker stands in the gap, and would have been read there before.
      rw [inside, List.append_assoc, read?_toText_append foundWellFormed] at silent
      cases silent

/-- Behind the last marker it does not matter which character stands in front. -/
theorem quiet_of_quiet {before other : Option Char} {gap behind : Text}
    (quiet : pattern.Quiet before gap behind) : pattern.Quiet other gap behind :=
  fun front c rest split => quiet front c rest split

/-- A line that is cut at its markers stays so when other blocks are put in their places. The
induction is on the markers from the left. -/
theorem cutsFrom_rewrap {choose : Nat → MarkerBlock}
    (wellFormed : ∀ number, (choose number).WellFormed) {before other : Option Char}
    {parts : List (Part MarkerBlock)} {rest : Text}
    (cuts : pattern.CutsFrom before parts rest) :
    pattern.CutsFrom other (Cut.rewrap choose ⟨parts, rest⟩).parts rest := by
  induction parts generalizing before other choose with
  | nil => exact quiet_of_quiet cuts
  | cons part parts ih =>
    obtain ⟨quiet, reads, behind⟩ := cuts
    obtain ⟨valueWellFormed, matched⟩ := eq_toText_of_read? reads
    rw [matched] at quiet
    simp only [Cut.rewrap, List.mapIdx_cons]
    exact ⟨quiet_before_block valueWellFormed quiet,
      pattern_read?_toText (wellFormed 0) _ _, ih (fun number => wellFormed (number + 1)) behind⟩

end MarkerBlock

/-- Other blocks leave the gaps and the rest of a cut as they are. -/
theorem Cut.filled_rewrap (choose : Nat → MarkerBlock) (substitute : Text)
    (cut : Cut MarkerBlock) : (cut.rewrap choose).filled substitute = cut.filled substitute := by
  obtain ⟨parts, rest⟩ := cut
  induction parts generalizing choose with
  | nil => rfl
  | cons part parts ih =>
    have tail := ih fun number => choose (number + 1)
    simp only [Cut.rewrap, Cut.filled, List.mapIdx_cons, List.flatMap_cons,
      List.append_assoc] at tail ⊢
    rw [tail]

namespace Marker

/-- The markers of a rewrapped line are the chosen blocks, each in the place of its marker. -/
theorem scan_rewrap {choose : Nat → MarkerBlock} (wellFormed : ∀ number, (choose number).WellFormed)
    (line : Text) :
    MarkerBlock.pattern.scan (rewrap choose line) =
      ((MarkerBlock.pattern.cut line).rewrap choose).spans :=
  Pattern.scan_toText_of_cuts
    (MarkerBlock.cutsFrom_rewrap wellFormed (MarkerBlock.pattern.cuts_cut line).1)

/-- What is left of a line when its markers are removed is its gaps and its rest. -/
theorem remove_eq_filled (line : Text) :
    remove line = (MarkerBlock.pattern.cut line).filled [] := by
  obtain ⟨cuts, whole⟩ := MarkerBlock.pattern.cuts_cut line
  have replaced := Pattern.replace_toText_of_cuts cuts []
  rw [whole] at replaced
  rw [remove_eq, replaced]

/-- Rewrapping a line leaves what is outside its markers. -/
theorem remove_rewrap {choose : Nat → MarkerBlock}
    (wellFormed : ∀ number, (choose number).WellFormed) (line : Text) :
    remove (rewrap choose line) = remove line := by
  have cuts : MarkerBlock.pattern.Cuts ((MarkerBlock.pattern.cut line).rewrap choose) :=
    MarkerBlock.cutsFrom_rewrap wellFormed (MarkerBlock.pattern.cuts_cut line).1
  rw [remove_eq, rewrap, Pattern.replace_toText_of_cuts cuts, Cut.filled_rewrap, remove_eq_filled]

/-- Rewrapping a line leaves what is searched of it. -/
theorem searchable_rewrap {choose : Nat → MarkerBlock}
    (wellFormed : ∀ number, (choose number).WellFormed) (stripTags : Bool) (line : Text) :
    Line.searchable stripTags (rewrap choose line) = Line.searchable stripTags line := by
  rw [Line.searchable, Line.searchable, remove_rewrap wellFormed]

end Marker

end PhraseAudit
