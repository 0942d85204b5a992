import Mathlib.Order.Bounds.Defs
import PhraseAudit.Proofs.Marker.Removal
import PhraseAudit.Proofs.Marker.Stray
import PhraseAudit.Proofs.Scan.Leftmost

/-!
# The markers of a line are those of the grammar

The markers that are read from a line are judged by the grammar alone: each of them is written where
it is said to stand, they stand behind one another, and no place at which a block could begin is
left out. A block that begins inside another one is covered by it; of all others the leftmost is
read first.
-/

namespace PhraseAudit

/-- One keyword is not a writing of both kinds. -/
theorem MarkerKind.eq_of_sameUpToCase {kind other : MarkerKind} {keyword : Text}
    (same : Text.SameUpToCase kind.keyword keyword)
    (sameOther : Text.SameUpToCase other.keyword keyword) : kind = other := by
  have lengths := same.length_eq.trans sameOther.length_eq.symm
  cases kind <;> cases other <;> first | rfl | exact absurd lengths (by decide)

/-- A keyword that names a kind is a writing of this kind, if it is a writing of any. -/
theorem MarkerKind.eq_of_ofText {kind found : MarkerKind} {keyword : Text}
    (same : Text.SameUpToCase found.keyword keyword) (named : ofText keyword = .ok kind) :
    found = kind := by
  by_cases stray : ∃ c ∈ keyword, c ∈ strays
  · obtain ⟨c, member, odd⟩ := stray
    cases (ofText_eq_error member odd).symm.trans named
  · have pure : ∀ c ∈ keyword, c ∉ strays := fun c member odd => stray ⟨c, member, odd⟩
    exact Except.ok.inj ((ofText_eq_ok same pure).symm.trans named)

namespace MarkerBlock

/-- Some block is written at a position of a text, whatever stands in front of it and behind. -/
def BeginsAt (text : Text) (position : Nat) : Prop :=
  ∃ block : MarkerBlock, block.WellFormed ∧ ∃ behind, text.drop position = block.toText ++ behind

/-- A text that is written as a block begins with one. -/
theorem beginsAt_zero {block : MarkerBlock} (wellFormed : block.WellFormed) :
    BeginsAt block.toText 0 :=
  ⟨block, wellFormed, [], (List.drop_zero).trans (List.append_nil _).symm⟩

/-- What the pattern reads at a position is the block that is written there. -/
theorem readAt?_eq_some_iff (text : Text) (position : Nat) (hit : Hit MarkerBlock) :
    pattern.readAt? text position = some hit ↔
      hit.value.WellFormed ∧ hit.width = hit.value.toText.length ∧
        ∃ behind, text.drop position = hit.value.toText ++ behind := by
  obtain ⟨block, width⟩ := hit
  simp only [Pattern.readAt?, pattern, Option.map_eq_some_iff, read?_eq_some_iff, Hit.mk.injEq]
  constructor
  · rintro ⟨_, ⟨wellFormed, there⟩, rfl, rfl⟩
    exact ⟨wellFormed, rfl, there⟩
  · rintro ⟨wellFormed, rfl, there⟩
    exact ⟨block, ⟨wellFormed, there⟩, rfl, rfl⟩

/-- A block begins exactly where the pattern reads something. -/
theorem beginsAt_iff (text : Text) (position : Nat) :
    BeginsAt text position ↔ pattern.readAt? text position ≠ none := by
  rw [Option.ne_none_iff_exists']
  constructor
  · rintro ⟨block, wellFormed, there⟩
    exact ⟨⟨block, block.toText.length⟩, (readAt?_eq_some_iff _ _ _).2 ⟨wellFormed, rfl, there⟩⟩
  · rintro ⟨hit, reads⟩
    obtain ⟨wellFormed, _, there⟩ := (readAt?_eq_some_iff _ _ _).1 reads
    exact ⟨hit.value, wellFormed, there⟩

end MarkerBlock

namespace Marker

/-- A marker stands on a line: between its start and its stop a block of its kind is written, which
wraps its phrase. The keyword is a writing of this kind and of no other. -/
structure StandsOn (line : Text) (marker : Marker) : Prop where
  proper : marker.start < marker.stop
  inside : marker.stop ≤ line.length
  written : ∃ keyword, (line.take marker.stop).drop marker.start =
      ['@', '['] ++ keyword ++ ['#'] ++ marker.phrase ++ [']'] ∧
    ∀ kind : MarkerKind, Text.SameUpToCase kind.keyword keyword ↔ kind = marker.kind
  plain : ∀ c ∈ marker.phrase, c ≠ ']' ∧ c ≠ '\n'

/-- Where the last of some markers stops; without a marker, the beginning of the line. -/
def endOf (markers : List Marker) : Nat :=
  (markers.getLast?.map (·.stop)).getD 0

/-- Every marker that is read was found by the scan. -/
theorem exists_found_of_mem_ofBlocks {number : Int} {blocks : List (Found MarkerBlock)}
    {marker : Marker} (member : marker ∈ (ofBlocks number blocks).1) :
    ∃ found ∈ blocks, ofFound number found = .ok marker := by
  induction blocks with
  | nil => cases member
  | cons found rest ih =>
    rw [ofBlocks] at member
    cases made : ofFound number found with
    | error error =>
      rw [made] at member
      cases member
    | ok first =>
      rw [made] at member
      rcases List.mem_cons.1 member with rfl | later
      · exact ⟨found, List.mem_cons_self, made⟩
      · obtain ⟨other, inside, same⟩ := ih later
        exact ⟨other, List.mem_cons_of_mem _ inside, same⟩

/-- What is made of a block that the scan found stands on the line. -/
theorem standsOn_of_ofFound {number : Int} {line : Text} {found : Found MarkerBlock}
    {marker : Marker} (member : found ∈ MarkerBlock.pattern.scan line)
    (made : ofFound number found = .ok marker) : marker.line = number ∧ marker.StandsOn line := by
  obtain ⟨⟨⟨kind, same⟩, allowed⟩, width, behind, there⟩ :=
    (MarkerBlock.readAt?_eq_some_iff _ _ _).1 (Pattern.readAt?_of_mem_scan member)
  obtain ⟨proper, inside⟩ := Pattern.bounds_of_mem_scan member
  obtain ⟨named, names, rfl⟩ := exists_kind_of_ofFound made
  obtain rfl := MarkerKind.eq_of_ofText same names
  refine ⟨rfl, proper, inside, ⟨found.value.keyword, ?_, ?_⟩, ?_⟩
  · simp only at width there
    rw [List.drop_take, there, width, List.take_left]
    simp [MarkerBlock.toText]
  · intro other
    constructor
    · intro sameOther
      exact MarkerKind.eq_of_sameUpToCase sameOther same
    · rintro rfl
      exact same
  · intro c wrapped
    simpa [MarkerBlock.isPayload] using allowed c wrapped

/-- Each marker stands on the line that it was read from. -/
theorem standsOn_of_mem_ofLine {number : Int} {line : Text} {marker : Marker}
    (member : marker ∈ (ofLine number line).1) : marker.line = number ∧ marker.StandsOn line := by
  rw [ofLine_eq] at member
  obtain ⟨found, inside, made⟩ := exists_found_of_mem_ofBlocks member
  exact standsOn_of_ofFound inside made

/-- What is behind the last of some markers that stand behind one another is behind all of them. -/
theorem stop_le_of_endOf_le {line : Text} {markers : List Marker}
    (ordered : markers.Pairwise fun earlier later => earlier.stop ≤ later.start)
    (standing : ∀ marker ∈ markers, marker.StandsOn line) {position : Nat}
    (behind : endOf markers ≤ position) {marker : Marker} (member : marker ∈ markers) :
    marker.stop ≤ position := by
  rcases List.eq_nil_or_concat markers with rfl | ⟨front, last, rfl⟩
  · cases member
  · rw [List.concat_eq_append] at ordered member standing behind
    have atLast : last.stop ≤ position := by simpa [endOf] using behind
    rcases List.mem_append.1 member with earlier | here
    · have apart := (List.pairwise_append.1 ordered).2.2 marker earlier last List.mem_cons_self
      have proper := (standing last (List.mem_append_right _ List.mem_cons_self)).proper
      omega
    · rwa [List.mem_singleton.1 here]

/-- Markers that stand in front of a place end in front of it. -/
theorem endOf_le {markers : List Marker} {position : Nat}
    (before : ∀ marker ∈ markers, marker.stop ≤ position) : endOf markers ≤ position := by
  rcases List.eq_nil_or_concat markers with rfl | ⟨front, last, rfl⟩
  · exact Nat.zero_le _
  · simpa [endOf] using before last (by simp)

/-- A marker that is read in the middle of others stands where the scan finds a block in the middle
of others, in the same places. -/
theorem exists_split_scan {number : Int} {line : Text} (read : (ofLine number line).2 = none)
    {front rest : List Marker} {marker : Marker}
    (split : (ofLine number line).1 = front ++ marker :: rest) :
    ∃ before span behind, MarkerBlock.pattern.scan line = before ++ span :: behind ∧
      before.map Found.place = front.map place ∧ span.place = marker.place := by
  have places := map_place_ofLine read
  rw [split, List.map_append, List.map_cons] at places
  obtain ⟨before, others, whole, same, sameOthers⟩ := List.map_eq_append_iff.1 places.symm
  obtain ⟨span, behind, rfl, sameSpan, _⟩ := List.map_eq_cons_iff.1 sameOthers
  exact ⟨before, span, behind, whole, same, sameSpan⟩

/-- The markers that are read from a line are those of the grammar.

The line is read to its end. Then each marker stands on it: a block of its kind and of no other kind
is written there, which wraps its phrase. The markers stand behind one another. Every position at
which some block is written lies inside a marker, and the first such position at or behind the end
of the markers before is the start of the next one. Passing over lines without an opening changes
nothing in what is read, on these lines and on those that are not read to their end.

Proof: the markers are in the places that the scan finds, and the scan covers every position at
which its pattern reads something, which is where a block is written. -/
theorem lexes_grammar (number : Int) (line : Text) :
    ofLine number line = ofBlocks number (MarkerBlock.pattern.scan line) ∧
    ((ofLine number line).2 = none →
      let markers := (ofLine number line).1
      (∀ marker ∈ markers, marker.line = number ∧ marker.StandsOn line) ∧
      (markers.Pairwise fun earlier later => earlier.stop ≤ later.start) ∧
      (∀ position, MarkerBlock.BeginsAt line position →
        ∃ marker ∈ markers, marker.start ≤ position ∧ position < marker.stop) ∧
      ∀ front marker rest, markers = front ++ marker :: rest →
        IsLeast {position | endOf front ≤ position ∧ MarkerBlock.BeginsAt line position}
          marker.start) := by
  refine ⟨ofLine_eq number line, fun read => ?_⟩
  intro markers
  have standing : ∀ marker ∈ markers, marker.line = number ∧ marker.StandsOn line :=
    fun marker member => standsOn_of_mem_ofLine member
  have ordered := ordered_ofLine read
  refine ⟨standing, ordered, ?_, ?_⟩
  · intro position begins
    obtain ⟨span, member, covers⟩ :=
      Pattern.covered_of_readAt? ((MarkerBlock.beginsAt_iff line position).1 begins)
    have taken : span.place ∈ markers.map place :=
      map_place_ofLine read ▸ List.mem_map.2 ⟨span, member, rfl⟩
    obtain ⟨marker, inside, same⟩ := List.mem_map.1 taken
    obtain ⟨start, stop⟩ := Prod.mk.inj same
    exact ⟨marker, inside, start ▸ covers.1, stop ▸ covers.2⟩
  · intro front marker rest split
    obtain ⟨before, span, behind, scanned, places, here⟩ := exists_split_scan read split
    obtain ⟨start, _⟩ := Prod.mk.inj here
    rw [show (ofLine number line).1 = front ++ marker :: rest from split] at ordered
    obtain ⟨orderedFront, _, apart⟩ := List.pairwise_append.1 ordered
    have standingFront : ∀ earlier ∈ front, earlier.StandsOn line :=
      fun earlier member => (standing earlier (split ▸ List.mem_append_left _ member)).2
    rw [← start]
    constructor
    · have member : span ∈ MarkerBlock.pattern.scan line :=
        scanned ▸ List.mem_append_right _ List.mem_cons_self
      refine ⟨?_, (MarkerBlock.beginsAt_iff _ _).2 ?_⟩
      · rw [start]
        exact endOf_le fun earlier member => apart earlier member marker List.mem_cons_self
      · rw [Pattern.readAt?_of_mem_scan member]
        exact Option.some_ne_none _
    · rintro position ⟨atEnd, begins⟩
      refine Pattern.start_le_of_readAt? scanned ?_ ((MarkerBlock.beginsAt_iff _ _).1 begins)
      intro earlier member
      have taken : earlier.place ∈ front.map place := places ▸ List.mem_map.2 ⟨earlier, member, rfl⟩
      obtain ⟨same, inside, equal⟩ := List.mem_map.1 taken
      rw [← (Prod.mk.inj equal).2]
      exact stop_le_of_endOf_le orderedFront standingFront atEnd inside

/-- A block that a line feed breaks off, one that wraps what looks like another, and one that wraps
nothing. -/
theorem lexes_grammar_nested :
    let line : Text := "@[static#a\n@[static-header#@[static#]x@[STATIC#]".toList
    let outer : Marker := ⟨.header, "@[static#".toList, 1, 11, 37⟩
    let last : Marker := ⟨.static, [], 1, 38, 48⟩
    (ofLine 1 line).2 = none ∧ (ofLine 1 line).1 = [outer, last] ∧
      ¬ MarkerBlock.BeginsAt line 0 ∧
      IsLeast {position | outer.stop ≤ position ∧ MarkerBlock.BeginsAt line position}
        last.start := by
  intro line outer last
  have told : ofLine 1 line = ([outer, last], none) := by decide
  have read : (ofLine 1 line).2 = none := congrArg Prod.snd told
  have markers : (ofLine 1 line).1 = [outer, last] := congrArg Prod.fst told
  obtain ⟨_, _, covered, first⟩ := (lexes_grammar 1 line).2 read
  refine ⟨read, markers, ?_, first [outer] last [] markers⟩
  intro begins
  obtain ⟨marker, member, starts, _⟩ := covered 0 begins
  rw [markers] at member
  simp only [List.mem_cons, List.not_mem_nil, or_false] at member
  rcases member with rfl | rfl <;> exact absurd starts (by decide)

end Marker

end PhraseAudit
