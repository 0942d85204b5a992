import PhraseAudit.Marker
import PhraseAudit.Proofs.Scan.Outside
import PhraseAudit.Proofs.Scan.Places

/-!
# What is removed is what is read

The two passes over a document look for markers in two ways. The first reads them, with their kinds
and phrases, and the second only measures them to take them out. Both find the same places: on a
line that is read to its end, the second pass leaves just what lies outside the markers of the first.
-/

namespace PhraseAudit.Marker

/-- The place of a marker on its line. -/
def place (marker : Marker) : Nat × Nat :=
  (marker.start, marker.stop)

/-- A marker is made of a block whose keyword names its kind. -/
theorem exists_kind_of_ofFound {number : Int} {found : Found MarkerBlock} {marker : Marker}
    (made : ofFound number found = .ok marker) :
    ∃ kind, MarkerKind.ofText found.value.keyword = .ok kind ∧
      marker = ⟨kind, found.value.payload, number, found.start, found.stop⟩ := by
  unfold ofFound at made
  cases named : MarkerKind.ofText found.value.keyword with
  | error error =>
    rw [named] at made
    cases made
  | ok kind =>
    rw [named] at made
    exact ⟨kind, rfl, (Except.ok.inj made).symm⟩

/-- A marker stands where its block was found. -/
theorem place_of_ofFound {line : Int} {found : Found MarkerBlock} {marker : Marker}
    (made : ofFound line found = .ok marker) : marker.place = found.place := by
  obtain ⟨kind, _, rfl⟩ := exists_kind_of_ofFound made
  rfl

/-- Blocks that are read to the end give one marker each, in the same places. -/
theorem map_place_ofBlocks {line : Int} {blocks : List (Found MarkerBlock)}
    (read : (ofBlocks line blocks).2 = none) :
    (ofBlocks line blocks).1.map place = blocks.map Found.place := by
  induction blocks with
  | nil => rfl
  | cons found rest ih =>
    rw [ofBlocks] at read ⊢
    cases made : ofFound line found with
    | error error =>
      rw [made] at read
      cases read
    | ok marker =>
      rw [made] at read
      simp only [List.map_cons, place_of_ofFound made, ih read]

/-- The markers of a line that is read to its end stand where the scan of the line finds blocks. -/
theorem map_place_ofLine {number : Int} {line : Text} (read : (ofLine number line).2 = none) :
    (ofLine number line).1.map place = (MarkerBlock.pattern.scan line).map Found.place := by
  rw [ofLine_eq] at read ⊢
  exact map_place_ofBlocks read

/-- The markers of a line that is read to its end stand behind one another. -/
theorem ordered_ofLine {number : Int} {line : Text} (read : (ofLine number line).2 = none) :
    (ofLine number line).1.Pairwise fun earlier later => earlier.stop ≤ later.start := by
  have ordered : ((MarkerBlock.pattern.scan line).map Found.place).Pairwise
      fun earlier later => earlier.2 ≤ later.1 :=
    List.pairwise_map.2 (MarkerBlock.pattern.scan_ordered line)
  rw [← map_place_ofLine read] at ordered
  exact List.pairwise_map.1 ordered

/-- Measuring finds the places that reading finds. -/
theorem map_place_removal (line : Text) :
    (MarkerBlock.removal.scan line).map Found.place =
      (MarkerBlock.pattern.scan line).map Found.place :=
  Pattern.map_place_scanFrom MarkerBlock.removal_width 0 none 0 line

/-- A position is outside all markers of a line that is read to its end exactly when no block that
the scan finds covers it. -/
theorem outside_markers_iff {number : Int} {line : Text} (read : (ofLine number line).2 = none)
    (position : Nat) :
    (∀ marker ∈ (ofLine number line).1, ¬ (marker.start ≤ position ∧ position < marker.stop)) ↔
      ∀ span ∈ MarkerBlock.pattern.scan line, ¬ span.Covers position := by
  have places := List.forall_mem_map (l := (ofLine number line).1) (f := place)
    (P := fun taken => ¬ (taken.1 ≤ position ∧ position < taken.2))
  rw [map_place_ofLine read, List.forall_mem_map] at places
  exact places.symm

/-- On a line that is read to its end, what is removed is what was read.

The markers stand behind one another inside the line, and none of them is empty. What is left of the
line is the text between their places, which is to say its characters at the positions that no
marker covers, and so the line is shorter by the widths of the markers. The places that are measured
for the removal are those of the markers.

Proof: the markers are in the places of the blocks that the scan finds, and measuring finds blocks
in the same places as reading. -/
theorem remove_eq_between {number : Int} {line : Text} (read : (ofLine number line).2 = none) :
    let markers := (ofLine number line).1
    remove line = line.between 0 (markers.map place) ∧
      (markers.Pairwise fun earlier later => earlier.stop ≤ later.start) ∧
      (∀ marker ∈ markers, marker.start < marker.stop ∧ marker.stop ≤ line.length) ∧
      remove line = (line.zipIdx.filter fun pair => ∀ marker ∈ markers,
        ¬ (marker.start ≤ pair.2 ∧ pair.2 < marker.stop)).map (·.1) ∧
      (remove line).length + (markers.map fun marker => marker.stop - marker.start).sum =
        line.length ∧
      (MarkerBlock.removal.scan line).map Found.place = markers.map place := by
  intro markers
  have places : markers.map place = (MarkerBlock.pattern.scan line).map Found.place :=
    map_place_ofLine read
  refine ⟨?_, ordered_ofLine read, ?_, ?_, ?_, ?_⟩
  · rw [remove_eq, Pattern.replace_eq_between, places]
  · intro marker member
    have taken : marker.place ∈ (MarkerBlock.pattern.scan line).map Found.place :=
      places ▸ List.mem_map.2 ⟨marker, member, rfl⟩
    obtain ⟨span, found, same⟩ := List.mem_map.1 taken
    obtain ⟨start, stop⟩ := Prod.mk.inj same
    rw [← start, ← stop]
    exact Pattern.bounds_of_mem_scan found
  · rw [remove_eq, ← Pattern.map_outside]
    refine congrArg (List.map Prod.fst) (List.filter_congr ?_)
    intro pair _
    exact decide_eq_decide.2 (outside_markers_iff read pair.2).symm
  · have widths : markers.map (fun marker => marker.stop - marker.start) =
        (MarkerBlock.pattern.scan line).map fun span => span.stop - span.start := by
      have mapped := congrArg (List.map fun taken : Nat × Nat => taken.2 - taken.1) places
      rwa [List.map_map, List.map_map] at mapped
    rw [widths, remove_eq]
    exact MarkerBlock.pattern.length_replace_add_widths line
  · rw [map_place_removal, places]

/-- Two markers that touch, of which the second wraps what looks like another opening, and an opening
that begins no marker. -/
theorem remove_eq_between_touching :
    let line : Text := "a@[static#x]@[STATIC-header#@[static#]]b@[static]".toList
    (ofLine 1 line).2 = none ∧ ((ofLine 1 line).1.map place = [(1, 12), (12, 38)]) ∧
      remove line = line.between 0 [(1, 12), (12, 38)] ∧
      line.between 0 [(1, 12), (12, 38)] = "a]b@[static]".toList := by
  intro line
  obtain ⟨read, places⟩ : (ofLine 1 line).2 = none ∧
      (ofLine 1 line).1.map place = [(1, 12), (12, 38)] := by decide
  obtain ⟨left, _⟩ := remove_eq_between read
  rw [places] at left
  exact ⟨read, places, left, by decide⟩

end PhraseAudit.Marker
