import PhraseAudit.Marker
import PhraseAudit.Proofs.Marker.Grammar
import PhraseAudit.Proofs.Marker.Keyword
import PhraseAudit.Proofs.Scan.Cut

/-!
# Lines that cannot be read

The reading of a line ends early exactly when a marker on it has a stray character in its keyword.
Every other marker that the scan finds has a kind, whatever it wraps.
-/

namespace PhraseAudit

/-- A block is stray when its keyword holds a stray character. -/
def MarkerBlock.IsStray (block : MarkerBlock) : Prop :=
  ∃ c ∈ block.keyword, c ∈ MarkerKind.strays

instance (block : MarkerBlock) : Decidable block.IsStray :=
  List.decidableBEx (fun c => c ∈ MarkerKind.strays) block.keyword

namespace Marker

/-- Some marker on the line is stray. -/
def HoldsStray (line : Text) : Prop :=
  ∃ found ∈ MarkerBlock.pattern.scan line, found.value.IsStray

instance (line : Text) : Decidable (HoldsStray line) :=
  inferInstanceAs (Decidable (∃ found ∈ MarkerBlock.pattern.scan line, found.value.IsStray))

/-- What the scan of a line finds is in the grammar. -/
theorem wellFormed_of_mem_scan {line : Text} {found : Found MarkerBlock}
    (member : found ∈ MarkerBlock.pattern.scan line) : found.value.WellFormed := by
  obtain ⟨_, _, _, reads⟩ := Pattern.read_of_mem_scan member
  exact (MarkerBlock.eq_toText_of_read? reads).1

/-- Well-formed blocks are read to the end exactly when none of them is stray. The induction is on
the blocks from the left, and stops at the first stray one. -/
theorem ofBlocks_eq_none_iff {line : Int} {blocks : List (Found MarkerBlock)}
    (wellFormed : ∀ found ∈ blocks, found.value.WellFormed) :
    (ofBlocks line blocks).2 = none ↔ ∀ found ∈ blocks, ¬ found.value.IsStray := by
  induction blocks with
  | nil => simp [ofBlocks]
  | cons found rest ih =>
    have later := ih fun other inside => wellFormed other (List.mem_cons_of_mem _ inside)
    obtain ⟨⟨kind, same⟩, _⟩ := wellFormed found List.mem_cons_self
    rw [ofBlocks, ofFound, List.forall_mem_cons]
    by_cases stray : found.value.IsStray
    · obtain ⟨c, member, odd⟩ := stray
      rw [MarkerKind.ofText_eq_error member odd]
      constructor
      · intro impossible
        cases impossible
      · intro pure
        exact absurd ⟨c, member, odd⟩ pure.1
    · have pure : ∀ c ∈ found.value.keyword, c ∉ MarkerKind.strays :=
        fun c member odd => stray ⟨c, member, odd⟩
      rw [MarkerKind.ofText_eq_ok same pure]
      exact later.trans (and_iff_right stray).symm

/-- A line is read to its end exactly when no marker on it is stray. -/
theorem ofLine_eq_none_iff (number : Int) (line : Text) :
    (ofLine number line).2 = none ↔ ¬ HoldsStray line := by
  rw [ofLine_eq, ofBlocks_eq_none_iff fun found => wellFormed_of_mem_scan, HoldsStray]
  simp only [not_exists, not_and]

end Marker

end PhraseAudit
