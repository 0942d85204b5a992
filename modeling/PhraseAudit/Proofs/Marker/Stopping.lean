import PhraseAudit.Proofs.Marker.Lexing

/-!
# Where the reading of a line stops

A line is read block by block, in the order in which the scan finds them, and each block stands for
one marker. The first block with a stray character in its keyword stops the reading: the markers
before it have been read by then, and the error names its keyword in small letters. Without such a
block the line is read to its end.
-/

namespace PhraseAudit.Marker

/-- A marker of a numbered line stands for a block that was found there: it has the place of the
block, wraps what the block wraps, and the keyword of the block is a writing of its kind and of no
other. -/
structure StandsFor (number : Int) (found : Found MarkerBlock) (marker : Marker) : Prop where
  line : marker.line = number
  place : marker.place = found.place
  phrase : marker.phrase = found.value.payload
  kind : ∀ kind : MarkerKind,
    Text.SameUpToCase kind.keyword found.value.keyword ↔ kind = marker.kind

/-- A well-formed block has a kind exactly when it is not stray. -/
theorem exists_kind_iff {block : MarkerBlock} (wellFormed : block.WellFormed) :
    (∃ kind, MarkerKind.ofText block.keyword = .ok kind) ↔ ¬ block.IsStray := by
  obtain ⟨⟨kind, same⟩, _⟩ := wellFormed
  constructor
  · rintro ⟨named, names⟩ ⟨c, member, odd⟩
    cases (MarkerKind.ofText_eq_error member odd).symm.trans names
  · intro pure
    exact ⟨kind, MarkerKind.ofText_eq_ok same fun c member odd => pure ⟨c, member, odd⟩⟩

/-- A block that is not stray is read as a marker that stands for it. -/
theorem exists_standsFor {found : Found MarkerBlock} (wellFormed : found.value.WellFormed)
    (pure : ¬ found.value.IsStray) (number : Int) :
    ∃ marker, ofFound number found = .ok marker ∧ StandsFor number found marker := by
  obtain ⟨⟨kind, same⟩, _⟩ := wellFormed
  have names := MarkerKind.ofText_eq_ok same fun c member odd => pure ⟨c, member, odd⟩
  refine ⟨⟨kind, found.value.payload, number, found.start, found.stop⟩, ?_, rfl, rfl, rfl, ?_⟩
  · rw [ofFound, names]
    rfl
  · intro other
    constructor
    · exact fun sameOther => MarkerKind.eq_of_sameUpToCase sameOther same
    · rintro rfl
      exact same

/-- A stray block is not read, and the error names its keyword. -/
theorem ofFound_eq_error {found : Found MarkerBlock} (stray : found.value.IsStray) (number : Int) :
    ofFound number found = .error (.unknownKind found.value.keyword.lowercase) := by
  obtain ⟨c, member, odd⟩ := stray
  rw [ofFound, MarkerKind.ofText_eq_error member odd]
  rfl

/-- Well-formed blocks are read up to the first stray one. The induction is on the blocks from the
left; behind a stray block nothing is looked at any more. -/
theorem ofBlocks_up_to_stray {blocks : List (Found MarkerBlock)}
    (wellFormed : ∀ found ∈ blocks, found.value.WellFormed) (number : Int) :
    List.Forall₂ (StandsFor number) (blocks.takeWhile fun found => ¬ found.value.IsStray)
        (ofBlocks number blocks).1 ∧
      (ofBlocks number blocks).2 = (blocks.find? fun found => found.value.IsStray).map
        fun found => .unknownKind found.value.keyword.lowercase := by
  induction blocks with
  | nil => exact ⟨.nil, rfl⟩
  | cons found rest ih =>
    obtain ⟨first, others⟩ := List.forall_mem_cons.1 wellFormed
    obtain ⟨markers, failure⟩ := ih others
    by_cases stray : found.value.IsStray
    · rw [ofBlocks, ofFound_eq_error stray, List.takeWhile_cons_of_neg (by simpa using stray),
        List.find?_cons_of_pos (by simpa using stray)]
      exact ⟨.nil, rfl⟩
    · obtain ⟨marker, made, stands⟩ := exists_standsFor first stray number
      rw [ofBlocks, made, List.takeWhile_cons_of_pos (by simpa using stray),
        List.find?_cons_of_neg (by simpa using stray)]
      exact ⟨.cons stands markers, failure⟩

/-- The reading of a line ends early exactly when some block on it has a stray character in its
keyword.

The blocks are those that the scan of the line finds. Those before the first stray one have been
read, each as a marker that stands for it, and nothing else has. The error names the keyword of the
first stray block in small letters. A block has a kind exactly when it is not stray, so that a line
without a stray block is read to its end. -/
theorem reads_up_to_stray (number : Int) (line : Text) :
    let blocks := MarkerBlock.pattern.scan line
    ((ofLine number line).2 ≠ none ↔
      ∃ found ∈ blocks, ∃ c ∈ found.value.keyword, c = '\u0130' ∨ c = '\u0131' ∨ c = '\u017f') ∧
    List.Forall₂ (StandsFor number) (blocks.takeWhile fun found => ¬ found.value.IsStray)
      (ofLine number line).1 ∧
    (ofLine number line).2 = (blocks.find? fun found => found.value.IsStray).map
      (fun found => .unknownKind found.value.keyword.lowercase) ∧
    ∀ found ∈ blocks,
      (∃ kind, MarkerKind.ofText found.value.keyword = .ok kind) ↔ ¬ found.value.IsStray := by
  intro blocks
  have wellFormed : ∀ found ∈ blocks, found.value.WellFormed :=
    fun found member => wellFormed_of_mem_scan member
  obtain ⟨markers, failure⟩ := ofBlocks_up_to_stray wellFormed number
  rw [← ofLine_eq] at markers failure
  refine ⟨?_, markers, failure, fun found member => exists_kind_iff (wellFormed found member)⟩
  rw [ne_eq, ofLine_eq_none_iff, not_not]
  simp only [HoldsStray, MarkerBlock.IsStray, MarkerKind.strays, List.mem_cons, List.not_mem_nil,
    or_false, blocks]

/-- A line with three blocks, of which the second one is stray. -/
example : ofLine 1 "@[static#a]@[\u017ftatic#b]@[static#c]".toList =
    ([⟨.static, ['a'], 1, 0, 11⟩], some (.unknownKind "\u017ftatic".toList)) := by
  decide +kernel

end PhraseAudit.Marker
