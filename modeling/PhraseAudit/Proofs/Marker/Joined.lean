import PhraseAudit.Proofs.Marker.Lexing
import PhraseAudit.Proofs.Marker.Rewrap
import PhraseAudit.Proofs.Scan.Middle

/-!
# Markers that a removal puts together

Removing a marker joins what stood on both sides of it, and the joined text may read as a marker
again. It can do so in one way only: the marker that was removed stood inside the opening of the new
one. Behind an opening that is whole, the old marker would have been part of a phrase, and the two
would have been read as one. So nothing that reads as a marker is left where no marker follows a
part of an opening, and only then is nothing left to a second removal.
-/

namespace PhraseAudit

namespace MarkerBlock

/-- The opening of a block: everything in front of its phrase. -/
def opening (block : MarkerBlock) : Text :=
  ['@', '['] ++ block.keyword ++ ['#']

/-- A begun opening is a part at the head of some opening, neither empty nor whole. -/
def BegunOpening (begun : Text) : Prop :=
  begun ≠ [] ∧ ∃ (block : MarkerBlock) (finish : Text),
    block.WellFormed ∧ finish ≠ [] ∧ block.opening = begun ++ finish

/-- A block is its opening, its payload and the closing bracket. -/
theorem toText_append (block : MarkerBlock) (behind : Text) :
    block.toText ++ behind = block.opening ++ (block.payload ++ ']' :: behind) := by
  simp [toText, opening]

/-- No block is written at a place of a quiet gap. -/
theorem not_written_of_quiet {before : Option Char} {gap front more behind : Text}
    {block : MarkerBlock} (wellFormed : block.WellFormed)
    (quiet : pattern.Quiet before gap behind) (split : gap = front ++ more) (proper : more ≠ []) :
    ¬ ∃ after, more ++ behind = block.toText ++ after := by
  rintro ⟨after, written⟩
  obtain ⟨c, rest, rfl⟩ := List.exists_cons_of_ne_nil proper
  have silent := quiet front c rest split
  rw [written, pattern_read?_toText wellFormed] at silent
  cases silent

/-- A gap stays quiet when what follows it is taken away: a block that is written in the gap would
have been read there before. -/
theorem quiet_of_prefix {before other : Option Char} {gap behind : Text}
    (quiet : pattern.Quiet before gap behind) : pattern.Quiet other gap [] := by
  intro front c rest split
  cases reading : pattern.read? (front.getLast?.or other) (c :: rest ++ []) with
  | none => rfl
  | some hit =>
    obtain ⟨found, success, _⟩ := Option.map_eq_some_iff.1 reading
    obtain ⟨wellFormed, after, written⟩ := (read?_eq_some_iff _ _).1 success
    rw [List.append_nil] at written
    refine absurd ⟨after ++ behind, ?_⟩
      (not_written_of_quiet wellFormed quiet split (List.cons_ne_nil c rest))
    rw [written, List.append_assoc]

/-- It does not matter for a cut at markers which character stands in front of it. -/
theorem cutsFrom_of_cutsFrom {before other : Option Char} {parts : List (Part MarkerBlock)}
    {rest : Text} (cuts : pattern.CutsFrom before parts rest) :
    pattern.CutsFrom other parts rest := by
  induction parts generalizing before other with
  | nil => exact quiet_of_quiet cuts
  | cons part parts ih =>
    obtain ⟨quiet, reads, later⟩ := cuts
    exact ⟨quiet_of_quiet quiet, reads, ih later⟩

/-- What stands in front of a marker is cut as it is in the whole. -/
theorem cutsFrom_front {before other : Option Char} {front : List (Part MarkerBlock)}
    {part : Part MarkerBlock} {parts : List (Part MarkerBlock)} {rest : Text}
    (cuts : pattern.CutsFrom before (front ++ part :: parts) rest) :
    pattern.CutsFrom other front part.gap := by
  induction front generalizing before other with
  | nil =>
    obtain ⟨quiet, _, _⟩ := cuts
    exact quiet_of_prefix quiet
  | cons first front ih =>
    obtain ⟨quiet, reads, later⟩ := cuts
    obtain ⟨wellFormed, written⟩ := eq_toText_of_read? reads
    rw [written] at quiet
    refine ⟨?_, ?_, ih later⟩
    · rw [written]
      exact quiet_before_block wellFormed quiet
    · rw [written]
      exact pattern_read?_toText wellFormed _ _

/-- A phrase and its closing bracket that go on beyond a place: what stands in front of the place is
allowed in a phrase, or the bracket stands there. -/
theorem allowed_or_closed {payload inner tail behind : Text}
    (allowed : ∀ c ∈ payload, isPayload c = true)
    (same : payload ++ ']' :: behind = inner ++ tail) :
    (∀ c ∈ inner, isPayload c = true) ∨ ∃ more, inner = payload ++ ']' :: more := by
  rcases List.append_eq_append_iff.1 same with ⟨more, long, follows⟩ | ⟨more, short, _⟩
  · cases more with
    | nil =>
      rw [List.append_nil] at long
      exact .inl (long ▸ allowed)
    | cons c more =>
      obtain ⟨rfl, _⟩ := List.cons.inj follows
      exact .inr ⟨more, long⟩
  · left
    intro c member
    exact allowed c (short ▸ List.mem_append_left _ member)

/-- A block that begins in the gap in front of a marker, and goes on behind the marker when this is
removed, has the marker inside its opening.

Otherwise the opening stands in the gap. Then the bracket that closes the block stands there too, or
else the marker is part of the phrase behind this opening, and its own bracket closes it. In both
cases a block would have been read in the gap. -/
theorem exists_finish_of_gap {before : Option Char} {part : Part MarkerBlock}
    {gapFront more behind after tail : Text} {block : MarkerBlock} (wellFormed : block.WellFormed)
    (quiet : pattern.Quiet before part.gap (part.matched ++ after))
    (reads : pattern.read? (part.gap.getLast?.or before) (part.matched ++ after) =
      some ⟨part.value, part.matched.length⟩)
    (split : part.gap = gapFront ++ more) (proper : more ≠ [])
    (written : block.toText ++ behind = more ++ tail) :
    ∃ finish, finish ≠ [] ∧ block.opening = more ++ finish ∧
      tail = finish ++ (block.payload ++ ']' :: behind) := by
  obtain ⟨valueWellFormed, matched⟩ := eq_toText_of_read? reads
  have notWhole : ∀ inner, more = block.opening ++ inner →
      block.payload ++ ']' :: behind ≠ inner ++ tail := by
    intro inner whole follows
    obtain ⟨⟨kind, same⟩, allowed⟩ := wellFormed
    rcases allowed_or_closed allowed follows with inPhrase | ⟨closed, atClosed⟩
    · obtain ⟨found, success⟩ := read?_of_front same inPhrase valueWellFormed after
      obtain ⟨foundWellFormed, rest, there⟩ := (read?_eq_some_iff _ _).1 success
      refine not_written_of_quiet foundWellFormed quiet split proper ⟨rest, ?_⟩
      rw [← there, whole, matched]
      simp [opening]
    · refine not_written_of_quiet ⟨⟨kind, same⟩, allowed⟩ quiet split proper
        ⟨closed ++ (part.matched ++ after), ?_⟩
      rw [whole, atClosed, toText_append]
      simp
  rw [toText_append] at written
  rcases List.append_eq_append_iff.1 written with
    ⟨inner, whole, follows⟩ | ⟨finish, whole, follows⟩
  · exact absurd follows (notWhole inner whole)
  · refine ⟨finish, ?_, whole, follows⟩
    rintro rfl
    rw [List.append_nil] at whole
    exact notWhole [] (by rw [whole, List.append_nil]) follows.symm

/-- A block that is left by the removal of the markers of a cut has one of them inside its opening.
The induction is on the markers: the block begins in the gap in front of the first of them, or in
what is left behind it. -/
theorem exists_begun {block : MarkerBlock} (wellFormed : block.WellFormed) {before : Option Char}
    {parts : List (Part MarkerBlock)} {rest front behind : Text}
    (cuts : pattern.CutsFrom before parts rest)
    (left : Cut.filled [] ⟨parts, rest⟩ = front ++ (block.toText ++ behind)) :
    ∃ passed part later begun finish, parts = passed ++ part :: later ∧ begun ≠ [] ∧ finish ≠ [] ∧
      block.opening = begun ++ finish ∧ begun <:+ part.gap ∧
      Cut.filled [] ⟨passed, part.gap⟩ = front ++ begun ∧
      Cut.filled [] ⟨later, rest⟩ = finish ++ (block.payload ++ ']' :: behind) := by
  induction parts generalizing before front with
  | nil =>
    have quiet : pattern.Quiet before rest [] := cuts
    have whole : rest = front ++ (block.toText ++ behind) := left
    have proper : block.toText ++ behind ≠ [] := by simp [toText]
    exact absurd ⟨behind, List.append_nil _⟩ (not_written_of_quiet wellFormed quiet whole proper)
  | cons part parts ih =>
    obtain ⟨quiet, reads, cutsBehind⟩ := cuts
    have filled : Cut.filled [] ⟨part :: parts, rest⟩ = part.gap ++ Cut.filled [] ⟨parts, rest⟩ :=
      Cut.filled_cons [] part ⟨parts, rest⟩
    rw [filled] at left
    rcases Text.split_twice left with ⟨more, atFront, inTail⟩ | ⟨more, proper, atGap, written⟩
    · obtain ⟨passed, inner, later, begun, finish, rfl, proper, another, whole, suffix, atBegun,
        atFinish⟩ := ih cutsBehind inTail
      refine ⟨part :: passed, inner, later, begun, finish, rfl, proper, another, whole, suffix, ?_,
        atFinish⟩
      have filledFront : Cut.filled [] ⟨part :: passed, inner.gap⟩ =
          part.gap ++ Cut.filled [] ⟨passed, inner.gap⟩ :=
        Cut.filled_cons [] part ⟨passed, inner.gap⟩
      rw [filledFront, atBegun, atFront, List.append_assoc]
    · obtain ⟨finish, another, whole, follows⟩ :=
        exists_finish_of_gap wellFormed quiet reads atGap proper written
      exact ⟨[], part, parts, more, finish, rfl, proper, another, whole, ⟨front, atGap.symm⟩,
        atGap, follows⟩

end MarkerBlock

namespace Marker

/-- Removing the markers of a cut keeps its gaps and its rest, whatever stands in front of it. -/
theorem remove_toText {before : Option Char} {parts : List (Part MarkerBlock)} {rest : Text}
    (cuts : MarkerBlock.pattern.CutsFrom before parts rest) :
    remove (Cut.toText ⟨parts, rest⟩) = Cut.filled [] ⟨parts, rest⟩ := by
  rw [remove_eq]
  exact Pattern.replaceFrom_of_cutsFrom (MarkerBlock.cutsFrom_of_cutsFrom cuts) []

/-- The two sides of a marker are what they are in the whole text: removing their markers one by one
keeps what is kept of them in the whole. -/
theorem remove_sides {passed : List (Part MarkerBlock)} {part : Part MarkerBlock}
    {later : List (Part MarkerBlock)} {rest : Text}
    (cuts : MarkerBlock.pattern.CutsFrom none (passed ++ part :: later) rest) :
    remove (Cut.toText ⟨passed, part.gap⟩) = Cut.filled [] ⟨passed, part.gap⟩ ∧
      remove (Cut.toText ⟨later, rest⟩) = Cut.filled [] ⟨later, rest⟩ := by
  obtain ⟨other, _, _, behind⟩ := Pattern.exists_cutsFrom_behind cuts
  have front : MarkerBlock.pattern.CutsFrom none passed part.gap :=
    MarkerBlock.cutsFrom_front cuts
  exact ⟨remove_toText front, remove_toText behind⟩

/-- A block stands in what is left of a text exactly where the removal of a marker has put its
opening together. -/
theorem remove_eq_block_iff {block : MarkerBlock} (wellFormed : block.WellFormed)
    (text front behind : Text) :
    remove text = front ++ (block.toText ++ behind) ↔
      ∃ span ∈ MarkerBlock.pattern.scan text, ∃ begun finish, begun ≠ [] ∧ finish ≠ [] ∧
        block.opening = begun ++ finish ∧ begun <:+ text.take span.start ∧
        remove (text.take span.start) = front ++ begun ∧
        remove (text.drop span.stop) = finish ++ (block.payload ++ ']' :: behind) := by
  obtain ⟨parts, rest, rfl, cuts, scanned, replaced⟩ := MarkerBlock.pattern.exists_cut text
  rw [scanned, remove_eq, replaced]
  constructor
  · intro left
    obtain ⟨passed, part, later, begun, finish, rfl, proper, another, whole, suffix, atBegun,
      atFinish⟩ := MarkerBlock.exists_begun wellFormed cuts left
    obtain ⟨take, drop⟩ := Cut.take_drop_middle passed part later rest
    obtain ⟨removeFront, removeBehind⟩ := remove_sides cuts
    let start := (Cut.toText ⟨passed, part.gap⟩).length
    refine ⟨⟨start, start + part.matched.length, part.value⟩, Cut.mem_spansFrom_iff.2
      ⟨passed, part, later, rfl, (Nat.zero_add start).symm, rfl, rfl⟩, begun, finish, proper,
      another, whole, ?_, ?_, ?_⟩
    · rw [take]
      exact suffix.trans ⟨_, rfl⟩
    · rw [take, removeFront, atBegun]
    · rw [drop, removeBehind, atFinish]
  · rintro ⟨span, member, begun, finish, _, _, whole, _, atBegun, atFinish⟩
    obtain ⟨passed, part, later, rfl, start, stop, _⟩ := Cut.mem_spansFrom_iff.1 member
    rw [Nat.zero_add] at start
    obtain ⟨take, drop⟩ := Cut.take_drop_middle passed part later rest
    obtain ⟨removeFront, removeBehind⟩ := remove_sides cuts
    rw [start, take, removeFront] at atBegun
    rw [stop, start, drop, removeBehind] at atFinish
    rw [Cut.filled_middle, atBegun, atFinish, MarkerBlock.toText_append, whole]
    simp

/-- Nothing is removed from a text exactly when no block begins in it. -/
theorem remove_eq_self_iff (text : Text) :
    remove text = text ↔ ∀ position, ¬ MarkerBlock.BeginsAt text position := by
  rw [remove_eq, Pattern.replace_nil_eq_self_iff]
  simp only [MarkerBlock.beginsAt_iff, ne_eq, not_not]

/-- A block that begins in a text is written there behind a front of it. -/
theorem exists_of_beginsAt {text : Text} {position : Nat}
    (begins : MarkerBlock.BeginsAt text position) :
    ∃ (block : MarkerBlock) (behind : Text), block.WellFormed ∧
      text = text.take position ++ (block.toText ++ behind) := by
  obtain ⟨block, wellFormed, behind, there⟩ := begins
  exact ⟨block, behind, wellFormed, by rw [← there, List.take_append_drop]⟩

/-- No block is left where no marker follows a begun opening. -/
theorem not_beginsAt_remove {text : Text}
    (apart : ∀ span ∈ MarkerBlock.pattern.scan text, ∀ begun, MarkerBlock.BegunOpening begun →
      ¬ begun <:+ text.take span.start) (position : Nat) :
    ¬ MarkerBlock.BeginsAt (remove text) position := by
  intro begins
  obtain ⟨block, behind, wellFormed, left⟩ := exists_of_beginsAt begins
  obtain ⟨span, member, begun, finish, proper, another, whole, suffix, _⟩ :=
    (remove_eq_block_iff wellFormed _ _ _).1 left
  exact apart span member begun ⟨proper, block, finish, wellFormed, another, whole⟩ suffix

end Marker

namespace MarkerBlock

/-- An opening and, somewhere behind it but in front of any line feed, a closing bracket: a block
begins there. -/
theorem beginsAt_of_opening {block : MarkerBlock} (wellFormed : block.WellFormed)
    {front following : Text} (closing : ']' ∈ following) (noFeed : '\n' ∉ following) :
    BeginsAt (front ++ (block.opening ++ following)) front.length := by
  obtain ⟨wrapped, behind, rfl, fresh⟩ := List.eq_append_cons_of_mem closing
  have allowed : ∀ c ∈ wrapped, isPayload c = true := by
    intro c member
    have bracket : c ≠ ']' := fun same => fresh (same ▸ member)
    have feed : c ≠ '\n' := fun same => noFeed (same ▸ List.mem_append_left _ member)
    simp [isPayload, bracket, feed]
  refine ⟨⟨block.keyword, wrapped⟩, ⟨wellFormed.1, allowed⟩, behind, ?_⟩
  rw [List.drop_left]
  simp [opening, toText]

/-- An opening holds no space. -/
theorem space_not_mem_opening {block : MarkerBlock} (wellFormed : block.WellFormed) :
    ' ' ∉ block.opening := by
  obtain ⟨⟨kind, same⟩, _⟩ := wellFormed
  have foreign : ∀ kind : MarkerKind, Unicode.fold ' ' ∉ kind.keyword.map Unicode.fold := by
    intro kind
    cases kind <;> decide
  have absent := not_mem_keyword same (foreign kind)
  simp [opening, absent]

/-- Blanking the tags of a text without line feeds makes no block: the opening of a block holds no
space, so that it stood in the text before, and so did a bracket that closes it. -/
theorem exists_beginsAt_of_blank {text : Text} (noFeed : '\n' ∉ text) {position : Nat}
    (begins : BeginsAt (Tag.blank text) position) : ∃ place, BeginsAt text place := by
  obtain ⟨block, wellFormed, behind, there⟩ := begins
  obtain ⟨parts, rest, rfl, cuts⟩ := Tag.pattern.exists_cutsFrom none text
  have blanked : Tag.blank (Cut.toText ⟨parts, rest⟩) = Cut.filled [' '] ⟨parts, rest⟩ := by
    rw [Tag.blank_eq, Pattern.replace, Pattern.replaceFrom_of_cutsFrom cuts]
  have stands : Cut.filled [' '] ⟨parts, rest⟩ =
      (Tag.blank (Cut.toText ⟨parts, rest⟩)).take position ++
        (block.opening ++ (block.payload ++ ']' :: behind)) := by
    rw [← toText_append, ← there, List.take_append_drop, blanked]
  have proper : block.opening ≠ [] := by simp [opening]
  obtain ⟨begin, following, whole, kept⟩ :=
    Cut.exists_of_filled_singleton proper (space_not_mem_opening wellFormed) stands
  have closing : ']' ∈ following := kept ']' (by simp) (by decide)
  rw [whole] at noFeed ⊢
  refine ⟨begin.length, beginsAt_of_opening wellFormed closing fun feed => noFeed ?_⟩
  exact List.mem_append_right _ (List.mem_append_right _ feed)

end MarkerBlock

namespace Marker

/-- What is left of a text when its markers are removed reads as a marker only where the removal has
put an opening together.

A block is left between a front and a rest exactly if some marker of the text directly follows a
begun opening, such that what is left of the text in front of the marker ends with the begun
opening, and what is left of the text behind the marker begins with the end of this opening, the
phrase and the closing bracket. So no block is left if no marker follows a begun opening, and a
second removal changes nothing if and only if no block is left. A search sees the characters outside
the markers, with the tags among them blanked or not, and in a line without line feeds it sees a
block only if one is left.

Proof: an opening that is whole in front of a marker makes one longer marker of the two, which would
have been read first. -/
theorem left_block_joined (text : Text) :
    let kept := (MarkerBlock.pattern.outside text).map (·.1)
    (∀ (block : MarkerBlock) (front behind : Text), block.WellFormed →
      (remove text = front ++ (block.toText ++ behind) ↔
        ∃ span ∈ MarkerBlock.pattern.scan text, ∃ begun finish, begun ≠ [] ∧ finish ≠ [] ∧
          block.opening = begun ++ finish ∧ begun <:+ text.take span.start ∧
          remove (text.take span.start) = front ++ begun ∧
          remove (text.drop span.stop) = finish ++ (block.payload ++ ']' :: behind))) ∧
    ((∀ span ∈ MarkerBlock.pattern.scan text, ∀ begun, MarkerBlock.BegunOpening begun →
        ¬ begun <:+ text.take span.start) →
      ∀ position, ¬ MarkerBlock.BeginsAt (remove text) position) ∧
    (remove (remove text) = remove text ↔
      ∀ position, ¬ MarkerBlock.BeginsAt (remove text) position) ∧
    ∀ stripTags,
      Line.searchable stripTags text = (if stripTags then Tag.blank kept else kept) ∧
      ('\n' ∉ text → ∀ place, MarkerBlock.BeginsAt (Line.searchable stripTags text) place →
        ∃ position, MarkerBlock.BeginsAt (remove text) position) := by
  intro kept
  have outside : remove text = kept := by rw [remove_eq, ← Pattern.map_outside]
  refine ⟨fun block front behind wellFormed => remove_eq_block_iff wellFormed text front behind,
    not_beginsAt_remove, remove_eq_self_iff (remove text), fun stripTags => ⟨?_, ?_⟩⟩
  · rw [Line.searchable, outside]
  · intro noFeed place begins
    cases stripTags with
    | false => exact ⟨place, begins⟩
    | true =>
      refine MarkerBlock.exists_beginsAt_of_blank ?_ begins
      rw [remove_eq]
      intro feed
      exact noFeed ((Pattern.mem_of_mem_replace feed).resolve_left List.not_mem_nil)

/-- With the tags kept, a line is searched as its markers leave it. -/
theorem searchable_false (text : Text) : Line.searchable false text = remove text :=
  rfl

/-- What is left of a marker inside the opening of another one. -/
theorem remove_nested : remove "@[sta@[static#x]tic#y]".toList =
    MarkerBlock.toText ⟨"static".toList, "y".toList⟩ := by
  decide

/-- A marker inside the opening of another one, and a marker behind a word. -/
theorem left_block_joined_nested :
    let text : Text := "@[sta@[static#x]tic#y]".toList
    let block : MarkerBlock := ⟨"static".toList, "y".toList⟩
    let plain : Text := "a@[static#x]b".toList
    block.WellFormed ∧
      (∃ span ∈ MarkerBlock.pattern.scan text, ∃ begun finish, block.opening = begun ++ finish ∧
        begun <:+ text.take span.start ∧ remove (text.drop span.stop) = finish ++ "y]".toList) ∧
      (∃ position, MarkerBlock.BeginsAt (remove text) position) ∧
      ∀ position, ¬ MarkerBlock.BeginsAt (remove plain) position := by
  intro text block plain
  have wellFormed : block.WellFormed := ⟨⟨.static, rfl⟩, by simp [block, MarkerBlock.isPayload]⟩
  have left : remove text = block.toText ++ [] := by
    rw [List.append_nil]
    exact remove_nested
  obtain ⟨joined, _, _, searched⟩ := left_block_joined text
  obtain ⟨_, apart, _, _⟩ := left_block_joined plain
  refine ⟨wellFormed, ?_, ?_, apart ?_⟩
  · obtain ⟨span, member, begun, finish, _, _, whole, suffix, _, behind⟩ :=
      (joined block [] [] wellFormed).1 left
    exact ⟨span, member, begun, finish, whole, suffix, behind⟩
  · have begins := MarkerBlock.beginsAt_zero wellFormed
    rw [← remove_nested, ← searchable_false] at begins
    exact (searched false).2 (by decide) 0 begins
  · rintro span member begun ⟨proper, other, finish, _, _, whole⟩ suffix
    have only : ∀ span ∈ MarkerBlock.pattern.scan plain, plain.take span.start = ['a'] := by
      decide
    rw [only span member] at suffix
    obtain ⟨c, rest, rfl⟩ := List.exists_cons_of_ne_nil proper
    obtain ⟨rfl, _⟩ := List.cons.inj whole
    exact absurd (suffix.subset List.mem_cons_self) (by decide)

/-- Removal can make a marker of what it joins. A second removal takes it away, and what it wraps is
searched. -/
theorem removal_builds_marker :
    let text : Text := "@[sta@[static#x]tic#y]".toList
    (∃ position, MarkerBlock.BeginsAt (remove text) position) ∧
      remove (remove text) ≠ remove text ∧
      Line.searchable false text = "@[static#y]".toList := by
  intro text
  let block : MarkerBlock := ⟨"static".toList, "y".toList⟩
  have wellFormed : block.WellFormed := ⟨⟨.static, rfl⟩, by simp [block, MarkerBlock.isPayload]⟩
  have begins := MarkerBlock.beginsAt_zero wellFormed
  rw [← remove_nested] at begins
  refine ⟨⟨0, begins⟩, fun same => (remove_eq_self_iff _).1 same 0 begins, ?_⟩
  rw [searchable_false, remove_nested]
  simp [MarkerBlock.toText]

end Marker

end PhraseAudit
