import PhraseAudit.Marker.Block

/-!
# The reader of markers accepts the grammar

A block is read at the head of a text if and only if it is well-formed and written there. So what is
read depends on the written block alone and not on what follows it. The two keywords begin alike,
but only one of them can stand in front of the sign that closes it.
-/

namespace PhraseAudit.MarkerBlock

/-- A character that folds to none of the letters of a keyword is in no writing of it. -/
theorem not_mem_keyword {kind : MarkerKind} {keyword : Text}
    (same : Text.SameUpToCase kind.keyword keyword) {c : Char}
    (foreign : Unicode.fold c ∉ kind.keyword.map Unicode.fold) : c ∉ keyword := by
  intro member
  rw [show kind.keyword.map Unicode.fold = keyword.map Unicode.fold from same] at foreign
  exact foreign (List.mem_map.2 ⟨c, member, rfl⟩)

/-- A keyword as it is written holds no character that has a meaning of its own in a block. -/
theorem plain_of_mem_keyword {kind : MarkerKind} {keyword : Text}
    (same : Text.SameUpToCase kind.keyword keyword) {c : Char} (member : c ∈ keyword) :
    c ≠ '@' ∧ isPayload c = true := by
  have foreign : ∀ kind : MarkerKind, Unicode.fold '@' ∉ kind.keyword.map Unicode.fold ∧
      Unicode.fold ']' ∉ kind.keyword.map Unicode.fold ∧
      Unicode.fold '\n' ∉ kind.keyword.map Unicode.fold := by
    intro kind
    cases kind <;> decide
  obtain ⟨noAt, noClosing, noFeed⟩ := foreign kind
  constructor
  · rintro rfl
    exact not_mem_keyword same noAt member
  · have closing : c ≠ ']' := by
      rintro rfl
      exact not_mem_keyword same noClosing member
    have feed : c ≠ '\n' := by
      rintro rfl
      exact not_mem_keyword same noFeed member
    simp [isPayload, closing, feed]

/-- A payload ends at the closing bracket behind it. -/
theorem span_payload {payload : Text} (allowed : ∀ c ∈ payload, isPayload c = true)
    (rest : Text) :
    (payload ++ ']' :: rest).takeWhile isPayload = payload ∧
      (payload ++ ']' :: rest).dropWhile isPayload = ']' :: rest := by
  have stops : isPayload ']' = false := by decide
  constructor
  · rw [List.takeWhile_append_of_pos allowed, List.takeWhile_cons, if_neg (by simp [stops]),
      List.append_nil]
  · rw [List.dropWhile_append_of_pos allowed, List.dropWhile_cons, if_neg (by simp [stops])]

/-- A block of one kind is read exactly where its keyword, the sign behind it, an allowed payload
and a closing bracket are written. -/
theorem readAs?_eq_some_iff (kind : MarkerKind) (text : Text) (block : MarkerBlock) :
    readAs? kind text = some block ↔
      Text.SameUpToCase kind.keyword block.keyword ∧
        (∀ c ∈ block.payload, isPayload c = true) ∧
        ∃ rest, text = block.keyword ++ '#' :: (block.payload ++ ']' :: rest) := by
  constructor
  · intro found
    unfold readAs? at found
    split at found
    · rename_i keyword tail split
      obtain ⟨joined, same⟩ := (Text.splitFolded?_eq_some_iff _ _ _ _).1 split
      split at found
      · rename_i rest closing
        cases found
        refine ⟨same, List.all_eq_true.1 List.all_takeWhile, rest, ?_⟩
        have whole := List.takeWhile_append_dropWhile (p := isPayload) (l := tail)
        rw [closing] at whole
        rw [joined, whole]
      · cases found
    · cases found
  · rintro ⟨same, allowed, rest, rfl⟩
    have split := (Text.splitFolded?_eq_some_iff kind.keyword
      (block.keyword ++ '#' :: (block.payload ++ ']' :: rest)) block.keyword _).2 ⟨rfl, same⟩
    obtain ⟨taken, left⟩ := span_payload allowed rest
    simp only [readAs?, split, taken, left]

/-- The shorter keyword and the sign behind it are no beginning of the longer one. -/
theorem readAs?_header_eq_none {keyword : Text}
    (same : Text.SameUpToCase MarkerKind.static.keyword keyword) (tail : Text) :
    readAs? .header (keyword ++ '#' :: tail) = none := by
  cases reading : readAs? .header (keyword ++ '#' :: tail) with
  | none => rfl
  | some block =>
    obtain ⟨other, _, rest, whole⟩ := (readAs?_eq_some_iff _ _ _).1 reading
    have folded := congrArg (List.map Unicode.fold) whole
    simp only [List.map_append, List.map_cons] at folded
    rw [← show MarkerKind.static.keyword.map Unicode.fold = keyword.map Unicode.fold from same,
      ← show MarkerKind.header.keyword.map Unicode.fold = block.keyword.map Unicode.fold from
        other] at folded
    have short : MarkerKind.static.keyword.map Unicode.fold ++ [Unicode.fold '#'] <+:
        MarkerKind.static.keyword.map Unicode.fold ++ Unicode.fold '#' :: tail.map Unicode.fold :=
      ⟨tail.map Unicode.fold, by rw [List.append_assoc, List.singleton_append]⟩
    have long : MarkerKind.header.keyword.map Unicode.fold <+:
        MarkerKind.static.keyword.map Unicode.fold ++ Unicode.fold '#' :: tail.map Unicode.fold :=
      ⟨_, folded.symm⟩
    exact absurd (List.prefix_of_prefix_length_le short long (by decide)) (by decide)

/-- What is read at the head of a text is a well-formed block that is written there, and every such
block is read. -/
theorem read?_eq_some_iff (text : Text) (block : MarkerBlock) :
    read? text = some block ↔ block.WellFormed ∧ ∃ rest, text = block.toText ++ rest := by
  have written : ∀ rest, block.toText ++ rest =
      '@' :: '[' :: (block.keyword ++ '#' :: (block.payload ++ ']' :: rest)) := by
    intro rest
    simp [toText]
  constructor
  · intro success
    have inner : ∀ kind body, readAs? kind body = some block →
        block.WellFormed ∧ ∃ rest, '@' :: '[' :: body = block.toText ++ rest := by
      intro kind body found
      obtain ⟨same, allowed, rest, rfl⟩ := (readAs?_eq_some_iff kind body block).1 found
      exact ⟨⟨⟨kind, same⟩, allowed⟩, rest, (written rest).symm⟩
    unfold read? at success
    split at success
    · rename_i body
      cases header : readAs? .header body with
      | some found =>
        rw [header] at success
        cases success
        exact inner .header body header
      | none =>
        rw [header] at success
        exact inner .static body success
    · cases success
  · rintro ⟨⟨⟨kind, same⟩, allowed⟩, rest, rfl⟩
    have found := (readAs?_eq_some_iff kind _ block).2 ⟨same, allowed, rest, rfl⟩
    rw [written]
    cases kind with
    | header => simp [read?, found]
    | static => simp [read?, found, readAs?_header_eq_none same]

/-- What is read does not depend on what follows the block. -/
theorem read?_toText_append {block : MarkerBlock} (wellFormed : block.WellFormed) (rest : Text) :
    read? (block.toText ++ rest) = some block :=
  (read?_eq_some_iff _ _).2 ⟨wellFormed, rest, rfl⟩

/-- A block that the pattern reads over a given stretch is written there. -/
theorem eq_toText_of_read? {before : Option Char} {matched behind : Text} {block : MarkerBlock}
    (reads : pattern.read? before (matched ++ behind) = some ⟨block, matched.length⟩) :
    block.WellFormed ∧ matched = block.toText := by
  obtain ⟨found, success, same⟩ := Option.map_eq_some_iff.1 reads
  obtain ⟨wellFormed, rest, whole⟩ := (read?_eq_some_iff _ _).1 success
  simp only [Hit.mk.injEq] at same
  obtain ⟨rfl, width⟩ := same
  exact ⟨wellFormed, (List.append_inj whole width.symm).1⟩

/-- A block that is written is read by the pattern, whatever stands in front of it or behind. -/
theorem pattern_read?_toText {block : MarkerBlock} (wellFormed : block.WellFormed)
    (before : Option Char) (behind : Text) :
    pattern.read? before (block.toText ++ behind) = some ⟨block, block.toText.length⟩ := by
  simp [pattern, read?_toText_append wellFormed]

end PhraseAudit.MarkerBlock
