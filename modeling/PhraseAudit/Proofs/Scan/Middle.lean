import PhraseAudit.Proofs.Scan.Places

/-!
# The two sides of a match

A match in the middle of a cut has a cut of its own on either side: the parts in front of it with
its gap as their rest, and the parts behind it. Text and replacement of the whole are those of the
two sides with the match in between.
-/

namespace PhraseAudit

/-- A text that is split in two ways: the first split is not behind the second, or it is. -/
theorem Text.split_twice {left right front back : Text} (same : left ++ right = front ++ back) :
    (∃ more, front = left ++ more ∧ right = more ++ back) ∨
      ∃ more, more ≠ [] ∧ left = front ++ more ∧ back = more ++ right := by
  rcases List.append_eq_append_iff.1 same with ⟨more, atFront, atRight⟩ | ⟨more, atLeft, atBack⟩
  · exact .inl ⟨more, atFront, atRight⟩
  · by_cases proper : more = []
    · subst proper
      exact .inl ⟨[], by rw [atLeft, List.append_nil, List.append_nil], atBack.symm⟩
    · exact .inr ⟨more, proper, atLeft, atBack⟩

/-- A text in which a given character stands behind a part without it goes on through that part. -/
theorem Text.split_behind {part rest front behind : Text} {c : Char} (absent : c ∉ part)
    (same : part ++ rest = front ++ c :: behind) :
    ∃ inner, front = part ++ inner ∧ rest = inner ++ c :: behind := by
  rcases split_twice same with ⟨inner, atFront, atRest⟩ | ⟨inner, proper, atPart, atBehind⟩
  · exact ⟨inner, atFront, atRest⟩
  · obtain ⟨d, inner, rfl⟩ := List.exists_cons_of_ne_nil proper
    obtain ⟨rfl, _⟩ := List.cons.inj atBehind
    exact absurd (atPart ▸ List.mem_append_right _ List.mem_cons_self) absent

namespace Cut

variable {α : Type}

/-- The text of a cut around one of its matches. -/
theorem toText_middle (before : List (Part α)) (part : Part α) (behind : List (Part α))
    (rest : Text) :
    Cut.toText ⟨before ++ part :: behind, rest⟩ =
      Cut.toText ⟨before, part.gap⟩ ++ (part.matched ++ Cut.toText ⟨behind, rest⟩) := by
  simp [toText]

/-- The replacement in a cut around one of its matches. -/
theorem filled_middle (substitute : Text) (before : List (Part α)) (part : Part α)
    (behind : List (Part α)) (rest : Text) :
    Cut.filled substitute ⟨before ++ part :: behind, rest⟩ =
      Cut.filled substitute ⟨before, part.gap⟩ ++
        (substitute ++ Cut.filled substitute ⟨behind, rest⟩) := by
  simp [filled]

/-- What stands in front of a match of a cut, and what stands behind it. -/
theorem take_drop_middle (before : List (Part α)) (part : Part α) (behind : List (Part α))
    (rest : Text) :
    let text := Cut.toText ⟨before ++ part :: behind, rest⟩
    let start := (Cut.toText ⟨before, part.gap⟩).length
    text.take start = Cut.toText ⟨before, part.gap⟩ ∧
      text.drop (start + part.matched.length) = Cut.toText ⟨behind, rest⟩ := by
  intro text start
  have whole : text = Cut.toText ⟨before, part.gap⟩ ++
      (part.matched ++ Cut.toText ⟨behind, rest⟩) := toText_middle before part behind rest
  constructor
  · rw [whole, List.take_left]
  · rw [whole, ← List.append_assoc, ← List.length_append, List.drop_left]

/-- A match of some parts begins behind the text in front of it. -/
theorem mem_spansFrom_iff {position : Nat} {parts : List (Part α)} {span : Found α} :
    span ∈ spansFrom position parts ↔ ∃ before part behind, parts = before ++ part :: behind ∧
      span.start = position + (Cut.toText ⟨before, part.gap⟩).length ∧
      span.stop = span.start + part.matched.length ∧ span.value = part.value := by
  induction parts generalizing position with
  | nil => simp [spansFrom]
  | cons first parts ih =>
    rw [spansFrom, List.mem_cons, ih]
    constructor
    · rintro (rfl | ⟨before, part, behind, rfl, start, stop, value⟩)
      · exact ⟨[], first, parts, rfl, by simp [toText], rfl, rfl⟩
      · refine ⟨first :: before, part, behind, rfl, ?_, stop, value⟩
        have whole := congrArg List.length (toText_cons first ⟨before, part.gap⟩)
        simp only [cons, List.length_append] at whole
        omega
    · rintro ⟨before, part, behind, whole, start, stop, value⟩
      cases before with
      | nil =>
        obtain ⟨rfl, rfl⟩ := List.cons.inj whole
        left
        obtain ⟨begins, ends, read⟩ := span
        simp only [toText, List.flatMap_nil, List.nil_append] at start stop value
        subst start stop value
        rfl
      | cons other before =>
        obtain ⟨rfl, rfl⟩ := List.cons.inj whole
        right
        refine ⟨before, part, behind, rfl, ?_, stop, value⟩
        have whole := congrArg List.length (toText_cons first ⟨before, part.gap⟩)
        simp only [cons, List.length_append] at whole
        omega

/-- What a replacement leaves is in the substitute or in the text. -/
theorem mem_of_mem_filled {substitute : Text} {cut : Cut α} {c : Char}
    (member : c ∈ cut.filled substitute) : c ∈ substitute ∨ c ∈ cut.toText := by
  simp only [filled, toText, List.mem_append, List.mem_flatMap] at member ⊢
  rcases member with ⟨part, inside, inGap | filled⟩ | inRest
  · exact .inr (.inl ⟨part, inside, .inl inGap⟩)
  · exact .inl filled
  · exact .inr (.inr inRest)

/-- A word without the separator that stands in the text with a separator for each match stands in
the text with the matches themselves, and nothing but separators is missing from what follows it.
The induction is on the matches: the word stands in front of the first separator, or behind it. -/
theorem exists_of_filled_singleton {separator : Char} {word : Text} (proper : word ≠ [])
    (absent : separator ∉ word) {parts : List (Part α)} {rest front behind : Text}
    (stands : Cut.filled [separator] ⟨parts, rest⟩ = front ++ (word ++ behind)) :
    ∃ begin following, Cut.toText ⟨parts, rest⟩ = begin ++ (word ++ following) ∧
      ∀ c ∈ behind, c ≠ separator → c ∈ following := by
  induction parts generalizing front with
  | nil => exact ⟨front, behind, stands, fun c member _ => member⟩
  | cons part parts ih =>
    have filled : Cut.filled [separator] ⟨part :: parts, rest⟩ =
        part.gap ++ separator :: Cut.filled [separator] ⟨parts, rest⟩ :=
      filled_cons [separator] part ⟨parts, rest⟩
    have whole : Cut.toText ⟨part :: parts, rest⟩ =
        part.gap ++ (part.matched ++ Cut.toText ⟨parts, rest⟩) := toText_cons part ⟨parts, rest⟩
    rw [filled] at stands
    rw [whole]
    rcases List.append_eq_append_iff.1 stands.symm with
      ⟨more, inGap, follows⟩ | ⟨more, passed, follows⟩
    · obtain ⟨inner, rfl, rfl⟩ := Text.split_behind absent follows
      refine ⟨front, inner ++ (part.matched ++ Cut.toText ⟨parts, rest⟩), ?_, ?_⟩
      · rw [inGap, List.append_assoc, List.append_assoc]
      · intro c member other
        rcases List.mem_append.1 member with inside | later
        · exact List.mem_append_left _ inside
        · have left := (List.mem_cons.1 later).resolve_left other
          have there := (mem_of_mem_filled left).resolve_left fun same =>
            other (List.mem_singleton.1 same)
          exact List.mem_append_right _ (List.mem_append_right _ there)
    · cases more with
      | nil =>
        obtain ⟨d, word, rfl⟩ := List.exists_cons_of_ne_nil proper
        obtain ⟨rfl, _⟩ := List.cons.inj follows
        exact absurd List.mem_cons_self absent
      | cons d more =>
        obtain ⟨begin, following, stands, kept⟩ := ih (List.cons.inj follows).2
        refine ⟨part.gap ++ (part.matched ++ begin), following, ?_, kept⟩
        rw [stands, List.append_assoc, List.append_assoc]

end Cut

namespace Pattern

variable {α : Type}

/-- What a replacement leaves is in the substitute or in the text. -/
theorem mem_of_mem_replace {pattern : Pattern α} {substitute text : Text} {c : Char}
    (member : c ∈ pattern.replace substitute text) : c ∈ substitute ∨ c ∈ text := by
  obtain ⟨parts, rest, rfl, cuts⟩ := pattern.exists_cutsFrom none text
  rw [replace, replaceFrom_of_cutsFrom cuts] at member
  exact Cut.mem_of_mem_filled member

/-- What stands behind some parts of a cut is cut as it is in the whole. -/
theorem exists_cutsFrom_behind {pattern : Pattern α} {before : Option Char}
    {front parts : List (Part α)} {rest : Text}
    (cuts : pattern.CutsFrom before (front ++ parts) rest) :
    ∃ other, pattern.CutsFrom other parts rest := by
  induction front generalizing before with
  | nil => exact ⟨before, cuts⟩
  | cons part front ih =>
    obtain ⟨_, _, later⟩ := cuts
    exact ih later

end Pattern

end PhraseAudit
