import PhraseAudit.Proofs.Phrase.Packing

/-!
# Occurrences in joined texts

A phrase that occurs in one of two texts also occurs in the two texts joined, as long as the text
put next to it begins or ends with no word character. The other way around, an occurrence in a
joined text may run across the joint, unless a character stands there that no character of the
phrase matches: then it lies on one side.
-/

namespace PhraseAudit.Phrase

/-- What stands behind a place is open when the text there and the text joined to it are. -/
theorem isOpen_head?_append {front behind : Text} (openFront : isOpen front.head? = true)
    (openBehind : isOpen behind.head? = true) : isOpen (front ++ behind).head? = true := by
  cases front with
  | nil => exact openBehind
  | cons c rest => exact openFront

/-- What stands in front of a place is open when the text there and the text joined to it are. -/
theorem isOpen_getLast?_append {front behind : Text} (openFront : isOpen front.getLast? = true)
    (openBehind : isOpen behind.getLast? = true) :
    isOpen (front ++ behind).getLast? = true := by
  rw [List.getLast?_append]
  cases last : behind.getLast? with
  | none => exact openFront
  | some c =>
    rw [last] at openBehind
    exact openBehind

/-- An occurrence stays where it is when a text is joined behind it. -/
theorem OccursAt.append_right {phrase : Phrase} {text : Text} {start : Nat}
    (occurs : phrase.OccursAt text start) {behind : Text}
    (openBehind : isOpen behind.head? = true) : phrase.OccursAt (text ++ behind) start := by
  obtain ⟨front, read, after, rfl, rfl, same, openFront, openAfter⟩ := occurs
  exact ⟨front, read, after ++ behind, by simp, rfl, same, openFront,
    isOpen_head?_append openAfter openBehind⟩

/-- An occurrence moves to the right when a text is joined in front of it. -/
theorem OccursAt.append_left {phrase : Phrase} {text : Text} {start : Nat}
    (occurs : phrase.OccursAt text start) {front : Text}
    (openFront : isOpen front.getLast? = true) :
    phrase.OccursAt (front ++ text) (front.length + start) := by
  obtain ⟨before, read, after, rfl, rfl, same, openBefore, openAfter⟩ := occurs
  exact ⟨front ++ before, read, after, by simp, by simp, same,
    isOpen_getLast?_append openFront openBefore, openAfter⟩

/-- No character of the phrase is the same as the given one up to case. -/
def Avoids (phrase : Phrase) (c : Char) : Prop :=
  ∀ letter ∈ phrase.text, Unicode.fold letter ≠ Unicode.fold c

/-- A character that the phrase avoids does not stand in a stretch that is read as the phrase. -/
theorem Avoids.not_mem {phrase : Phrase} {c : Char} (avoids : phrase.Avoids c) {read : Text}
    (same : Text.SameUpToCase phrase.text read) : c ∉ read := by
  intro member
  have folded : Unicode.fold c ∈ phrase.text.map Unicode.fold := by
    rw [same]
    exact List.mem_map_of_mem member
  obtain ⟨letter, inside, equal⟩ := List.mem_map.1 folded
  exact avoids letter inside equal

/-- An occurrence of a phrase does not run across a character that the phrase avoids: it lies in
front of the character or behind it. The cases are those of the two ways to cut the text, at the
character and at the stretch. -/
theorem OccursAt.of_separated {phrase : Phrase} {separator : Char}
    (avoids : phrase.Avoids separator) {front behind : Text} {start : Nat}
    (occurs : phrase.OccursAt (front ++ separator :: behind) start) :
    phrase.OccursAt front start ∨
      ∃ place, start = front.length + 1 + place ∧ phrase.OccursAt behind place := by
  obtain ⟨before, read, after, whole, rfl, same, openBefore, openAfter⟩ := occurs
  have absent := avoids.not_mem same
  rw [List.append_assoc] at whole
  rcases List.append_eq_append_iff.1 whole.symm with
    ⟨gap, split, rest⟩ | ⟨gap, split, rest⟩
  · -- The stretch begins in front of the separator, and so ends there.
    left
    rcases List.append_eq_append_iff.1 rest with
      ⟨tail, inside, remaining⟩ | ⟨tail, inside, remaining⟩
    · refine ⟨before, read, tail, by rw [split, inside, List.append_assoc], rfl, same,
        openBefore, ?_⟩
      rw [remaining] at openAfter
      cases tail with
      | nil => rfl
      | cons c others => exact openAfter
    · cases tail with
      | nil =>
        rw [List.append_nil] at inside
        exact ⟨before, read, [], by rw [split, ← inside, List.append_nil], rfl, same,
          openBefore, rfl⟩
      | cons c others =>
        obtain ⟨rfl, _⟩ := List.cons.inj remaining
        exact absurd (inside ▸ List.mem_append_right gap List.mem_cons_self) absent
  · cases gap with
    | nil =>
      -- The stretch would begin with the separator.
      have proper : read ≠ [] := by
        rintro rfl
        exact phrase.nonempty (List.map_eq_nil_iff.1 same)
      obtain ⟨c, others, rfl⟩ := List.exists_cons_of_ne_nil proper
      obtain ⟨rfl, _⟩ := List.cons.inj rest
      exact absurd List.mem_cons_self absent
    | cons c gap =>
      obtain ⟨rfl, inside⟩ := List.cons.inj rest
      right
      refine ⟨gap.length, ?_, gap, read, after, by simpa using inside, rfl, same, ?_, openAfter⟩
      · rw [split, List.length_append, List.length_cons]
        omega
      · rw [split, List.getLast?_append, List.getLast?_cons] at openBefore
        cases last : gap.getLast? with
        | none => rfl
        | some d =>
          rw [last] at openBefore
          exact openBefore

end PhraseAudit.Phrase
