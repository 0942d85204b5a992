import PhraseAudit.Text.Pattern

/-!
# Tags

Whatever stands between `<` and the next `>`, with at least one character in between, counts as a
tag, whether or not it is one. A tag separates words, so a space is left in its place.
-/

namespace PhraseAudit.Tag

/-- A character that may stand inside a tag. -/
def isInner (c : Char) : Bool :=
  c != '>'

/-- Reads the inside of a tag at the head of a text. -/
def read? : Text → Option Text
  | '<' :: rest =>
    match rest.dropWhile isInner with
    | [] => none
    | _ :: _ => if rest.takeWhile isInner = [] then none else some (rest.takeWhile isInner)
  | _ => none

/-- The inside of a tag and its two brackets fit into the text. -/
theorem length_le_of_read? {text inside : Text} (success : read? text = some inside) :
    inside.length + 2 ≤ text.length := by
  unfold read? at success
  split at success
  · rename_i rest
    split at success
    · cases success
    · rename_i closing behind split
      split at success
      · cases success
      · cases success
        have whole := congrArg List.length
          (List.takeWhile_append_dropWhile (p := isInner) (l := rest))
        rw [split, List.length_append, List.length_cons] at whole
        simp only [List.length_cons]
        omega
  · cases success

/-- The pattern that finds tags in a text. -/
def pattern : Pattern Text where
  read? _ rest := (read? rest).map fun inside => ⟨inside, inside.length + 2⟩
  width_pos := by
    intro _ _ hit found
    obtain ⟨inside, _, rfl⟩ := Option.map_eq_some_iff.1 found
    exact Nat.succ_pos _
  width_le := by
    intro _ rest hit found
    obtain ⟨inside, success, rfl⟩ := Option.map_eq_some_iff.1 found
    exact length_le_of_read? success

/-- A tag that can be read holds both brackets. -/
theorem mem_of_read? {text inside : Text} (success : read? text = some inside) :
    '<' ∈ text ∧ '>' ∈ text := by
  unfold read? at success
  split at success
  · rename_i rest
    refine ⟨List.mem_cons_self, List.mem_cons_of_mem _ ?_⟩
    split at success
    · cases success
    · rename_i closing behind split
      have member : closing ∈ rest :=
        (List.dropWhile_sublist isInner).subset (split ▸ List.mem_cons_self)
      have stops := List.head?_dropWhile_not isInner rest
      rw [split] at stops
      simp only [List.head?_cons, isInner, bne_eq_false_iff_eq] at stops
      exact stops ▸ member
  · cases success

/-- Without both brackets there is nothing to find. -/
theorem silent_of_not_mem {text : Text} (lacking : ¬ ('<' ∈ text ∧ '>' ∈ text)) :
    pattern.Silent text := by
  intro before rest behind
  cases reading : read? rest with
  | none => simp [pattern, reading]
  | some inside =>
    obtain ⟨opening, closing⟩ := mem_of_read? reading
    exact absurd ⟨behind.subset opening, behind.subset closing⟩ lacking

/-- The text with a space in place of each tag. A text that lacks one of the brackets is not looked
at any further. -/
def blank (text : Text) : Text :=
  if '<' ∈ text ∧ '>' ∈ text then pattern.replace [' '] text else text

/-- Passing over texts that lack a bracket changes nothing. -/
theorem blank_eq (text : Text) : blank text = pattern.replace [' '] text := by
  by_cases both : '<' ∈ text ∧ '>' ∈ text
  · exact if_pos both
  · have nothing := Pattern.replaceFrom_of_silent (silent_of_not_mem both) [' '] none
    rw [blank, if_neg both, Pattern.replace, nothing]

end PhraseAudit.Tag
