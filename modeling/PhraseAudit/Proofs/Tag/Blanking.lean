import Mathlib.Data.List.Basic
import PhraseAudit.Proofs.Phrase.Joined
import PhraseAudit.Proofs.Scan.Cut
import PhraseAudit.Proofs.Unicode.Spelling
import PhraseAudit.Tag

/-!
# What blanking tags does to occurrences

Blanking puts a space where a tag stood. A phrase without a space is then found in the stretches of
text between the tags only, and these are in the text as it was, a little farther to the right. The
brackets of a tag are no word characters, as the space is none, so the phrase stands there as a
whole word as well. Places that were apart stay as far apart, which is all that a search from the
left has to know in order to find the phrase at least as often.
-/

namespace PhraseAudit

namespace Cut

variable {α : Type}

/-- Where a place of a text with one character for each match stands in the text with the matches
themselves. -/
def carry : List (Part α) → Nat → Nat
  | [], place => place
  | part :: parts, place =>
    if place ≤ part.gap.length then place
    else part.gap.length + part.matched.length + carry parts (place - (part.gap.length + 1))

/-- Matches that are not empty move a place to the right. -/
theorem le_carry {parts : List (Part α)} (proper : ∀ part ∈ parts, part.matched ≠ [])
    (place : Nat) : place ≤ carry parts place := by
  induction parts generalizing place with
  | nil => exact Nat.le_refl place
  | cons part parts ih =>
    have width := List.length_pos_iff.2 (proper part List.mem_cons_self)
    have later := ih (fun other member => proper other (List.mem_cons_of_mem _ member))
      (place - (part.gap.length + 1))
    rw [carry]
    split
    · exact Nat.le_refl place
    · omega

/-- Places do not come closer to one another. -/
theorem carry_add_le {parts : List (Part α)} (proper : ∀ part ∈ parts, part.matched ≠ [])
    (place distance : Nat) : carry parts place + distance ≤ carry parts (place + distance) := by
  induction parts generalizing place with
  | nil => exact Nat.le_refl _
  | cons part parts ih =>
    have width := List.length_pos_iff.2 (proper part List.mem_cons_self)
    have others : ∀ other ∈ parts, other.matched ≠ [] :=
      fun other member => proper other (List.mem_cons_of_mem _ member)
    rw [carry, carry]
    by_cases far : place + distance ≤ part.gap.length
    · have near : place ≤ part.gap.length := by omega
      exact Nat.le_of_eq (by rw [if_pos far, if_pos near])
    · rw [if_neg far]
      by_cases near : place ≤ part.gap.length
      · have right := le_carry others (place + distance - (part.gap.length + 1))
        rw [if_pos near]
        omega
      · have apart := ih others (place - (part.gap.length + 1))
        have shifted : place - (part.gap.length + 1) + distance =
            place + distance - (part.gap.length + 1) := by omega
        rw [shifted] at apart
        rw [if_neg near]
        omega

/-- An occurrence in the text with a separator for each match is carried to an occurrence in the
text with the matches themselves, when these begin and end with no word character. The induction is
on the matches: the occurrence lies in front of the first separator, or in what is left behind it. -/
theorem occursAt_carry {phrase : Phrase} {separator : Char} (avoids : phrase.Avoids separator)
    {parts : List (Part α)} (rest : Text)
    (fenced : ∀ part ∈ parts, Phrase.isOpen part.matched.head? = true ∧
      Phrase.isOpen part.matched.getLast? = true) (proper : ∀ part ∈ parts, part.matched ≠ [])
    {start : Nat} (occurs : phrase.OccursAt (Cut.filled [separator] ⟨parts, rest⟩) start) :
    phrase.OccursAt (Cut.toText ⟨parts, rest⟩) (carry parts start) := by
  induction parts generalizing start with
  | nil => exact occurs
  | cons part parts ih =>
    obtain ⟨openHead, openLast⟩ := fenced part List.mem_cons_self
    have filled : Cut.filled [separator] ⟨part :: parts, rest⟩ =
        part.gap ++ separator :: Cut.filled [separator] ⟨parts, rest⟩ :=
      filled_cons [separator] part ⟨parts, rest⟩
    have whole : Cut.toText ⟨part :: parts, rest⟩ =
        part.gap ++ (part.matched ++ Cut.toText ⟨parts, rest⟩) := toText_cons part ⟨parts, rest⟩
    rw [filled] at occurs
    rw [whole, carry]
    rcases occurs.of_separated avoids with inGap | ⟨place, rfl, behind⟩
    · have fits := Phrase.length_le_of_occursAt inGap
      rw [if_pos (by omega)]
      apply inGap.append_right
      rw [List.head?_append_of_ne_nil _ (proper part List.mem_cons_self)]
      exact openHead
    · have carried := ih (fun other member => fenced other (List.mem_cons_of_mem _ member))
        (fun other member => proper other (List.mem_cons_of_mem _ member)) behind
      have openFront : Phrase.isOpen (part.gap ++ part.matched).getLast? = true := by
        rw [List.getLast?_append_of_ne_nil _ (proper part List.mem_cons_self)]
        exact openLast
      have moved := carried.append_left openFront
      have far : ¬ part.gap.length + 1 + place ≤ part.gap.length := by omega
      have shifted : part.gap.length + 1 + place - (part.gap.length + 1) = place := by omega
      rw [if_neg far, shifted, ← List.append_assoc, ← List.length_append]
      exact moved

end Cut

namespace Tag

/-- What is read as a tag is its inside between two brackets. -/
theorem eq_of_read? {text inside : Text} (success : read? text = some inside) :
    ∃ behind, text = '<' :: (inside ++ '>' :: behind) := by
  unfold read? at success
  split at success
  · rename_i rest
    split at success
    · cases success
    · rename_i closing behind split
      have stops := List.head?_dropWhile_not isInner rest
      rw [split] at stops
      simp only [List.head?_cons, isInner, bne_eq_false_iff_eq] at stops
      have whole := List.takeWhile_append_dropWhile (p := isInner) (l := rest)
      rw [split, stops] at whole
      split at success
      · cases success
      · cases success
        exact ⟨behind, by rw [whole]⟩
  · cases success

/-- A tag that is found takes its brackets with it. -/
theorem matched_eq_of_read? {before : Option Char} {matched behind inside : Text}
    (reads : pattern.read? before (matched ++ behind) = some ⟨inside, matched.length⟩) :
    matched = '<' :: (inside ++ ['>']) := by
  obtain ⟨found, success, same⟩ := Option.map_eq_some_iff.1 reads
  obtain ⟨rfl, width⟩ := Hit.mk.inj same
  obtain ⟨rest, whole⟩ := eq_of_read? success
  have grouped : matched ++ behind = ('<' :: (found ++ ['>'])) ++ rest := by simpa using whole
  exact (List.append_inj grouped (by simpa using width.symm)).1

/-- The tags of a cut stand between their brackets. -/
theorem matched_eq_of_cutsFrom {before : Option Char} {parts : List (Part Text)} {rest : Text}
    (cuts : pattern.CutsFrom before parts rest) :
    ∀ part ∈ parts, part.matched = '<' :: (part.value ++ ['>']) := by
  induction parts generalizing before with
  | nil => simp
  | cons part parts ih =>
    obtain ⟨_, reads, behind⟩ := cuts
    intro other member
    rcases List.mem_cons.1 member with rfl | later
    · exact matched_eq_of_read? reads
    · exact ih behind other later

/-- A space has no other case, so that a phrase without a space matches none. -/
theorem avoids_space {phrase : Phrase} (without : ' ' ∉ phrase.text) : phrase.Avoids ' ' := by
  intro letter inside same
  have folded : Unicode.fold ' ' = ' ' := by decide
  have alone : ∀ code ∈ Unicode.spellings ' '.toNat, code = ' '.toNat := by decide
  have member := Unicode.mem_spellings_of_fold_eq (by decide) (same.trans folded)
  obtain rfl : letter = ' ' := Char.toNat_inj.1 (alone _ member)
  exact without inside

/-- Blanking the tags of a text adds no occurrence of a phrase without a space. -/
theorem length_occurrences_blank_le {phrase : Phrase} (without : ' ' ∉ phrase.text) (text : Text) :
    (phrase.occurrences (blank text)).length ≤ (phrase.occurrences text).length := by
  obtain ⟨parts, rest, rfl, cuts⟩ := pattern.exists_cutsFrom none text
  have brackets := matched_eq_of_cutsFrom cuts
  have proper : ∀ part ∈ parts, part.matched ≠ [] := by
    intro part member
    rw [brackets part member]
    exact List.cons_ne_nil _ _
  have fenced : ∀ part ∈ parts, Phrase.isOpen part.matched.head? = true ∧
      Phrase.isOpen part.matched.getLast? = true := by
    intro part member
    have opening : Phrase.isOpen (some '<') = true := by set_option maxRecDepth 2000 in decide
    have closing : Phrase.isOpen (some '>') = true := by set_option maxRecDepth 2000 in decide
    rw [brackets part member, ← List.cons_append, List.getLast?_concat]
    exact ⟨opening, closing⟩
  rw [blank_eq, Pattern.replace, Pattern.replaceFrom_of_cutsFrom cuts]
  apply Phrase.length_occurrences_le (Cut.carry parts)
  · intro start occurs
    exact Cut.occursAt_carry (avoids_space without) rest fenced proper occurs
  · intro earlier later apart
    have stretched := Cut.carry_add_le proper earlier (later - earlier)
    rw [Nat.add_sub_cancel' (by omega)] at stretched
    omega

end Tag

end PhraseAudit
