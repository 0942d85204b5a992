import PhraseAudit.Phrase.Basic

/-!
# Occurrences of a phrase by their places

The search for a phrase reads at the head of what is left of a text. Here it is tied to the places
at which the phrase occurs in the whole text: it takes the first place, goes on behind the stretch
that begins there, and so finds some occurrence if and only if there is one.
-/

namespace PhraseAudit.Phrase

/-- A phrase stands at the head of a text exactly when a stretch of its letters is there, between
open neighbours. -/
theorem standsAt_iff (phrase : Phrase) (before : Option Char) (rest : Text) :
    phrase.standsAt before rest = true ↔
      ∃ read behind, rest = read ++ behind ∧ Text.SameUpToCase phrase.text read ∧
        isOpen before = true ∧ isOpen behind.head? = true := by
  constructor
  · intro stands
    unfold standsAt at stands
    split at stands
    · rename_i read behind split
      obtain ⟨joined, same⟩ := (Text.splitFolded?_eq_some_iff _ _ _ _).1 split
      obtain ⟨front, back⟩ := Bool.and_eq_true_iff.1 stands
      exact ⟨read, behind, joined, same, front, back⟩
    · cases stands
  · rintro ⟨read, behind, joined, same, front, back⟩
    have split := (Text.splitFolded?_eq_some_iff phrase.text rest read behind).2 ⟨joined, same⟩
    simp [standsAt, split, front, back]

/-- What stands at the head of the rest of a text occurs at the place where the rest begins. -/
theorem occursAt_append_iff (phrase : Phrase) (front rest : Text) :
    phrase.OccursAt (front ++ rest) front.length ↔
      phrase.standsAt front.getLast? rest = true := by
  rw [standsAt_iff]
  constructor
  · rintro ⟨other, read, behind, whole, sameLength, same, openFront, openBehind⟩
    rw [List.append_assoc] at whole
    obtain ⟨rfl, rest⟩ := List.append_inj whole sameLength.symm
    exact ⟨read, behind, rest, same, openFront, openBehind⟩
  · rintro ⟨read, behind, rfl, same, openFront, openBehind⟩
    exact ⟨front, read, behind, (List.append_assoc _ _ _).symm, rfl, same, openFront, openBehind⟩

/-- A phrase that occurs at a place is not longer than what is left of the text from there. -/
theorem length_le_of_occursAt {phrase : Phrase} {text : Text} {start : Nat}
    (occurs : phrase.OccursAt text start) : start + phrase.text.length ≤ text.length := by
  obtain ⟨front, read, behind, rfl, rfl, same, _, _⟩ := occurs
  have sameLength := same.length_eq
  simp only [List.length_append]
  omega

/-- Whether a phrase occurs at a place can be read off there. -/
theorem occursAt_iff (phrase : Phrase) (text : Text) (start : Nat) :
    phrase.OccursAt text start ↔
      start ≤ text.length ∧
        phrase.standsAt (text.take start).getLast? (text.drop start) = true := by
  by_cases inside : start ≤ text.length
  · have there := phrase.occursAt_append_iff (text.take start) (text.drop start)
    rw [List.take_append_drop, List.length_take_of_le inside] at there
    rw [there]
    exact (and_iff_right inside).symm
  · constructor
    · intro occurs
      have bound := length_le_of_occursAt occurs
      omega
    · intro both
      exact absurd both.1 inside

instance (phrase : Phrase) (text : Text) (start : Nat) : Decidable (phrase.OccursAt text start) :=
  decidable_of_iff _ (phrase.occursAt_iff text start).symm

/-- The phrase occurs somewhere in the text. -/
def Occurs (phrase : Phrase) (text : Text) : Prop :=
  ∃ start, phrase.OccursAt text start

/-- The places at which the phrase is found when a text is searched from a position on: the first
place from there on at which it occurs, and then those found behind the stretch it takes there. -/
inductive FoundFrom (phrase : Phrase) (text : Text) : Nat → List Nat → Prop where
  | nothing {position : Nat}
      (nowhere : ∀ start, position ≤ start → ¬ phrase.OccursAt text start) :
      FoundFrom phrase text position []
  | first {position start : Nat} {others : List Nat} (begins : position ≤ start)
      (occurs : phrase.OccursAt text start)
      (notBefore : ∀ earlier, position ≤ earlier → earlier < start →
        ¬ phrase.OccursAt text earlier)
      (behind : FoundFrom phrase text (start + phrase.text.length) others) :
      FoundFrom phrase text position (start :: others)

/-- From one position on only one list of places is found. The induction is on how the first list
is found: what the second begins with, or that it is empty, is forced by it. -/
theorem FoundFrom.unique {phrase : Phrase} {text : Text} {position : Nat} {starts others : List Nat}
    (one : FoundFrom phrase text position starts) (other : FoundFrom phrase text position others) :
    starts = others := by
  induction one generalizing others with
  | nothing nowhere =>
    cases other with
    | nothing _ => rfl
    | first begins occurs _ _ => exact absurd occurs (nowhere _ begins)
  | first begins occurs notBefore _ ih =>
    cases other with
    | nothing nowhere => exact absurd occurs (nowhere _ begins)
    | first otherBegins otherOccurs otherNotBefore otherBehind =>
      rename_i start _ _ otherStart _
      have same : start = otherStart := by
        rcases Nat.lt_trichotomy start otherStart with below | equal | above
        · exact absurd occurs (otherNotBefore start begins below)
        · exact equal
        · exact absurd otherOccurs (notBefore otherStart otherBegins above)
      subst same
      rw [ih otherBehind]

/-- A place at which the phrase does not occur may be passed over. -/
theorem FoundFrom.pass {phrase : Phrase} {text : Text} {position : Nat} {starts : List Nat}
    (found : FoundFrom phrase text (position + 1) starts)
    (absent : ¬ phrase.OccursAt text position) : FoundFrom phrase text position starts := by
  have here : ∀ start, position ≤ start → ¬ position + 1 ≤ start → start = position := by omega
  cases found with
  | nothing nowhere =>
    refine .nothing ?_
    intro start begins
    by_cases later : position + 1 ≤ start
    · exact nowhere start later
    · rw [here start begins later]
      exact absent
  | first begins occurs notBefore behind =>
    refine .first (by omega) occurs ?_ behind
    intro earlier reached before
    by_cases later : position + 1 ≤ earlier
    · exact notBefore earlier later before
    · rw [here earlier reached later]
      exact absent

/-- The search finds the places from left to right. The induction is on what is left of the text;
the characters that belong to the match before are passed over without being looked at. -/
theorem foundFrom_scanFrom (phrase : Phrase) (front rest : Text) (skip : Nat)
    (inside : skip ≤ rest.length) :
    FoundFrom phrase (front ++ rest) (front.length + skip)
      ((phrase.pattern.scanFrom front.length front.getLast? skip rest).map (·.start)) := by
  induction rest generalizing front skip with
  | nil =>
    have none : skip = 0 := Nat.le_zero.1 inside
    subst none
    simp only [Pattern.scanFrom, List.map_nil, List.append_nil]
    refine .nothing ?_
    intro start begins occurs
    have bound := length_le_of_occursAt occurs
    have positive := List.length_pos_iff.2 phrase.nonempty
    omega
  | cons c rest ih =>
    have shifted : front ++ c :: rest = (front ++ [c]) ++ rest := by simp
    have length : (front ++ [c]).length = front.length + 1 := by simp
    have last : (front ++ [c]).getLast? = some c := by simp
    have step := fun skip => ih (front ++ [c]) skip
    rw [← shifted, length, last] at step
    cases skip with
    | succ skip =>
      have passed := step skip (Nat.le_of_succ_le_succ inside)
      rw [Pattern.scanFrom, Nat.add_comm skip 1, ← Nat.add_assoc]
      exact passed
    | zero =>
      by_cases stands : phrase.standsAt front.getLast? (c :: rest) = true
      · have reads : phrase.pattern.read? front.getLast? (c :: rest) =
            some ⟨(), phrase.text.length⟩ := if_pos stands
        have positive := List.length_pos_iff.2 phrase.nonempty
        have fits := length_le_of_standsAt stands
        rw [List.length_cons] at fits
        rw [Pattern.scanFrom, reads]
        refine .first (Nat.le_refl _) ((phrase.occursAt_append_iff front _).2 stands) ?_ ?_
        · intro earlier reached before
          exact absurd (Nat.lt_of_le_of_lt reached before) (Nat.lt_irrefl _)
        · have passed := step (phrase.text.length - 1) (by omega)
          have same : front.length + 1 + (phrase.text.length - 1) =
              front.length + phrase.text.length := by omega
          rwa [same] at passed
      · have reads : phrase.pattern.read? front.getLast? (c :: rest) = none := if_neg stands
        rw [Pattern.scanFrom, reads]
        exact (step 0 (Nat.zero_le _)).pass
          (fun occurs => stands ((phrase.occursAt_append_iff front _).1 occurs))

/-- The occurrences in a text are found from its beginning on. -/
theorem foundFrom_occurrences (phrase : Phrase) (text : Text) :
    FoundFrom phrase text 0 ((phrase.occurrences text).map (·.start)) :=
  phrase.foundFrom_scanFrom [] text 0 (Nat.zero_le _)

/-- The places found in a text are those of the occurrences, and no others. -/
theorem foundFrom_iff (phrase : Phrase) (text : Text) (starts : List Nat) :
    FoundFrom phrase text 0 starts ↔ starts = (phrase.occurrences text).map (·.start) := by
  constructor
  · intro found
    exact found.unique (phrase.foundFrom_occurrences text)
  · rintro rfl
    exact phrase.foundFrom_occurrences text

/-- Something is found exactly when the phrase occurs. -/
theorem occurs_iff (phrase : Phrase) (text : Text) :
    phrase.Occurs text ↔ phrase.occurrences text ≠ [] := by
  have found := phrase.foundFrom_occurrences text
  constructor
  · rintro ⟨start, occurs⟩ empty
    rw [empty] at found
    cases found with
    | nothing nowhere => exact nowhere start (Nat.zero_le _) occurs
  · intro nonempty
    obtain ⟨leading, others, split⟩ := List.exists_cons_of_ne_nil nonempty
    rw [split, List.map_cons] at found
    cases found with
    | first _ occurs _ _ => exact ⟨leading.start, occurs⟩

instance (phrase : Phrase) (text : Text) : Decidable (phrase.Occurs text) :=
  decidable_of_iff _ (phrase.occurs_iff text).symm

end PhraseAudit.Phrase
