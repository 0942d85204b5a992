import PhraseAudit.Proofs.Phrase.Occurrence

/-!
# Disjoint occurrences

A phrase may overlap itself, so that a text can hold more occurrences of it than a search reports.
What a search from the left reports is disjoint, and no choice of disjoint occurrences has more of
them: whichever comes first in another choice, the first one reported ends no later, and leaves room
for as many others behind it.

Two searches are compared by carrying the occurrences of one into the text of the other. Only the
distances between them matter, so that nothing has to be known about which of them are reported.
-/

namespace PhraseAudit.Phrase

/-- Places at which the phrase occurs, in increasing order and so far apart that the stretches it
takes there are disjoint. -/
structure Packing (phrase : Phrase) (text : Text) (starts : List Nat) : Prop where
  occurs : ∀ start ∈ starts, phrase.OccursAt text start
  apart : starts.Pairwise fun earlier later => earlier + phrase.text.length ≤ later

/-- No place of a list is behind a search that begins there. -/
theorem FoundFrom.begins {phrase : Phrase} {text : Text} {position : Nat} {starts : List Nat}
    (found : FoundFrom phrase text position starts) : ∀ start ∈ starts, position ≤ start := by
  induction found with
  | nothing nowhere => simp
  | first begins occurs notBefore behind ih =>
    intro start member
    rcases List.mem_cons.1 member with rfl | later
    · exact begins
    · have reached := ih start later
      omega

/-- What is found from a position on is disjoint. -/
theorem FoundFrom.packing {phrase : Phrase} {text : Text} {position : Nat} {starts : List Nat}
    (found : FoundFrom phrase text position starts) : Packing phrase text starts := by
  induction found with
  | nothing nowhere => exact ⟨by simp, List.Pairwise.nil⟩
  | first begins occurs notBefore behind ih =>
    refine ⟨?_, List.pairwise_cons.2 ⟨behind.begins, ih.apart⟩⟩
    intro start member
    rcases List.mem_cons.1 member with rfl | later
    · exact occurs
    · exact ih.occurs start later

/-- From one position on no choice of disjoint occurrences has more of them than are found. The
induction is on how the places are found. The first of them is not behind the first of the choice,
so that the others of the choice are all behind the stretch that it takes. -/
theorem FoundFrom.length_le {phrase : Phrase} {text : Text} {position : Nat}
    {starts others : List Nat} (found : FoundFrom phrase text position starts)
    (packing : Packing phrase text others) (behind : ∀ start ∈ others, position ≤ start) :
    others.length ≤ starts.length := by
  induction found generalizing others with
  | nothing nowhere =>
    cases others with
    | nil => exact Nat.le_refl 0
    | cons start rest =>
      have reached := behind start List.mem_cons_self
      exact absurd (packing.occurs start List.mem_cons_self) (nowhere start reached)
  | @first position leading found begins occurs notBefore later ih =>
    cases others with
    | nil => exact Nat.zero_le _
    | cons start rest =>
      have reached := behind start List.mem_cons_self
      have notAhead : leading ≤ start := by
        apply Nat.le_of_not_lt
        intro ahead
        exact notBefore start reached ahead (packing.occurs start List.mem_cons_self)
      obtain ⟨clear, apart⟩ := List.pairwise_cons.1 packing.apart
      have rest_le := ih ⟨fun other member => packing.occurs other (List.mem_cons_of_mem _ member),
        apart⟩ (fun other member => by
          have free := clear other member
          omega)
      simp only [List.length_cons]
      omega

/-- The occurrences that a search reports are disjoint. -/
theorem packing_occurrences (phrase : Phrase) (text : Text) :
    Packing phrase text ((phrase.occurrences text).map (·.start)) :=
  (phrase.foundFrom_occurrences text).packing

/-- A search reports as many occurrences as any choice of disjoint ones has. -/
theorem Packing.length_le {phrase : Phrase} {text : Text} {starts : List Nat}
    (packing : Packing phrase text starts) :
    starts.length ≤ (phrase.occurrences text).length := by
  have most := (phrase.foundFrom_occurrences text).length_le packing (fun _ _ => Nat.zero_le _)
  rwa [List.length_map] at most

/-- When every occurrence of one phrase can be carried to an occurrence of another, and none comes
into the way of the next, the other is found as often in its text. -/
theorem length_occurrences_le {phrase other : Phrase} {text target : Text} (carry : Nat → Nat)
    (occurs : ∀ start, phrase.OccursAt text start → other.OccursAt target (carry start))
    (apart : ∀ earlier later, earlier + phrase.text.length ≤ later →
      carry earlier + other.text.length ≤ carry later) :
    (phrase.occurrences text).length ≤ (other.occurrences target).length := by
  have reported := phrase.packing_occurrences text
  have carried : Packing other target
      (((phrase.occurrences text).map (·.start)).map carry) := by
    refine ⟨?_, List.pairwise_map.2 (reported.apart.imp fun clear => apart _ _ clear)⟩
    intro place member
    obtain ⟨start, inside, rfl⟩ := List.mem_map.1 member
    exact occurs start (reported.occurs start inside)
  have most := carried.length_le
  rwa [List.length_map, List.length_map] at most

end PhraseAudit.Phrase
