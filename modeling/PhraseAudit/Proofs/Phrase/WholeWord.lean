import Mathlib.Data.Finset.Sort
import Mathlib.Order.CompletePartialOrder
import Mathlib.Order.Interval.Set.Disjoint
import PhraseAudit.Proofs.Phrase.Packing
import PhraseAudit.Proofs.Scan.Leftmost
import PhraseAudit.Proofs.Unicode.Matching

/-!
# What a search for a phrase finds

Said place by place, a phrase stands in a text as a whole word when each of its letters matches the
character at its place, and no word character is directly in front of the stretch or behind it. Every
character of the phrase is such a letter, whatever it is. A search reports such places only, in order
and disjoint; it passes over one only for a match that reaches into it; and no set of disjoint places
has more of them than it reports.
-/

namespace PhraseAudit

/-- Some letters stand in a text as a whole word, from a position on. -/
structure Text.StandsWhole (letters text : Text) (start : Nat) : Prop where
  matching : ∀ (offset : Nat) (letter : Char), letters[offset]? = some letter →
    ∃ c, text[start + offset]? = some c ∧ Unicode.Matches letter c
  front : ∀ c, 0 < start → text[start - 1]? = some c → Unicode.isWord c = false
  behind : ∀ c, text[start + letters.length]? = some c → Unicode.isWord c = false

namespace Phrase

/-- A neighbour leaves a place open when it is no word character, if there is one. -/
theorem isOpen_iff (neighbour : Option Char) :
    isOpen neighbour = true ↔ ∀ c, neighbour = some c → Unicode.isWord c = false := by
  cases neighbour with
  | none => simp [isOpen]
  | some c => simp [isOpen]

/-- Some letters match a stretch of a text when each of them matches the character at its place. -/
theorem sameUpToCase_take_iff (letters rest : Text) :
    letters.length ≤ rest.length ∧ Text.SameUpToCase letters (rest.take letters.length) ↔
      ∀ (offset : Nat) (letter : Char), letters[offset]? = some letter →
        ∃ c, rest[offset]? = some c ∧ Unicode.Matches letter c := by
  rw [Unicode.sameUpToCase_iff_forall₂]
  induction letters generalizing rest with
  | nil => simp
  | cons letter letters ih =>
    cases rest with
    | nil =>
      constructor
      · rintro ⟨fits, _⟩
        exact absurd fits (Nat.not_succ_le_zero _)
      · intro each
        obtain ⟨c, absent, _⟩ := each 0 letter rfl
        cases absent
    | cons c rest =>
      rw [List.length_cons, List.length_cons, List.take_succ_cons, List.forall₂_cons,
        Nat.succ_le_succ_iff, and_left_comm, ih rest]
      constructor
      · rintro ⟨here, each⟩ offset other there
        cases offset with
        | zero =>
          cases there
          exact ⟨c, rfl, here⟩
        | succ offset => exact each offset other there
      · intro each
        refine ⟨?_, fun offset other there => each (offset + 1) other there⟩
        obtain ⟨d, same, here⟩ := each 0 letter rfl
        cases same
        exact here

/-- The phrase occurs at a position exactly when its letters stand there as a whole word. -/
theorem occursAt_iff_standsWhole (phrase : Phrase) (text : Text) (start : Nat) :
    phrase.OccursAt text start ↔ phrase.text.StandsWhole text start := by
  have places : ∀ offset, (text.drop start)[offset]? = text[start + offset]? :=
    fun offset => List.getElem?_drop
  have each := sameUpToCase_take_iff phrase.text (text.drop start)
  simp only [places] at each
  constructor
  · rintro ⟨front, read, behind, rfl, rfl, same, openFront, openBehind⟩
    have width : phrase.text.length = read.length := same.length_eq
    refine ⟨each.1 ?_, ?_, ?_⟩
    · rw [List.append_assoc, List.drop_left, width, List.take_left]
      exact ⟨by simp, same⟩
    · intro c positive there
      rw [List.append_assoc, List.getElem?_append_left (by omega), ← List.getLast?_eq_getElem?]
        at there
      exact (isOpen_iff _).1 openFront c there
    · intro c there
      have width' : front.length + phrase.text.length = (front ++ read).length := by
        rw [List.length_append, width]
      rw [width', List.getElem?_append_right (Nat.le_refl _), Nat.sub_self,
        ← List.head?_eq_getElem?] at there
      exact (isOpen_iff _).1 openBehind c there
  · rintro ⟨matching, front, behind⟩
    obtain ⟨fits, same⟩ := each.2 matching
    have positive := List.length_pos_iff.2 phrase.nonempty
    rw [List.length_drop] at fits
    have inside : start ≤ text.length := by omega
    refine ⟨text.take start, (text.drop start).take phrase.text.length,
      (text.drop start).drop phrase.text.length, ?_, List.length_take_of_le inside, same, ?_, ?_⟩
    · rw [List.append_assoc, List.take_append_drop, List.take_append_drop]
    · rw [isOpen_iff]
      intro c last
      rw [List.getLast?_eq_getElem?, List.length_take_of_le inside] at last
      cases start with
      | zero => simp at last
      | succ start =>
        rw [Nat.add_sub_cancel, List.getElem?_take_of_lt (Nat.lt_succ_self start)] at last
        exact front c (Nat.succ_pos start) last
    · rw [isOpen_iff]
      intro c first
      rw [List.head?_eq_getElem?, List.getElem?_drop, List.getElem?_drop] at first
      exact behind c first

/-- The pattern of a phrase reads the phrase at the positions at which it occurs, and nothing at any
other. -/
theorem readAt?_pattern (phrase : Phrase) (text : Text) (start : Nat) :
    phrase.pattern.readAt? text start =
      if phrase.OccursAt text start then some ⟨(), phrase.text.length⟩ else none := by
  by_cases inside : start ≤ text.length
  · have there := phrase.occursAt_iff text start
    rw [and_iff_right inside] at there
    exact if_congr there.symm rfl rfl
  · have absent : ¬ phrase.OccursAt text start := fun occurs => by
      have bound := length_le_of_occursAt occurs
      omega
    rw [if_neg absent, Pattern.readAt?, List.drop_eq_nil_of_le (by omega), Pattern.read?_nil]

/-- What a search reports is an occurrence, and takes as many characters as the phrase has. -/
theorem occursAt_of_mem_occurrences {phrase : Phrase} {text : Text} {found : Found Unit}
    (member : found ∈ phrase.occurrences text) :
    phrase.OccursAt text found.start ∧ found.stop = found.start + phrase.text.length := by
  have reads := Pattern.readAt?_of_mem_scan member
  have proper := (Pattern.bounds_of_mem_scan member).1
  rw [readAt?_pattern] at reads
  split at reads
  · rename_i occurs
    have width := congrArg Hit.width (Option.some.inj reads)
    simp only at width
    exact ⟨occurs, by omega⟩
  · cases reads

/-- Every occurrence is reported, unless a match that is reported reaches into it. -/
theorem covered_of_occursAt {phrase : Phrase} {text : Text} {start : Nat}
    (occurs : phrase.OccursAt text start) :
    ∃ found ∈ phrase.occurrences text, found.Covers start := by
  apply Pattern.covered_of_readAt?
  rw [readAt?_pattern, if_pos occurs]
  exact Option.some_ne_none _

/-- Two stretches of one width are disjoint when they begin as far apart as they are wide. -/
theorem apart_iff_disjoint {width earlier later : Nat} (before : earlier < later) :
    Disjoint (Set.Ico earlier (earlier + width)) (Set.Ico later (later + width)) ↔
      earlier + width ≤ later := by
  rw [Set.Ico_disjoint_Ico]
  omega

/-- A set of disjoint occurrences, put in order, is a packing. -/
theorem packing_sort {phrase : Phrase} {text : Text} {starts : Finset Nat}
    (occurs : ∀ start ∈ starts, phrase.OccursAt text start)
    (disjoint : (starts : Set Nat).PairwiseDisjoint fun start =>
      Set.Ico start (start + phrase.text.length)) :
    Packing phrase text starts.sort := by
  refine ⟨fun start member => occurs start ((Finset.mem_sort _).1 member), ?_⟩
  refine starts.sortedLT_sort.pairwise.imp_of_mem ?_
  intro earlier later first second before
  exact (apart_iff_disjoint before).1
    (disjoint ((Finset.mem_sort _).1 first) ((Finset.mem_sort _).1 second) (Nat.ne_of_lt before))

/-- The places of a packing are distinct, and the stretches there are disjoint. -/
theorem Packing.disjoint {phrase : Phrase} {text : Text} {starts : List Nat}
    (packing : Packing phrase text starts) :
    starts.Nodup ∧ (starts.toFinset : Set Nat).PairwiseDisjoint fun start =>
      Set.Ico start (start + phrase.text.length) := by
  have positive := List.length_pos_iff.2 phrase.nonempty
  constructor
  · refine packing.apart.imp ?_
    intro earlier later clear same
    omega
  · have apart : starts.Pairwise fun earlier later =>
        Disjoint (Set.Ico earlier (earlier + phrase.text.length))
          (Set.Ico later (later + phrase.text.length)) := by
      refine packing.apart.imp ?_
      intro earlier later clear
      exact (apart_iff_disjoint (by omega)).2 clear
    intro first one second two different
    exact apart.forall (List.mem_toFinset.1 one) (List.mem_toFinset.1 two) different

/-- A search reports as many occurrences as a set of disjoint ones can have. -/
theorem isGreatest_length_occurrences (phrase : Phrase) (text : Text) :
    IsGreatest
      {count | ∃ starts : Finset Nat, (∀ start ∈ starts, phrase.OccursAt text start) ∧
        (starts : Set Nat).PairwiseDisjoint (fun start =>
          Set.Ico start (start + phrase.text.length)) ∧ starts.card = count}
      (phrase.occurrences text).length := by
  constructor
  · have packing := phrase.packing_occurrences text
    obtain ⟨distinct, disjoint⟩ := packing.disjoint
    refine ⟨((phrase.occurrences text).map (·.start)).toFinset, ?_, disjoint, ?_⟩
    · intro start member
      exact packing.occurs start (List.mem_toFinset.1 member)
    · rw [List.toFinset_card_of_nodup distinct, List.length_map]
  · rintro count ⟨starts, occurs, disjoint, rfl⟩
    rw [← starts.length_sort (· ≤ ·)]
    exact (packing_sort occurs disjoint).length_le

/-- A search reports exactly the whole words, from the left and disjoint.

Any letters but none at all can be searched for, and every one of them is read as it is, up to case.
What is reported are stretches on which they stand as a whole word, in increasing order and disjoint.
Wherever they stand as a whole word, either this place is reported, or a match that is reported
begins before it and reaches into it. No set of disjoint places at which they stand has more places
than are reported. -/
theorem search_finds_whole_words {letters : Text} (nonempty : letters ≠ []) (text : Text) :
    ∃ phrase, ofText letters = .ok phrase ∧
      let reported := phrase.occurrences text
      (∀ found ∈ reported, letters.StandsWhole text found.start ∧
        found.stop = found.start + letters.length) ∧
      reported.Pairwise (fun earlier later => earlier.stop ≤ later.start) ∧
      (∀ start, letters.StandsWhole text start → ∃ found ∈ reported,
        found.start = start ∨ found.start < start ∧ start < found.stop) ∧
      IsGreatest
        {count | ∃ starts : Finset Nat, (∀ start ∈ starts, letters.StandsWhole text start) ∧
          (starts : Set Nat).PairwiseDisjoint (fun start =>
            Set.Ico start (start + letters.length)) ∧ starts.card = count}
        reported.length := by
  let phrase : Phrase := ⟨letters, nonempty⟩
  have stands : ∀ start, phrase.OccursAt text start ↔ letters.StandsWhole text start :=
    phrase.occursAt_iff_standsWhole text
  refine ⟨phrase, dif_neg nonempty, ?_, Pattern.scan_ordered _ text, ?_, ?_⟩
  · intro found member
    obtain ⟨occurs, width⟩ := occursAt_of_mem_occurrences member
    exact ⟨(stands _).1 occurs, width⟩
  · intro start whole
    obtain ⟨found, member, begins, ends⟩ := covered_of_occursAt ((stands start).2 whole)
    exact ⟨found, member, (Nat.eq_or_lt_of_le begins).imp_right fun before => ⟨before, ends⟩⟩
  · have greatest := phrase.isGreatest_length_occurrences text
    simp only [stands] at greatest
    exact greatest

set_option maxRecDepth 2000 in
/-- Two signs stand at four places of five signs in a row, but no three of these are disjoint. -/
theorem search_finds_whole_words_overlapping :
    let letters : Text := "++".toList
    let text : Text := "+++++".toList
    letters ≠ [] ∧ letters.StandsWhole text 1 ∧
      IsGreatest
        {count | ∃ starts : Finset Nat, (∀ start ∈ starts, letters.StandsWhole text start) ∧
          (starts : Set Nat).PairwiseDisjoint (fun start =>
            Set.Ico start (start + letters.length)) ∧ starts.card = count} 2 := by
  intro letters text
  have nonempty : letters ≠ [] := by decide
  have occurs : Phrase.OccursAt ⟨"++".toList, by decide⟩ "+++++".toList 1 := by decide
  have count : (Phrase.occurrences ⟨"++".toList, by decide⟩ "+++++".toList).length = 2 := by decide
  refine ⟨nonempty, (occursAt_iff_standsWhole _ _ _).1 occurs, ?_⟩
  obtain ⟨phrase, made, _, _, _, greatest⟩ := search_finds_whole_words nonempty text
  obtain rfl : ⟨letters, nonempty⟩ = phrase := Except.ok.inj made
  exact count ▸ greatest

end Phrase

end PhraseAudit
