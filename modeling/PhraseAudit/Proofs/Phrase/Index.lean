import PhraseAudit.Phrase.Index

/-!
# What an index finds

An index looks for every non-empty text of its set, for each once. The texts of a set are distinct,
so that what is found about one of them stands in one place.
-/

namespace PhraseAudit.PhraseIndex

/-- The phrases of an index are the non-empty texts it was made from. -/
theorem mem_phrases_ofTexts (texts : List Text) (phrase : Phrase) :
    phrase ∈ (ofTexts texts).phrases ↔ phrase.text ∈ texts := by
  induction texts with
  | nil => simp [ofTexts]
  | cons text rest ih =>
    obtain ⟨read, proper⟩ := phrase
    by_cases empty : text = []
    · have different : read ≠ text := fun same => proper (same.trans empty)
      simp [ofTexts, Phrase.ofText, empty, ih, proper]
    · simp [ofTexts, Phrase.ofText, empty, ih]

/-- An index without phrases is that of a set without any text but the empty one. -/
theorem eq_nil_of_no_phrases {texts : List Text} (none : (ofTexts texts).phrases.isEmpty = true)
    {text : Text} (member : text ∈ texts) : text = [] := by
  by_cases empty : text = []
  · exact empty
  · have found := (mem_phrases_ofTexts texts ⟨text, empty⟩).2 member
    rw [List.isEmpty_iff.1 none] at found
    cases found

/-- The phrases of an index keep the order of the texts, and so stay distinct. -/
theorem phrases_ofTexts_sublist (texts : List Text) :
    ((ofTexts texts).phrases.map (·.text)).Sublist texts := by
  induction texts with
  | nil => exact List.Sublist.slnil
  | cons text rest ih =>
    by_cases empty : text = []
    · simp only [ofTexts, Phrase.ofText, empty, dif_pos]
      exact ih.cons _
    · simp only [ofTexts, Phrase.ofText, empty, dif_neg, not_false_eq_true, List.map_cons]
      exact ih.cons_cons text

/-- The texts of a set are distinct. -/
theorem nodup_toList (set : PhraseSet) : set.toList.Nodup :=
  Text.nodup_of_increasing set.increasing

/-- How often a text was found, in a list of what was found about some phrases. -/
def countIn (text : Text) : List (Phrase × List (Found Unit)) → Nat
  | [] => 0
  | (phrase, occurrences) :: others =>
    if phrase.text = text then occurrences.length else countIn text others

/-- What was not looked for was not found. -/
theorem countIn_eq_zero {text : Text} {found : List (Phrase × List (Found Unit))}
    (absent : ∀ pair ∈ found, pair.1.text ≠ text) : countIn text found = 0 := by
  induction found with
  | nil => rfl
  | cons pair others ih =>
    have here := absent pair List.mem_cons_self
    have behind := ih fun other member => absent other (List.mem_cons_of_mem _ member)
    rw [countIn, if_neg here, behind]

/-- What was found about a phrase is counted where it stands. -/
theorem countIn_eq_length {found : List (Phrase × List (Found Unit))}
    (distinct : (found.map (·.1.text)).Nodup) {pair : Phrase × List (Found Unit)}
    (member : pair ∈ found) : countIn pair.1.text found = pair.2.length := by
  induction found with
  | nil => cases member
  | cons first others ih =>
    rw [List.map_cons, List.nodup_cons] at distinct
    cases List.mem_cons.1 member with
    | inl same =>
      subst same
      exact if_pos rfl
    | inr behind =>
      have other : first.1.text ≠ pair.1.text := by
        intro same
        exact distinct.1 (List.mem_map.2 ⟨pair, behind, same.symm⟩)
      rw [countIn, if_neg other]
      exact ih distinct.2 behind

/-- Passing over an empty text changes nothing in what is found. -/
theorem occurrences_eq (index : PhraseIndex) (text : Text) :
    index.occurrences text =
      (index.phrases.map fun phrase => (phrase, phrase.occurrences text)).filter fun pair =>
        !pair.2.isEmpty := by
  cases text with
  | cons c rest => rfl
  | nil =>
    have nothing : ∀ phrases : List Phrase,
        ((phrases.map fun phrase => (phrase, phrase.occurrences [])).filter fun pair =>
          !pair.2.isEmpty) = [] := by
      intro phrases
      refine List.filter_eq_nil_iff.2 ?_
      intro pair member
      obtain ⟨phrase, _, rfl⟩ := List.mem_map.1 member
      simp [Phrase.occurrences, Pattern.scan, Pattern.scanFrom]
    exact (nothing index.phrases).symm

/-- What an index finds about a phrase of its set is what the phrase finds on its own. -/
theorem mem_occurrences_iff (set : PhraseSet) (text : Text)
    (pair : Phrase × List (Found Unit)) :
    pair ∈ (ofSet set).occurrences text ↔
      pair.1.text ∈ set ∧ pair.2 = pair.1.occurrences text ∧ pair.2 ≠ [] := by
  rw [occurrences_eq, List.mem_filter, List.mem_map]
  constructor
  · rintro ⟨⟨phrase, member, rfl⟩, found⟩
    exact ⟨(mem_phrases_ofTexts _ phrase).1 member, rfl, by simpa using found⟩
  · rintro ⟨member, same, found⟩
    refine ⟨⟨pair.1, (mem_phrases_ofTexts _ pair.1).2 member, ?_⟩, by simpa using found⟩
    rw [← same]

/-- The phrases about which something is found are distinct. -/
theorem nodup_occurrences (set : PhraseSet) (text : Text) :
    (((ofSet set).occurrences text).map (·.1.text)).Nodup := by
  have sub : (((ofSet set).occurrences text).map (·.1.text)).Sublist
      ((ofSet set).phrases.map (·.text)) := by
    rw [occurrences_eq]
    have kept := List.Sublist.map (fun pair : Phrase × List (Found Unit) => pair.1.text)
      (List.filter_sublist (p := fun pair : Phrase × List (Found Unit) => !pair.2.isEmpty)
        (l := (ofSet set).phrases.map fun phrase => (phrase, phrase.occurrences text)))
    rwa [List.map_map] at kept
  exact (nodup_toList set).sublist (sub.trans (phrases_ofTexts_sublist set.toList))

end PhraseAudit.PhraseIndex
