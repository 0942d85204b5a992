import PhraseAudit.Text.Basic
import PhraseAudit.Unicode.Lowercase

/-!
# Words up to case

Reading a fixed word at the head of a text without regard to case. Characters are compared one by
one, so that what was read has exactly the length of the word.
-/

namespace PhraseAudit.Text

open Unicode

/-- Two texts are the same up to case when they have one length and each character of one is the
same up to case as its partner. -/
def SameUpToCase (word text : Text) : Prop :=
  word.map fold = text.map fold

instance (word text : Text) : Decidable (SameUpToCase word text) :=
  inferInstanceAs (Decidable (word.map fold = text.map fold))

/-- Texts that are the same up to case have one length. -/
theorem SameUpToCase.length_eq {word text : Text} (same : SameUpToCase word text) :
    word.length = text.length := by
  have lengths := congrArg List.length same
  rwa [List.length_map, List.length_map] at lengths

/-- Splits a text behind a word at its head, in any case: the word as written, and the rest. -/
def splitFolded? : (word text : Text) → Option (Text × Text)
  | [], text => some ([], text)
  | _ :: _, [] => none
  | letter :: word, c :: text =>
    if sameLetter letter c then (splitFolded? word text).map fun (read, rest) => (c :: read, rest)
    else none

/-- A split happens exactly at a head that is the same as the word up to case. -/
theorem splitFolded?_eq_some_iff (word text : Text) (read rest : Text) :
    splitFolded? word text = some (read, rest) ↔ text = read ++ rest ∧ SameUpToCase word read := by
  induction word generalizing text read with
  | nil => cases read <;> simp [splitFolded?, SameUpToCase]
  | cons letter word ih =>
    cases text with
    | nil => cases read <;> simp [splitFolded?, SameUpToCase]
    | cons c text =>
      cases read with
      | nil => simp [splitFolded?, SameUpToCase]
      | cons d read =>
        have inner := ih text read
        simp only [SameUpToCase] at inner
        simp only [splitFolded?, sameLetter_iff, SameUpToCase, List.map_cons, List.cons_append,
          List.cons.injEq]
        by_cases same : fold letter = fold c
        · simp only [same, if_true, Option.map_eq_some_iff, Prod.mk.injEq, List.cons.injEq]
          constructor
          · rintro ⟨pair, split, ⟨rfl, rfl⟩, rfl⟩
            exact ⟨⟨rfl, (inner.1 split).1⟩, rfl, (inner.1 split).2⟩
          · rintro ⟨⟨rfl, joined⟩, _, folded⟩
            exact ⟨(read, rest), inner.2 ⟨joined, folded⟩, ⟨rfl, rfl⟩, rfl⟩
        · simp only [same, if_false]
          constructor
          · intro impossible
            cases impossible
          · rintro ⟨⟨rfl, _⟩, equal, _⟩
            exact absurd equal same

end PhraseAudit.Text
