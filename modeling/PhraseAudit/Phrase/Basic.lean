import PhraseAudit.Text.Folded
import PhraseAudit.Text.Pattern
import PhraseAudit.Unicode.Word

/-!
# Phrases and their occurrences

A phrase occurs in a text as a whole word: read character by character without regard to case, with
no word character directly in front of it or behind it. Its own first and last characters may be
anything, so `C++` is a phrase like any other.
-/

namespace PhraseAudit

/-- A phrase that can be searched for: a text that is not empty. -/
structure Phrase where
  text : Text
  nonempty : text ≠ []
deriving DecidableEq

/-- Why a text is no phrase. -/
inductive PhraseError where
  | empty
deriving Repr, DecidableEq

/-- The wording of a phrase error. -/
def PhraseError.message : PhraseError → String
  | .empty => "Phrase cannot be empty"

namespace Phrase

/-- The phrase with the given text, unless the text is empty. -/
def ofText (text : Text) : Except PhraseError Phrase :=
  if nonempty : text = [] then .error .empty else .ok ⟨text, nonempty⟩

/-- A place next to a phrase is open when it is the end of the text or holds no word character. -/
def isOpen (neighbour : Option Char) : Bool :=
  neighbour.all fun c => !Unicode.isWord c

/-- The phrase occurs at a position of a text: a stretch of the text from there on is the phrase up
to case, and the neighbours of the stretch are open. -/
def OccursAt (phrase : Phrase) (text : Text) (start : Nat) : Prop :=
  ∃ front read behind, text = front ++ read ++ behind ∧ front.length = start ∧
    Text.SameUpToCase phrase.text read ∧
    isOpen front.getLast? = true ∧ isOpen behind.head? = true

/-- Whether the phrase stands at the head of a text, behind the given character. -/
def standsAt (phrase : Phrase) (before : Option Char) (rest : Text) : Bool :=
  match Text.splitFolded? phrase.text rest with
  | some (_, behind) => isOpen before && isOpen behind.head?
  | none => false

/-- A phrase that stands at the head of a text fits into it. -/
theorem length_le_of_standsAt {phrase : Phrase} {before : Option Char} {rest : Text}
    (stands : phrase.standsAt before rest = true) : phrase.text.length ≤ rest.length := by
  unfold standsAt at stands
  split at stands
  · rename_i read behind split
    obtain ⟨joined, folded⟩ := (Text.splitFolded?_eq_some_iff _ _ _ _).1 split
    have sameLength := folded.length_eq
    rw [joined, List.length_append]
    omega
  · cases stands

/-- The pattern that finds a phrase in a text. -/
def pattern (phrase : Phrase) : Pattern Unit where
  read? before rest := if phrase.standsAt before rest then some ⟨(), phrase.text.length⟩ else none
  width_pos := by
    intro before rest hit found
    split at found
    · cases found
      exact List.length_pos_iff.2 phrase.nonempty
    · cases found
  width_le := by
    intro before rest hit found
    split at found
    · rename_i stands
      cases found
      exact length_le_of_standsAt stands
    · cases found

/-- The occurrences of the phrase in a text, leftmost first, none overlapping another. -/
def occurrences (phrase : Phrase) (text : Text) : List (Found Unit) :=
  phrase.pattern.scan text

end Phrase

end PhraseAudit
