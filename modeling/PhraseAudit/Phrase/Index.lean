import PhraseAudit.Phrase.Basic
import PhraseAudit.Phrase.Set

/-!
# Searching for many phrases

Each phrase of a set is searched for on its own, so that a longer phrase never hides a shorter one
inside it. Only the empty text is left out.
-/

namespace PhraseAudit

/-- The phrases of a set that can be searched for, in the order of the set, and the texts that
cannot. -/
structure PhraseIndex where
  phrases : List Phrase
  skipped : List Text

namespace PhraseIndex

/-- Sorts the texts of a list into phrases and texts that are none. -/
def ofTexts : List Text → PhraseIndex
  | [] => ⟨[], []⟩
  | text :: rest =>
    let index := ofTexts rest
    match Phrase.ofText text with
    | .ok phrase => { index with phrases := phrase :: index.phrases }
    | .error .empty => { index with skipped := text :: index.skipped }

/-- The index of a set of phrases. -/
def ofSet (set : PhraseSet) : PhraseIndex :=
  ofTexts set.toList

/-- The phrases that occur in a text, each with its occurrences. Nothing occurs in an empty text,
which is not searched. -/
def occurrences (index : PhraseIndex) (text : Text) : List (Phrase × List (Found Unit)) :=
  if text.isEmpty then []
  else (index.phrases.map fun phrase => (phrase, phrase.occurrences text)).filter fun pair =>
    !pair.2.isEmpty

end PhraseIndex

end PhraseAudit
