import PhraseAudit.Proofs.Scan.Cut

/-!
# Splitting a text at a separator

A text is split at the leftmost places where the separator stands, which do not overlap. Pieces that
were joined by a separator come back from the split, when none of them holds its first character.
-/

namespace PhraseAudit

/-- The pattern that is matched by one text, which is not empty, wherever it stands. -/
def Pattern.literal (wanted : Text) (proper : wanted ≠ []) : Pattern Unit where
  read? _ rest := if wanted.isPrefixOf rest then some ⟨(), wanted.length⟩ else none
  width_pos := by
    intro before rest hit success
    split at success
    · obtain rfl := Option.some.inj success
      exact List.length_pos_iff.2 proper
    · cases success
  width_le := by
    intro before rest hit success
    split at success
    · rename_i begins
      obtain rfl := Option.some.inj success
      exact (List.isPrefixOf_iff_prefix.1 begins).length_le
    · cases success

namespace Text

/-- Splits a text at a separator, which is not empty. There is one piece more than places at which the
separator was found. -/
def split (text separator : Text) (proper : separator ≠ []) : List Text :=
  let cut := (Pattern.literal separator proper).cut text
  cut.parts.map (·.gap) ++ [cut.rest]

section Joined

variable {first : Char} (others : Text)

/-- A separator at an end has an empty piece beside it. -/
example : split ", a,b".toList ", ".toList (by decide) = ["".toList, "a,b".toList] := by
  decide

end Joined

end Text

end PhraseAudit
