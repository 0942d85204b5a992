import PhraseAudit.Text.Basic

/-!
# The bytes of a text

How many bytes a text takes in UTF-8, and what is left of it when it is cut to a number of bytes. A
cut may go through a character: then the replacement character stands for the part that is left.
-/

namespace PhraseAudit.Text

/-- How many bytes a text takes in UTF-8. -/
def byteSize : Text → Nat
  | [] => 0
  | c :: rest => c.utf8Size + byteSize rest

/-- The bytes of two texts add up. -/
theorem byteSize_append (front behind : Text) :
    byteSize (front ++ behind) = byteSize front + byteSize behind := by
  induction front with
  | nil => simp [byteSize]
  | cons c front ih => rw [List.cons_append, byteSize, byteSize, ih, Nat.add_assoc]

/-- What stands for a character that was cut through. -/
def replacement : Char :=
  '\ufffd'

/-- The beginning of a text that fits into the given number of bytes. -/
def cutToBytes : (limit : Nat) → Text → Text
  | _, [] => []
  | limit, c :: rest =>
    if c.utf8Size ≤ limit then c :: cutToBytes (limit - c.utf8Size) rest
    else if limit = 0 then []
    else [replacement]

end PhraseAudit.Text
