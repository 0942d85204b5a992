import Mathlib.Data.List.DropRight
import PhraseAudit.Text.Basic

/-!
# The one way to strip a text

A text is trimmed when white space stands at neither of its ends. To strip a text is to find a trimmed
text in it with nothing but white space around. There is one such text, also when all of it is white
space, and this is what the two passes over the ends leave. A trimmed text is left as it is.
-/

namespace PhraseAudit.Text

/-- White space stands at neither end of a text. -/
structure Trimmed (text : Text) : Prop where
  head : ∀ c rest, text = c :: rest → isBlank c = false
  last : ∀ front c, text = front ++ [c] → isBlank c = false

/-- A text strips to another one that is trimmed and stands in it between white space. -/
structure StripsTo (text inner : Text) : Prop where
  trimmed : Trimmed inner
  around : ∃ front back, text = front ++ (inner ++ back) ∧
    front.all isBlank = true ∧ back.all isBlank = true

/-- A text that begins with no white space loses nothing at its head. -/
theorem stripLeft_eq_self {text : Text} (head : ∀ c rest, text = c :: rest → isBlank c = false) :
    text.stripLeft = text := by
  cases text with
  | nil => rfl
  | cons c rest => simp [stripLeft, head c rest rfl]

/-- A text that ends with no white space loses nothing at its end. -/
theorem stripRight_eq_self {text : Text} (last : ∀ front c, text = front ++ [c] → isBlank c = false) :
    text.stripRight = text := by
  refine List.rdropWhile_eq_self_iff.2 fun nonempty => ?_
  exact Bool.not_eq_true _ ▸ last _ _ (List.dropLast_append_getLast nonempty).symm

/-- A trimmed text is left as it is. -/
theorem Trimmed.strip_eq_self {text : Text} (trimmed : Trimmed text) : text.strip = text := by
  rw [strip, stripLeft_eq_self trimmed.head, stripRight_eq_self trimmed.last]

/-- A trimmed text may be cut anywhere, when a trimmed mark stands for what is cut off. -/
theorem Trimmed.take_append {text mark : Text} (trimmed : Trimmed text) (markTrimmed : Trimmed mark)
    (proper : mark ≠ []) (width : Nat) : Trimmed (text.take width ++ mark) := by
  refine ⟨fun c rest begins => ?_, fun front c ends => ?_⟩
  · cases kept : text.take width with
    | nil =>
      rw [kept] at begins
      exact markTrimmed.head c rest begins
    | cons d others =>
      have whole := List.take_append_drop width text
      rw [kept] at begins whole
      obtain ⟨rfl, _⟩ := List.cons.inj begins
      exact trimmed.head d _ whole.symm
  · have split := List.dropLast_append_getLast proper
    rw [← split, ← List.append_assoc] at ends
    exact markTrimmed.last _ c (List.append_inj_right' ends rfl ▸ split.symm)

/-- White space in front is lost. -/
theorem strip_append_left {front : Text} (blank : front.all isBlank = true) (text : Text) :
    (front ++ text).strip = text.strip := by
  rw [strip, stripLeft, List.dropWhile_append_of_pos (List.all_eq_true.1 blank)]
  rfl

/-- White space behind is lost at the end. -/
theorem stripRight_append {back : Text} (blank : back.all isBlank = true) (text : Text) :
    (text ++ back).stripRight = text.stripRight := by
  have blankToo : ∀ c ∈ back.reverse, isBlank c = true := fun c member =>
    List.all_eq_true.1 blank c (List.mem_reverse.1 member)
  rw [stripRight, List.reverse_append, List.dropWhile_append_of_pos blankToo]
  rfl

/-- Nothing is left of white space. -/
theorem strip_eq_nil {text : Text} (blank : text.all isBlank = true) : text.strip = [] := by
  have nothing := strip_append_left blank []
  rwa [List.append_nil] at nothing

/-- Whatever a text strips to is what is left of it. White space behind a text that is empty stands at
the head, so that this text is a case of its own. -/
theorem StripsTo.strip_eq {text inner : Text} (strips : StripsTo text inner) :
    text.strip = inner := by
  obtain ⟨trimmed, front, back, rfl, blankFront, blankBack⟩ := strips
  rw [strip_append_left blankFront]
  cases inner with
  | nil => exact strip_eq_nil blankBack
  | cons c rest =>
    have kept : stripLeft (c :: rest ++ back) = c :: rest ++ back := by
      refine stripLeft_eq_self fun d others same => ?_
      obtain ⟨rfl, _⟩ := List.cons.inj same
      exact trimmed.head c rest rfl
    rw [strip, kept, stripRight_append blankBack, stripRight_eq_self trimmed.last]

/-- What is left behind the white space at the head begins with no white space. -/
theorem head_stripLeft {text rest : Text} {c : Char} (begins : text.stripLeft = c :: rest) :
    isBlank c = false := by
  have head := List.head?_dropWhile_not isBlank text
  rw [← stripLeft, begins] at head
  exact head

/-- What is left in front of the white space at the end ends with no white space. -/
theorem last_stripRight {text front : Text} {c : Char} (ends : text.stripRight = front ++ [c]) :
    isBlank c = false := by
  have reversed : stripLeft text.reverse = c :: front.reverse := by
    rw [← List.reverse_reverse (stripLeft text.reverse)]
    exact (congrArg List.reverse ends).trans List.reverse_concat
  exact head_stripLeft reversed

/-- A text strips to what is left of it. The head of what is left is that of the text without the
white space in front, since the second pass takes away the end only. -/
theorem stripsTo_strip (text : Text) : StripsTo text text.strip := by
  let front := text.takeWhile isBlank
  let back := (text.stripLeft.reverse.takeWhile isBlank).reverse
  have left : front ++ text.stripLeft = text := List.takeWhile_append_dropWhile
  have right : text.strip ++ back = text.stripLeft := by
    rw [strip, stripRight, ← List.reverse_append, List.takeWhile_append_dropWhile,
      List.reverse_reverse]
  refine ⟨⟨fun c rest begins => ?_, fun _ _ ends => last_stripRight ends⟩, front, back, ?_, ?_, ?_⟩
  · rw [begins] at right
    exact head_stripLeft right.symm
  · rw [right, left]
  · exact List.all_takeWhile
  · rw [List.all_reverse]
    exact List.all_takeWhile

/-- There is one text to which a text strips. -/
theorem stripsTo_iff {text inner : Text} : StripsTo text inner ↔ inner = text.strip := by
  constructor
  · intro strips
    exact strips.strip_eq.symm
  · rintro rfl
    exact stripsTo_strip text

end PhraseAudit.Text
