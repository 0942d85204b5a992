import PhraseAudit.Text.Basic

/-!
# Splitting a text into lines

A line ends at a line feed, at a carriage return, or at both in this order, which count as one. What
stands behind the last terminator is a line of its own unless it is empty.
-/

namespace PhraseAudit

/-- The three ways to end a line. -/
inductive Terminator where
  | lineFeed
  | carriageReturn
  | both
deriving Repr, DecidableEq

/-- How a terminator is written. -/
def Terminator.toText : Terminator → Text
  | .lineFeed => ['\n']
  | .carriageReturn => ['\r']
  | .both => ['\r', '\n']

/-- A text in lines: those that are ended, each with its terminator, and the rest behind them. -/
structure Lines where
  ended : List (Text × Terminator)
  rest : Text
deriving Repr, DecidableEq

namespace Lines

/-- The text that was split. -/
def toText (lines : Lines) : Text :=
  lines.ended.flatMap (fun (line, terminator) => line ++ terminator.toText) ++ lines.rest

/-- An ended line in front. -/
def addLine (terminator : Terminator) (lines : Lines) : Lines :=
  { lines with ended := ([], terminator) :: lines.ended }

/-- One more character at the beginning of the first line. -/
def addChar (c : Char) (lines : Lines) : Lines :=
  match lines.ended with
  | [] => { lines with rest := c :: lines.rest }
  | (line, terminator) :: ended => { lines with ended := (c :: line, terminator) :: ended }

/-- Splits a text. -/
def ofText : Text → Lines
  | [] => ⟨[], []⟩
  | '\r' :: '\n' :: text => (ofText text).addLine .both
  | '\r' :: text => (ofText text).addLine .carriageReturn
  | '\n' :: text => (ofText text).addLine .lineFeed
  | c :: text => (ofText text).addChar c

/-- An ended line in front adds its terminator to the text. -/
theorem toText_addLine (terminator : Terminator) (lines : Lines) :
    (lines.addLine terminator).toText = terminator.toText ++ lines.toText := by
  simp [addLine, toText]

/-- One more character in front is one more character of the text. -/
theorem toText_addChar (c : Char) (lines : Lines) :
    (lines.addChar c).toText = c :: lines.toText := by
  obtain ⟨ended, rest⟩ := lines
  cases ended with
  | nil => simp [addChar, toText]
  | cons first others => simp [addChar, toText]

/-- Splitting loses nothing: the lines with their terminators make up the text. -/
theorem toText_ofText (text : Text) : (ofText text).toText = text := by
  fun_induction ofText text with
  | case1 => rfl
  | case2 text ih => rw [toText_addLine, ih]; rfl
  | case3 text notFollowed ih => rw [toText_addLine, ih]; rfl
  | case4 text ih => rw [toText_addLine, ih]; rfl
  | case5 c text _ _ _ ih => rw [toText_addChar, ih]

/-- The lines that are ended, each as it stands in the text, with its terminator. -/
def endedPieces (lines : Lines) : List Text :=
  lines.ended.map fun (line, terminator) => line ++ terminator.toText

/-- All lines as they stand in the text. -/
def pieces (lines : Lines) : List Text :=
  if lines.rest.isEmpty then lines.endedPieces else lines.endedPieces ++ [lines.rest]

/-- A line without what ends it: every character at its end that ends lines is taken off. -/
def withoutEnd (piece : Text) : Text :=
  (piece.reverse.dropWhile fun c => c = '\r' || c = '\n').reverse

/-- The lines that are ended. -/
def complete (lines : Lines) : List Text :=
  lines.ended.map (·.1)

/-- All lines. -/
def all (lines : Lines) : List Text :=
  if lines.rest.isEmpty then lines.complete else lines.complete ++ [lines.rest]

/-- The part of a text of which the lines are known: a carriage return at its end may yet be
followed by a line feed. -/
def settled (text : Text) : Text :=
  if text.getLast? = some '\r' then text.dropLast else text

end Lines

end PhraseAudit
