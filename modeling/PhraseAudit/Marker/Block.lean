import PhraseAudit.Marker.Kind
import PhraseAudit.Text.Folded
import PhraseAudit.Text.Pattern

/-!
# Markers as they are written

A block is an opening `@[`, a keyword in any case, `#`, the wrapped phrase, and the closing `]`.
The phrase holds no closing bracket and no line feed, and it may be empty. What is read from the
head of a text is exactly what is written there.

A block is looked for in two ways: it is read when its kind and its phrase are asked for, and only
measured when it is to be removed.
-/

namespace PhraseAudit

/-- A marker as it is written: the keyword and the wrapped phrase. -/
structure MarkerBlock where
  keyword : Text
  payload : Text
deriving Repr, DecidableEq

namespace MarkerBlock

/-- How a block is written. -/
def toText (block : MarkerBlock) : Text :=
  ['@', '['] ++ block.keyword ++ '#' :: block.payload ++ [']']

/-- A character that a wrapped phrase may hold. -/
def isPayload (c : Char) : Bool :=
  c != ']' && c != '\n'

/-- A block is in the grammar when its keyword is that of some kind, in any case, and its payload
holds neither a closing bracket nor a line feed. -/
def WellFormed (block : MarkerBlock) : Prop :=
  (∃ kind : MarkerKind, Text.SameUpToCase kind.keyword block.keyword) ∧
    ∀ c ∈ block.payload, isPayload c = true

/-- Reads a keyword of the given kind and everything up to the closing bracket. -/
def readAs? (kind : MarkerKind) (text : Text) : Option MarkerBlock :=
  match Text.splitFolded? kind.keyword text with
  | some (keyword, '#' :: rest) =>
    match rest.dropWhile isPayload with
    | ']' :: _ => some ⟨keyword, rest.takeWhile isPayload⟩
    | _ => none
  | _ => none

/-- Reads a block at the head of a text. The longer keyword is tried first. -/
def read? : Text → Option MarkerBlock
  | '@' :: '[' :: text => readAs? .header text <|> readAs? .static text
  | _ => none

/-- What was read stands at the head of the text. -/
theorem toText_prefix_of_read? {text : Text} {block : MarkerBlock}
    (success : read? text = some block) : ∃ rest, text = block.toText ++ rest := by
  have inner : ∀ kind (body : Text), readAs? kind body = some block →
      ∃ rest, '@' :: '[' :: body = block.toText ++ rest := by
    intro kind body found
    unfold readAs? at found
    split at found
    · rename_i keyword tail split
      split at found
      · rename_i rest closing
        cases found
        have joined := ((Text.splitFolded?_eq_some_iff _ _ _ _).1 split).1
        refine ⟨rest, ?_⟩
        have whole := List.takeWhile_append_dropWhile (p := isPayload) (l := tail)
        rw [closing] at whole
        simp [toText, joined, whole]
      · cases found
    · cases found
  unfold read? at success
  split at success
  · rename_i body
    cases header : readAs? .header body with
    | some found =>
      rw [header] at success
      cases success
      exact inner .header body header
    | none =>
      rw [header] at success
      exact inner .static body success
  · cases success

/-- The pattern that finds markers in a line. -/
def pattern : Pattern MarkerBlock where
  read? _ rest := (read? rest).map fun block => ⟨block, block.toText.length⟩
  width_pos := by
    intro _ _ hit found
    obtain ⟨block, _, rfl⟩ := Option.map_eq_some_iff.1 found
    simp [toText]
  width_le := by
    intro _ rest hit found
    obtain ⟨block, success, rfl⟩ := Option.map_eq_some_iff.1 found
    obtain ⟨behind, rfl⟩ := toText_prefix_of_read? success
    simp

/-! ## Measuring a block -/

/-- How many characters stand in front of the closing bracket, which has to come before any line
feed. -/
def payloadWidth? : Text → Option Nat
  | [] => none
  | c :: rest =>
    if c = ']' then some 0
    else if c = '\n' then none
    else (payloadWidth? rest).map (· + 1)

/-- How many characters a block of the given kind takes behind its opening. -/
def widthAs? (kind : MarkerKind) (text : Text) : Option Nat :=
  match Text.splitFolded? kind.keyword text with
  | some (_, '#' :: rest) => (payloadWidth? rest).map fun width => kind.keyword.length + width + 2
  | _ => none

/-- How many characters the block at the head of a text takes. Nothing of it is kept. -/
def width? : Text → Option Nat
  | '@' :: '[' :: text => (widthAs? .header text <|> widthAs? .static text).map (· + 2)
  | _ => none

/-- The width of a payload is that of the longest stretch of its characters, if the closing bracket
comes next. -/
theorem payloadWidth?_eq (text : Text) :
    payloadWidth? text = match text.dropWhile isPayload with
      | ']' :: _ => some (text.takeWhile isPayload).length
      | _ => none := by
  induction text with
  | nil => rfl
  | cons c rest ih =>
    by_cases closing : c = ']'
    · subst closing
      simp [payloadWidth?, isPayload]
    · by_cases feed : c = '\n'
      · subst feed
        simp [payloadWidth?, isPayload]
      · have allowed : isPayload c = true := by simp [isPayload, closing, feed]
        rw [payloadWidth?, if_neg closing, if_neg feed, ih, List.dropWhile_cons_of_pos allowed,
          List.takeWhile_cons_of_pos allowed]
        split <;> rfl

/-- The width of a block of one kind is that of the block that is read. -/
theorem widthAs?_eq (kind : MarkerKind) (text : Text) :
    widthAs? kind text =
      (readAs? kind text).map fun block => block.keyword.length + block.payload.length + 2 := by
  unfold widthAs? readAs?
  cases split : Text.splitFolded? kind.keyword text with
  | none => rfl
  | some pair =>
    obtain ⟨keyword, tail⟩ := pair
    have same := ((Text.splitFolded?_eq_some_iff _ _ _ _).1 split).2
    have width : kind.keyword.length = keyword.length := same.length_eq
    split
    · rename_i rest found
      cases found
      simp only [payloadWidth?_eq, width]
      split <;> rfl
    · rfl

/-- A block takes just the characters that it is written with. -/
theorem width?_eq (text : Text) : width? text = (read? text).map (·.toText.length) := by
  have counted : ∀ block : MarkerBlock,
      block.keyword.length + block.payload.length + 2 + 2 = block.toText.length := by
    intro block
    simp [toText]
    omega
  unfold width? read?
  split
  · rename_i body
    rw [widthAs?_eq, widthAs?_eq]
    cases readAs? .header body with
    | some block => simp [counted]
    | none => cases readAs? .static body <;> simp [counted]
  · rfl

/-- The pattern that finds the places of markers in a line, and nothing else about them. -/
def removal : Pattern Unit where
  read? _ rest := (width? rest).map fun width => ⟨(), width⟩
  width_pos := by
    intro before rest hit found
    obtain ⟨width, measured, rfl⟩ := Option.map_eq_some_iff.1 found
    rw [width?_eq] at measured
    obtain ⟨block, success, rfl⟩ := Option.map_eq_some_iff.1 measured
    simp [toText]
  width_le := by
    intro before rest hit found
    obtain ⟨width, measured, rfl⟩ := Option.map_eq_some_iff.1 found
    rw [width?_eq] at measured
    obtain ⟨block, success, rfl⟩ := Option.map_eq_some_iff.1 measured
    obtain ⟨behind, rfl⟩ := toText_prefix_of_read? success
    simp

/-- Measuring finds a block where reading finds one, and of the same width. -/
theorem removal_width (before : Option Char) (rest : Text) :
    (removal.read? before rest).map (·.width) = (pattern.read? before rest).map (·.width) := by
  simp only [removal, pattern, width?_eq, Option.map_map]
  rfl

end MarkerBlock

end PhraseAudit
