import PhraseAudit.Marker.Block

/-!
# Markers

A marker wraps a phrase. This module reads the markers of a line, and removes them from it.

A keyword is found without regard to case, character by character, but its kind is looked up by its
small letters. The two notions differ for a few characters outside ASCII: a keyword written with
one of them is found and then has no kind, and the reading of the line ends there.
-/

namespace PhraseAudit

/-- A marker of a numbered line: its kind, the phrase it wraps, and its place. -/
structure Marker where
  kind : MarkerKind
  phrase : Text
  line : Int
  start : Nat
  stop : Nat
deriving Repr, DecidableEq

namespace Marker

/-- The marker that a block found on a line stands for. -/
def ofFound (line : Int) (found : Found MarkerBlock) : Except MarkerError Marker :=
  (MarkerKind.ofText found.value.keyword).map fun kind =>
    ⟨kind, found.value.payload, line, found.start, found.stop⟩

/-- Reads blocks up to the first whose kind is unknown: the markers before it, and why the
reading ended early, if it did. -/
def ofBlocks (line : Int) : List (Found MarkerBlock) → List Marker × Option MarkerError
  | [] => ([], none)
  | found :: rest =>
    match ofFound line found with
    | .ok marker =>
      let (markers, failure) := ofBlocks line rest
      (marker :: markers, failure)
    | .error error => ([], some error)

/-- Whether a text holds the two characters that open a marker. A line without them is not looked
at any further. -/
def hasOpening : Text → Bool
  | [] => false
  | c :: rest => (c == '@' && rest.head? == some '[') || hasOpening rest

/-- The opening of a part of a text is in the text. -/
theorem hasOpening_of_suffix {part text : Text} (behind : part <:+ text)
    (opening : hasOpening part = true) : hasOpening text = true := by
  obtain ⟨front, rfl⟩ := behind
  induction front with
  | nil => exact opening
  | cons c front ih => simp [hasOpening, ih]

/-- A block that can be read begins with the opening. -/
theorem hasOpening_of_read? {text : Text} {block : MarkerBlock}
    (success : MarkerBlock.read? text = some block) : hasOpening text = true := by
  unfold MarkerBlock.read? at success
  split at success
  · simp [hasOpening]
  · cases success

/-- Without an opening there is nothing to find. -/
theorem silent_of_not_hasOpening {text : Text} (closed : hasOpening text = false) :
    MarkerBlock.pattern.Silent text := by
  intro before rest behind
  cases reading : MarkerBlock.read? rest with
  | none => simp [MarkerBlock.pattern, reading]
  | some block =>
    have opening := hasOpening_of_suffix behind (hasOpening_of_read? reading)
    rw [closed] at opening
    cases opening

/-- The markers of a line from left to right, up to the first whose kind is unknown. -/
def ofLine (line : Int) (text : Text) : List Marker × Option MarkerError :=
  if hasOpening text then ofBlocks line (MarkerBlock.pattern.scan text) else ([], none)

/-- The line without its markers. What stood before and behind a marker is joined. -/
def remove (text : Text) : Text :=
  if hasOpening text then MarkerBlock.removal.replace [] text else text

/-- Passing over lines without an opening changes nothing in what is read. -/
theorem ofLine_eq (line : Int) (text : Text) :
    ofLine line text = ofBlocks line (MarkerBlock.pattern.scan text) := by
  cases opening : hasOpening text with
  | true => simp [ofLine, opening]
  | false =>
    have nothing := Pattern.scanFrom_of_silent (silent_of_not_hasOpening opening) 0 none
    simp [ofLine, opening, Pattern.scan, nothing, ofBlocks]

/-- What is removed is what is read: measuring finds the same blocks, and passing over lines without
an opening changes nothing. -/
theorem remove_eq (text : Text) : remove text = MarkerBlock.pattern.replace [] text := by
  cases opening : hasOpening text with
  | true =>
    rw [remove, if_pos opening]
    exact Pattern.replaceFrom_congr MarkerBlock.removal_width [] none 0 text
  | false =>
    have nothing := Pattern.replaceFrom_of_silent (silent_of_not_hasOpening opening) [] none
    simp [remove, opening, Pattern.replace, nothing]

end Marker

end PhraseAudit
