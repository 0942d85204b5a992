import PhraseAudit.Text.Pattern

/-!
# How a scan cuts a text

The leftmost matches cut a text into parts, each a gap and the match behind it, and a rest behind
the last match. In a gap no match begins. The scan reports where the matches of the cut stand, and
the replacement keeps its gaps and its rest. Both are proved once from the cut, so that a law about
one of them is a law about the parts.

Nothing here depends on which pattern is searched for. A gap is judged in its place: whether a match
begins in it may depend on the character in front of it and on all that follows.
-/

namespace PhraseAudit

/-- A match in its place: the gap in front of it, the text that it takes, and what was read. -/
structure Part (α : Type) where
  gap : Text
  matched : Text
  value : α
deriving Repr, DecidableEq

/-- A text in parts, and the rest behind the last of them. -/
structure Cut (α : Type) where
  parts : List (Part α)
  rest : Text
deriving Repr, DecidableEq

namespace Cut

variable {α : Type}

/-- The cut with one more part in front. -/
def cons (part : Part α) (cut : Cut α) : Cut α :=
  ⟨part :: cut.parts, cut.rest⟩

/-- The text that was cut. -/
def toText (cut : Cut α) : Text :=
  cut.parts.flatMap (fun part => part.gap ++ part.matched) ++ cut.rest

/-- The text with the given one in place of each match. -/
def filled (substitute : Text) (cut : Cut α) : Text :=
  cut.parts.flatMap (fun part => part.gap ++ substitute) ++ cut.rest

/-- Where the matches of some parts stand, when the first gap begins at the given position. -/
def spansFrom (position : Nat) : List (Part α) → List (Found α)
  | [] => []
  | part :: parts =>
    let start := position + part.gap.length
    let stop := start + part.matched.length
    ⟨start, stop, part.value⟩ :: spansFrom stop parts

/-- Where the matches stand in the text. -/
def spans (cut : Cut α) : List (Found α) :=
  spansFrom 0 cut.parts

/-- Cuts a text, of which the first character has the given position, at some spans. -/
def ofSpans (position : Nat) (text : Text) : List (Found α) → Cut α
  | [] => ⟨[], text⟩
  | span :: spans =>
    let behind := text.drop (span.start - position)
    let width := span.stop - span.start
    (ofSpans span.stop (behind.drop width) spans).cons
      ⟨text.take (span.start - position), behind.take width, span.value⟩

@[simp]
theorem toText_cons (part : Part α) (cut : Cut α) :
    (cut.cons part).toText = part.gap ++ (part.matched ++ cut.toText) := by
  simp [cons, toText]

@[simp]
theorem filled_cons (substitute : Text) (part : Part α) (cut : Cut α) :
    (cut.cons part).filled substitute = part.gap ++ (substitute ++ cut.filled substitute) := by
  simp [cons, filled]

/-- Every span of some parts begins behind the position at which the parts begin. -/
theorem le_start_of_mem_spansFrom {position : Nat} {parts : List (Part α)} {span : Found α}
    (member : span ∈ spansFrom position parts) : position ≤ span.start := by
  induction parts generalizing position with
  | nil => cases member
  | cons part parts ih =>
    cases List.mem_cons.1 member with
    | inl same =>
      subst same
      exact Nat.le_add_right _ _
    | inr behind =>
      have later := ih behind
      omega

/-- Cutting a text at the spans of some parts gives the parts back. -/
theorem ofSpans_spansFrom (position : Nat) (parts : List (Part α)) (rest : Text) :
    ofSpans position (Cut.toText ⟨parts, rest⟩) (spansFrom position parts) = ⟨parts, rest⟩ := by
  induction parts generalizing position with
  | nil => rfl
  | cons part parts ih =>
    have whole : Cut.toText ⟨part :: parts, rest⟩ =
        part.gap ++ (part.matched ++ Cut.toText ⟨parts, rest⟩) :=
      toText_cons part ⟨parts, rest⟩
    have gapWidth : position + part.gap.length - position = part.gap.length := by omega
    have matchWidth : position + part.gap.length + part.matched.length -
        (position + part.gap.length) = part.matched.length := by omega
    rw [spansFrom, whole]
    simp only [ofSpans, gapWidth, matchWidth, List.drop_left, List.take_left, ih]
    rfl

end Cut

namespace Pattern

variable {α : Type}

/-- A gap is quiet when no match begins in it, given the character in front of it and the text
behind it. -/
def Quiet (pattern : Pattern α) (before : Option Char) (gap behind : Text) : Prop :=
  ∀ front c rest, gap = front ++ c :: rest →
    pattern.read? (front.getLast?.or before) (c :: rest ++ behind) = none

/-- The character in front of a place goes on being the last one of what was passed over. -/
theorem getLast?_or_cons (c : Char) (front : Text) (before : Option Char) :
    (c :: front).getLast?.or before = front.getLast?.or (some c) := by
  rw [List.getLast?_cons]
  cases front.getLast? <;> rfl

/-- Passing over two texts is passing over one after the other. -/
theorem getLast?_append_or (front back : Text) (before : Option Char) :
    (front ++ back).getLast?.or before = back.getLast?.or (front.getLast?.or before) := by
  rw [List.getLast?_append]
  cases back.getLast? <;> rfl

/-- A gap without characters is quiet. -/
theorem quiet_nil (pattern : Pattern α) (before : Option Char) (behind : Text) :
    pattern.Quiet before [] behind := by
  intro front c rest split
  simp at split

/-- A longer gap is quiet when no match begins at its head and the rest of it is quiet. -/
theorem quiet_cons_iff (pattern : Pattern α) (before : Option Char) (c : Char)
    (gap behind : Text) :
    pattern.Quiet before (c :: gap) behind ↔
      pattern.read? before (c :: gap ++ behind) = none ∧ pattern.Quiet (some c) gap behind := by
  constructor
  · intro quiet
    refine ⟨quiet [] c gap rfl, ?_⟩
    intro front d rest split
    have here := quiet (c :: front) d rest (by rw [split, List.cons_append])
    rwa [getLast?_or_cons] at here
  · rintro ⟨head, tail⟩ front d rest split
    cases front with
    | nil =>
      obtain ⟨rfl, rfl⟩ := List.cons.inj split
      exact head
    | cons e front =>
      obtain ⟨rfl, inner⟩ := List.cons.inj split
      rw [getLast?_or_cons]
      exact tail front d rest inner

/-- A scan passes over a quiet gap. -/
theorem scanFrom_of_quiet {pattern : Pattern α} {before : Option Char} {gap behind : Text}
    (quiet : pattern.Quiet before gap behind) (position : Nat) :
    pattern.scanFrom position before 0 (gap ++ behind) =
      pattern.scanFrom (position + gap.length) (gap.getLast?.or before) 0 behind := by
  induction gap generalizing position before with
  | nil => rfl
  | cons c gap ih =>
    obtain ⟨head, tail⟩ := (pattern.quiet_cons_iff before c gap behind).1 quiet
    rw [List.cons_append, scanFrom, ← List.cons_append, head, getLast?_or_cons]
    simp only
    rw [ih tail, List.length_cons]
    congr 1
    omega

/-- A replacement keeps a quiet gap. -/
theorem replaceFrom_of_quiet {pattern : Pattern α} {before : Option Char} {gap behind : Text}
    (quiet : pattern.Quiet before gap behind) (substitute : Text) :
    pattern.replaceFrom substitute before 0 (gap ++ behind) =
      gap ++ pattern.replaceFrom substitute (gap.getLast?.or before) 0 behind := by
  induction gap generalizing before with
  | nil => rfl
  | cons c gap ih =>
    obtain ⟨head, tail⟩ := (pattern.quiet_cons_iff before c gap behind).1 quiet
    rw [List.cons_append, replaceFrom, ← List.cons_append, head, getLast?_or_cons]
    exact congrArg (c :: ·) (ih tail)

/-- A match that takes a given text is not empty. -/
theorem ne_nil_of_read? {pattern : Pattern α} {before : Option Char} {matched behind : Text}
    {value : α} (reads : pattern.read? before (matched ++ behind) = some ⟨value, matched.length⟩) :
    matched ≠ [] := by
  have positive := pattern.width_pos reads
  exact List.length_pos_iff.1 positive

/-- A scan reports a match at the head of the text and goes on behind it. -/
theorem scanFrom_of_read? {pattern : Pattern α} {before : Option Char} {matched behind : Text}
    {value : α} (reads : pattern.read? before (matched ++ behind) = some ⟨value, matched.length⟩)
    (position : Nat) :
    pattern.scanFrom position before 0 (matched ++ behind) =
      ⟨position, position + matched.length, value⟩ ::
        pattern.scanFrom (position + matched.length) (matched.getLast?.or before) 0 behind := by
  obtain ⟨c, tail, rfl⟩ := List.exists_cons_of_ne_nil (ne_nil_of_read? reads)
  rw [List.cons_append] at reads
  rw [List.cons_append, scanFrom, reads]
  simp only [List.length_cons, Nat.add_sub_cancel]
  rw [scanFrom_skip, List.take_left, List.drop_left, getLast?_or_cons]
  congr 2
  omega

/-- A replacement puts the substitute in place of a match at the head and goes on behind it. -/
theorem replaceFrom_of_read? {pattern : Pattern α} {before : Option Char}
    {matched behind : Text} {value : α}
    (reads : pattern.read? before (matched ++ behind) = some ⟨value, matched.length⟩)
    (substitute : Text) :
    pattern.replaceFrom substitute before 0 (matched ++ behind) =
      substitute ++ pattern.replaceFrom substitute (matched.getLast?.or before) 0 behind := by
  obtain ⟨c, tail, rfl⟩ := List.exists_cons_of_ne_nil (ne_nil_of_read? reads)
  rw [List.cons_append] at reads
  rw [List.cons_append, replaceFrom, reads]
  simp only [List.length_cons, Nat.add_sub_cancel]
  rw [replaceFrom_skip, List.take_left, List.drop_left, getLast?_or_cons]

/-- The parts of a text are the leftmost matches: each gap is quiet, a match is read behind it, and
the rest is quiet. -/
def CutsFrom (pattern : Pattern α) (before : Option Char) : List (Part α) → Text → Prop
  | [], rest => pattern.Quiet before rest []
  | part :: parts, rest =>
    let behind := Cut.toText ⟨parts, rest⟩
    pattern.Quiet before part.gap (part.matched ++ behind) ∧
      pattern.read? (part.gap.getLast?.or before) (part.matched ++ behind) =
        some ⟨part.value, part.matched.length⟩ ∧
      pattern.CutsFrom ((part.gap ++ part.matched).getLast?.or before) parts rest

/-- The cut is that of its text at the leftmost matches. -/
def Cuts (pattern : Pattern α) (cut : Cut α) : Prop :=
  pattern.CutsFrom none cut.parts cut.rest

/-- Scanning a text that is cut at its leftmost matches gives the places of these matches. -/
theorem scanFrom_of_cutsFrom {pattern : Pattern α} {before : Option Char}
    {parts : List (Part α)} {rest : Text} (cuts : pattern.CutsFrom before parts rest)
    (position : Nat) :
    pattern.scanFrom position before 0 (Cut.toText ⟨parts, rest⟩) =
      Cut.spansFrom position parts := by
  induction parts generalizing position before with
  | nil =>
    have quiet : pattern.Quiet before rest [] := cuts
    have passed := scanFrom_of_quiet quiet position
    rw [List.append_nil] at passed
    exact passed
  | cons part parts ih =>
    obtain ⟨quiet, reads, behind⟩ := cuts
    change pattern.scanFrom position before 0 (Cut.cons part ⟨parts, rest⟩).toText = _
    rw [Cut.toText_cons, scanFrom_of_quiet quiet, scanFrom_of_read? reads,
      ← getLast?_append_or, ih behind]
    rfl

/-- Replacing in a text that is cut at its leftmost matches keeps the gaps and the rest. -/
theorem replaceFrom_of_cutsFrom {pattern : Pattern α} {before : Option Char}
    {parts : List (Part α)} {rest : Text} (cuts : pattern.CutsFrom before parts rest)
    (substitute : Text) :
    pattern.replaceFrom substitute before 0 (Cut.toText ⟨parts, rest⟩) =
      Cut.filled substitute ⟨parts, rest⟩ := by
  induction parts generalizing before with
  | nil =>
    have quiet : pattern.Quiet before rest [] := cuts
    have passed := replaceFrom_of_quiet quiet substitute
    rw [List.append_nil] at passed
    simpa [Cut.toText, Cut.filled, replaceFrom] using passed
  | cons part parts ih =>
    obtain ⟨quiet, reads, behind⟩ := cuts
    change pattern.replaceFrom substitute before 0 (Cut.cons part ⟨parts, rest⟩).toText =
      (Cut.cons part ⟨parts, rest⟩).filled substitute
    rw [Cut.toText_cons, replaceFrom_of_quiet quiet, replaceFrom_of_read? reads,
      ← getLast?_append_or, ih behind, Cut.filled_cons]

/-- A text is quiet, or there is a first match in it, behind a quiet gap. -/
theorem quiet_or_first_match (pattern : Pattern α) (before : Option Char) (text : Text) :
    pattern.Quiet before text [] ∨
      ∃ gap matched behind value, text = gap ++ (matched ++ behind) ∧
        pattern.Quiet before gap (matched ++ behind) ∧
        pattern.read? (gap.getLast?.or before) (matched ++ behind) =
          some ⟨value, matched.length⟩ := by
  induction text generalizing before with
  | nil => exact .inl (pattern.quiet_nil before [])
  | cons c rest ih =>
    cases reading : pattern.read? before (c :: rest) with
    | some hit =>
      obtain ⟨value, width⟩ := hit
      have fits : width ≤ (c :: rest).length := pattern.width_le reading
      refine .inr ⟨[], (c :: rest).take width, (c :: rest).drop width, value, ?_, ?_, ?_⟩
      · simp
      · exact pattern.quiet_nil before _
      · rw [List.take_append_drop, List.length_take_of_le fits]
        exact reading
    | none =>
      cases ih (some c) with
      | inl quiet =>
        refine .inl ((pattern.quiet_cons_iff before c rest []).2 ⟨?_, quiet⟩)
        rw [List.append_nil]
        exact reading
      | inr first =>
        obtain ⟨gap, matched, behind, value, split, quiet, reads⟩ := first
        refine .inr ⟨c :: gap, matched, behind, value, ?_, ?_, ?_⟩
        · rw [split, List.cons_append]
        · refine (pattern.quiet_cons_iff before c gap _).2 ⟨?_, quiet⟩
          rw [List.cons_append, ← split]
          exact reading
        · rw [getLast?_or_cons]
          exact reads

/-- Every text can be cut at its leftmost matches. The induction is on the length of the text: what
is left behind the first match is shorter, since a match is not empty. -/
theorem exists_cutsFrom (pattern : Pattern α) (before : Option Char) (text : Text) :
    ∃ parts rest, Cut.toText ⟨parts, rest⟩ = text ∧ pattern.CutsFrom before parts rest := by
  induction size : text.length using Nat.strongRecOn generalizing text before with
  | _ size ih =>
    cases pattern.quiet_or_first_match before text with
    | inl quiet => exact ⟨[], text, rfl, quiet⟩
    | inr first =>
      obtain ⟨gap, matched, behind, value, split, quiet, reads⟩ := first
      have positive := List.length_pos_iff.2 (ne_nil_of_read? reads)
      have lengths := congrArg List.length split
      rw [List.length_append, List.length_append] at lengths
      obtain ⟨parts, rest, whole, cuts⟩ :=
        ih behind.length (by omega) ((gap ++ matched).getLast?.or before) behind rfl
      refine ⟨⟨gap, matched, value⟩ :: parts, rest, ?_, ?_⟩
      · change (Cut.cons ⟨gap, matched, value⟩ ⟨parts, rest⟩).toText = text
        rw [Cut.toText_cons, whole, split]
      · simp only [CutsFrom, whole]
        exact ⟨quiet, reads, cuts⟩

/-- Cuts a text at its leftmost matches. -/
def cut (pattern : Pattern α) (text : Text) : Cut α :=
  Cut.ofSpans 0 text (pattern.scan text)

/-- A cut at the leftmost matches of its own text is the cut of that text. -/
theorem cut_toText_of_cuts {pattern : Pattern α} {cut : Cut α} (cuts : pattern.Cuts cut) :
    pattern.cut cut.toText = cut := by
  have scanned := scanFrom_of_cutsFrom cuts 0
  rw [Pattern.cut, scan, scanned]
  exact Cut.ofSpans_spansFrom 0 cut.parts cut.rest

/-- The cut of a text is at its leftmost matches, and loses nothing of the text. -/
theorem cuts_cut (pattern : Pattern α) (text : Text) :
    pattern.Cuts (pattern.cut text) ∧ (pattern.cut text).toText = text := by
  obtain ⟨parts, rest, whole, cuts⟩ := pattern.exists_cutsFrom none text
  have cutHere : pattern.Cuts ⟨parts, rest⟩ := cuts
  have same := cut_toText_of_cuts cutHere
  rw [whole] at same
  rw [same]
  exact ⟨cuts, whole⟩

/-- The scan reports the matches of the cut in their places. -/
theorem scan_toText_of_cuts {pattern : Pattern α} {cut : Cut α} (cuts : pattern.Cuts cut) :
    pattern.scan cut.toText = cut.spans :=
  scanFrom_of_cutsFrom cuts 0

/-- Whatever a scan finds was read by the pattern over the stretch that it covers. -/
theorem read_of_mem_scan {pattern : Pattern α} {text : Text} {span : Found α}
    (member : span ∈ pattern.scan text) :
    ∃ before matched behind,
      pattern.read? before (matched ++ behind) = some ⟨span.value, matched.length⟩ := by
  obtain ⟨parts, rest, whole, cuts⟩ := pattern.exists_cutsFrom none text
  rw [scan, ← whole, scanFrom_of_cutsFrom cuts] at member
  clear whole
  generalize none = before at cuts
  generalize 0 = position at member
  induction parts generalizing before position with
  | nil => cases member
  | cons part parts ih =>
    obtain ⟨_, reads, later⟩ := cuts
    rcases List.mem_cons.1 member with rfl | behind
    · exact ⟨_, part.matched, _, reads⟩
    · exact ih _ later _ behind

/-- The replacement keeps the gaps of the cut and fills the places of its matches. -/
theorem replace_toText_of_cuts {pattern : Pattern α} {cut : Cut α} (cuts : pattern.Cuts cut)
    (substitute : Text) : pattern.replace substitute cut.toText = cut.filled substitute :=
  replaceFrom_of_cutsFrom cuts substitute

end Pattern

end PhraseAudit
