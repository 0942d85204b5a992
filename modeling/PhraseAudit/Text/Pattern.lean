import PhraseAudit.Text.Basic

/-!
# Patterns and their matches

A pattern says whether a match begins at a place of a text, and how wide it is. The scan takes the
leftmost match, goes on behind it, and so finds matches that are disjoint and in increasing order;
the replacement puts a fixed text in place of each of them. Markers, tags and phrases are all
found by this one scan.
-/

namespace PhraseAudit

/-- A match at the head of a text: what was read, and how many characters it takes. -/
structure Hit (α : Type) where
  value : α
  width : Nat

/-- A pattern reads a match at the head of a text, knowing the character in front of it. A match
takes at least one character, and no more than there are. -/
structure Pattern (α : Type) where
  read? : (before : Option Char) → (rest : Text) → Option (Hit α)
  width_pos : ∀ {before rest hit}, read? before rest = some hit → 0 < hit.width
  width_le : ∀ {before rest hit}, read? before rest = some hit → hit.width ≤ rest.length

/-- A match inside a text: what was read, and the place it takes, from `start` up to but not
including `stop`. -/
structure Found (α : Type) where
  start : Nat
  stop : Nat
  value : α

namespace Pattern

variable {α : Type}

/-- Scans the rest of a text that begins at the given position, after passing over the characters
that belong to the previous match. -/
def scanFrom (pattern : Pattern α) (position : Nat) (before : Option Char) :
    (skip : Nat) → Text → List (Found α)
  | _, [] => []
  | skip + 1, c :: rest => pattern.scanFrom (position + 1) (some c) skip rest
  | 0, c :: rest =>
    match pattern.read? before (c :: rest) with
    | some hit =>
      ⟨position, position + hit.width, hit.value⟩ ::
        pattern.scanFrom (position + 1) (some c) (hit.width - 1) rest
    | none => pattern.scanFrom (position + 1) (some c) 0 rest

/-- The leftmost matches of a text, each beginning at or behind the end of the one before. -/
def scan (pattern : Pattern α) (text : Text) : List (Found α) :=
  pattern.scanFrom 0 none 0 text

/-- Replaces the matches in the rest of a text, after dropping the characters that belong to the
previous match. -/
def replaceFrom (pattern : Pattern α) (substitute : Text) (before : Option Char) :
    (skip : Nat) → Text → Text
  | _, [] => []
  | skip + 1, c :: rest => pattern.replaceFrom substitute (some c) skip rest
  | 0, c :: rest =>
    match pattern.read? before (c :: rest) with
    | some hit => substitute ++ pattern.replaceFrom substitute (some c) (hit.width - 1) rest
    | none => c :: pattern.replaceFrom substitute (some c) 0 rest

/-- The text with the given one in place of each match. -/
def replace (pattern : Pattern α) (substitute : Text) (text : Text) : Text :=
  pattern.replaceFrom substitute none 0 text

/-- Passing over characters is scanning what is left behind them. -/
theorem scanFrom_skip (pattern : Pattern α) (position : Nat) (before : Option Char) (skip : Nat)
    (text : Text) :
    pattern.scanFrom position before skip text =
      pattern.scanFrom (position + skip) ((text.take skip).getLast?.or before) 0
        (text.drop skip) := by
  induction text generalizing position before skip with
  | nil => cases skip <;> simp [scanFrom]
  | cons c rest ih =>
    cases skip with
    | zero => simp
    | succ skip =>
      rw [scanFrom, ih]
      have last : (c :: rest.take skip).getLast?.or before =
          (rest.take skip).getLast?.or (some c) := by
        rw [List.getLast?_cons]
        cases (rest.take skip).getLast? <;> rfl
      simp only [List.take_succ_cons, List.drop_succ_cons, last]
      congr 1
      omega

/-- Dropping characters is replacing in what is left behind them. -/
theorem replaceFrom_skip (pattern : Pattern α) (substitute : Text) (before : Option Char)
    (skip : Nat) (text : Text) :
    pattern.replaceFrom substitute before skip text =
      pattern.replaceFrom substitute ((text.take skip).getLast?.or before) 0
        (text.drop skip) := by
  induction text generalizing before skip with
  | nil => cases skip <;> simp [replaceFrom]
  | cons c rest ih =>
    cases skip with
    | zero => simp
    | succ skip =>
      rw [replaceFrom, ih]
      have last : (c :: rest.take skip).getLast?.or before =
          (rest.take skip).getLast?.or (some c) := by
        rw [List.getLast?_cons]
        cases (rest.take skip).getLast? <;> rfl
      simp only [List.take_succ_cons, List.drop_succ_cons, last]

/-- What is replaced depends only on where the matches are. -/
theorem replaceFrom_congr {β : Type} {pattern : Pattern α} {other : Pattern β}
    (agree : ∀ before rest,
      (pattern.read? before rest).map (·.width) = (other.read? before rest).map (·.width))
    (substitute : Text) (before : Option Char) (skip : Nat) (text : Text) :
    pattern.replaceFrom substitute before skip text =
      other.replaceFrom substitute before skip text := by
  induction text generalizing before skip with
  | nil => cases skip <;> rfl
  | cons c rest ih =>
    cases skip with
    | succ skip => exact ih (some c) skip
    | zero =>
      have here := agree before (c :: rest)
      rw [replaceFrom, replaceFrom]
      cases reading : pattern.read? before (c :: rest) with
      | none =>
        rw [reading] at here
        rw [Option.map_eq_none_iff.1 here.symm]
        exact congrArg (c :: ·) (ih (some c) 0)
      | some hit =>
        rw [reading] at here
        obtain ⟨second, otherReading, width⟩ := Option.map_eq_some_iff.1 here.symm
        simp only [otherReading, width, ih]

/-- A pattern is silent on a text when it reads nothing at any place of it. -/
def Silent (pattern : Pattern α) (text : Text) : Prop :=
  ∀ before rest, rest <:+ text → pattern.read? before rest = none

/-- On a longer text a pattern is silent only if it is silent on the rest. -/
theorem Silent.tail {pattern : Pattern α} {c : Char} {text : Text}
    (silent : pattern.Silent (c :: text)) : pattern.Silent text :=
  fun before rest behind => silent before rest (behind.trans (List.suffix_cons c text))

/-- A silent pattern finds nothing. -/
theorem scanFrom_of_silent {pattern : Pattern α} {text : Text} (silent : pattern.Silent text)
    (position : Nat) (before : Option Char) :
    pattern.scanFrom position before 0 text = [] := by
  induction text generalizing position before with
  | nil => rfl
  | cons c rest ih =>
    rw [scanFrom, silent before (c :: rest) (List.suffix_refl _)]
    exact ih silent.tail (position + 1) (some c)

/-- A silent pattern replaces nothing. -/
theorem replaceFrom_of_silent {pattern : Pattern α} {text : Text} (silent : pattern.Silent text)
    (substitute : Text) (before : Option Char) :
    pattern.replaceFrom substitute before 0 text = text := by
  induction text generalizing before with
  | nil => rfl
  | cons c rest ih =>
    rw [replaceFrom, silent before (c :: rest) (List.suffix_refl _)]
    exact congrArg (c :: ·) (ih silent.tail (some c))

end Pattern

end PhraseAudit
