import PhraseAudit.Text.Lines

/-!
# The one way to split a text into lines

The lines of a text are told by two rules. No line holds a character that ends lines, and a carriage
return with a line feed directly behind it never ends a line by itself. A text has one splitting of
this kind, and this is how it is split. The terminators themselves do not matter then: when all of
them are written in one way, the lines stay what they were.
-/

namespace PhraseAudit.Lines

/-- A line that holds no character that ends lines. -/
def Plain (line : Text) : Prop :=
  '\r' ∉ line ∧ '\n' ∉ line

/-- Lines are told apart exactly when each of them is plain, and no line feed stands directly behind
a carriage return that ends a line by itself. -/
structure Exact (lines : Lines) : Prop where
  plain : ∀ line ∈ lines.complete ++ [lines.rest], Plain line
  alone : ∀ front line behind, lines.ended = front ++ (line, .carriageReturn) :: behind →
    (toText ⟨behind, lines.rest⟩).head? ≠ some '\n'

/-- A line is plain when its first character ends no line and what stands behind is plain. -/
theorem plain_cons_iff (c : Char) (line : Text) :
    Plain (c :: line) ↔ (c ≠ '\r' ∧ c ≠ '\n') ∧ Plain line := by
  simp only [Plain, List.mem_cons, not_or, ne_comm (a := c)]
  exact and_and_and_comm

/-- The text of some lines begins with the first line and its terminator. -/
theorem toText_cons (line : Text) (terminator : Terminator) (ended : List (Text × Terminator))
    (rest : Text) :
    toText ⟨(line, terminator) :: ended, rest⟩ =
      line ++ (terminator.toText ++ toText ⟨ended, rest⟩) := by
  simp [toText]

/-- Without a terminator there is only the rest, which has to be plain. -/
theorem exact_nil_iff (rest : Text) : Exact ⟨[], rest⟩ ↔ Plain rest := by
  constructor
  · intro exact
    exact exact.plain rest List.mem_cons_self
  · intro plain
    refine ⟨fun line member => ?_, fun front line behind split => ?_⟩
    · rw [List.mem_singleton.1 member]
      exact plain
    · cases front <;> cases split

/-- A line in front has to be plain, and its terminator must not belong to what stands behind. -/
theorem exact_cons_iff (line : Text) (terminator : Terminator) (ended : List (Text × Terminator))
    (rest : Text) :
    Exact ⟨(line, terminator) :: ended, rest⟩ ↔
      Plain line ∧
      (terminator = .carriageReturn → (toText ⟨ended, rest⟩).head? ≠ some '\n') ∧
      Exact ⟨ended, rest⟩ := by
  constructor
  · rintro ⟨plain, alone⟩
    refine ⟨plain line List.mem_cons_self, ?_, ?_, ?_⟩
    · rintro rfl
      exact alone [] line ended rfl
    · intro other member
      exact plain other (List.mem_cons_of_mem _ member)
    · intro front other behind split
      exact alone ((line, terminator) :: front) other behind (congrArg ((line, terminator) :: ·) split)
  · rintro ⟨plain, apart, exact⟩
    refine ⟨fun other member => ?_, fun front other behind split => ?_⟩
    · rcases List.mem_cons.1 member with rfl | later
      · exact plain
      · exact exact.plain other later
    · cases front with
      | nil =>
        cases split
        exact apart rfl
      | cons first front =>
        obtain ⟨_, later⟩ := List.cons.inj split
        exact exact.alone front other behind later

/-- One more character in front, which ends no line, leaves the lines told apart. -/
theorem Exact.addChar {c : Char} {lines : Lines} (exact : lines.Exact) (notReturn : c ≠ '\r')
    (notFeed : c ≠ '\n') : (lines.addChar c).Exact := by
  obtain ⟨ended, rest⟩ := lines
  have longer : ∀ {line : Text}, Plain line → Plain (c :: line) := fun plain =>
    (plain_cons_iff c _).2 ⟨⟨notReturn, notFeed⟩, plain⟩
  cases ended with
  | nil => exact (exact_nil_iff _).2 (longer ((exact_nil_iff rest).1 exact))
  | cons first ended =>
    obtain ⟨line, terminator⟩ := first
    obtain ⟨plain, apart, later⟩ := (exact_cons_iff _ _ _ _).1 exact
    exact (exact_cons_iff _ _ _ _).2 ⟨longer plain, apart, later⟩

/-- A text is split exactly. -/
theorem exact_ofText (text : Text) : (ofText text).Exact := by
  fun_induction ofText text with
  | case1 => exact (exact_nil_iff []).2 ⟨List.not_mem_nil, List.not_mem_nil⟩
  | case2 text ih =>
    refine (exact_cons_iff _ _ _ _).2 ⟨⟨List.not_mem_nil, List.not_mem_nil⟩, fun other => ?_, ih⟩
    cases other
  | case3 text notFollowed ih =>
    refine (exact_cons_iff _ _ _ _).2 ⟨⟨List.not_mem_nil, List.not_mem_nil⟩, fun _ => ?_, ih⟩
    have whole : toText ⟨(ofText text).ended, (ofText text).rest⟩ = text := toText_ofText text
    rw [whole]
    intro follows
    obtain ⟨behind, rfl⟩ := List.head?_eq_some_iff.1 follows
    exact notFollowed behind rfl
  | case4 text ih =>
    refine (exact_cons_iff _ _ _ _).2 ⟨⟨List.not_mem_nil, List.not_mem_nil⟩, fun other => ?_, ih⟩
    cases other
  | case5 c text notBoth notReturn notFeed ih =>
    exact ih.addChar notReturn notFeed

/-- A text that begins with a plain line is split behind it, and the line joins what comes first. -/
theorem ofText_append {line : Text} (plain : Plain line) (text : Text) :
    ofText (line ++ text) = line.foldr addChar (ofText text) := by
  induction line with
  | nil => rfl
  | cons c line ih =>
    obtain ⟨⟨notReturn, notFeed⟩, plain⟩ := (plain_cons_iff c line).1 plain
    rw [List.foldr_cons, ← ih plain, List.cons_append]
    exact ofText.eq_5 c (line ++ text) (fun _ same => absurd same notReturn) notReturn notFeed

/-- A text that begins with a terminator is split behind it, unless it is a part of a longer one. -/
theorem ofText_terminator {terminator : Terminator} {text : Text}
    (apart : terminator = .carriageReturn → text.head? ≠ some '\n') :
    ofText (terminator.toText ++ text) = (ofText text).addLine terminator := by
  cases terminator with
  | lineFeed => exact ofText.eq_4 text
  | both => exact ofText.eq_2 text
  | carriageReturn =>
    refine ofText.eq_3 text fun behind follows => ?_
    exact apart rfl (follows ▸ rfl)

/-- Characters in front of an empty ended line make up this line. -/
theorem foldr_addChar_addLine (line : Text) (terminator : Terminator) (lines : Lines) :
    line.foldr addChar (lines.addLine terminator) =
      ⟨(line, terminator) :: lines.ended, lines.rest⟩ := by
  induction line with
  | nil => rfl
  | cons c line ih =>
    rw [List.foldr_cons, ih]
    rfl

/-- Characters in front of nothing make up the rest. -/
theorem foldr_addChar_nil (line : Text) : line.foldr addChar ⟨[], []⟩ = ⟨[], line⟩ := by
  induction line with
  | nil => rfl
  | cons c line ih =>
    rw [List.foldr_cons, ih]
    rfl

/-- Lines that are told apart exactly are those into which their text is split. The induction is on
the lines that are ended, each of which is split off with its terminator. -/
theorem Exact.ofText_toText {lines : Lines} (exact : lines.Exact) : ofText lines.toText = lines := by
  obtain ⟨ended, rest⟩ := lines
  induction ended with
  | nil =>
    have plain := (exact_nil_iff rest).1 exact
    have whole : toText ⟨[], rest⟩ = rest ++ [] := (List.append_nil rest).symm
    rw [whole, ofText_append plain, ofText, foldr_addChar_nil]
  | cons first ended ih =>
    obtain ⟨line, terminator⟩ := first
    obtain ⟨plain, apart, later⟩ := (exact_cons_iff _ _ _ _).1 exact
    rw [toText_cons, ofText_append plain, ofText_terminator apart, ih later, foldr_addChar_addLine]

/-- The lines with every terminator written in the given way. -/
def endedBy (terminator : Terminator) (lines : Lines) : Lines :=
  { lines with ended := lines.ended.map fun pair => (pair.1, terminator) }

/-- The lines do not depend on how the terminators are written. -/
theorem all_endedBy (terminator : Terminator) (lines : Lines) :
    (lines.endedBy terminator).all = lines.all := by
  have same : (lines.endedBy terminator).complete = lines.complete := by
    simp only [complete, endedBy, List.map_map, Function.comp_def]
  simp only [all, same]
  rfl

/-- Where carriage returns end all lines, no line feed comes first. -/
theorem Exact.head?_toText_endedBy {lines : Lines} (exact : lines.Exact) :
    (lines.endedBy .carriageReturn).toText.head? ≠ some '\n' := by
  have not_first : ∀ {line text : Text}, Plain line → text.head? ≠ some '\n' →
      (line ++ text).head? ≠ some '\n' := by
    intro line text plain behind
    cases line with
    | nil => exact behind
    | cons c line =>
      intro first
      cases first
      exact plain.2 List.mem_cons_self
  obtain ⟨ended, rest⟩ := lines
  cases ended with
  | nil =>
    have whole : (endedBy .carriageReturn ⟨[], rest⟩).toText = rest ++ [] :=
      (List.append_nil rest).symm
    rw [whole]
    exact not_first ((exact_nil_iff rest).1 exact) nofun
  | cons first ended =>
    obtain ⟨line, terminator⟩ := first
    obtain ⟨plain, _, _⟩ := (exact_cons_iff _ _ _ _).1 exact
    rw [endedBy, List.map_cons, toText_cons]
    exact not_first plain (show some '\r' ≠ some '\n' by decide)

/-- Lines stay told apart when every terminator is written in one way. -/
theorem Exact.endedBy {lines : Lines} (exact : lines.Exact) (terminator : Terminator) :
    (lines.endedBy terminator).Exact := by
  obtain ⟨ended, rest⟩ := lines
  induction ended with
  | nil => exact exact
  | cons first ended ih =>
    obtain ⟨plain, _, later⟩ := (exact_cons_iff _ _ _ _).1 exact
    refine (exact_cons_iff _ _ _ _).2 ⟨plain, ?_, ih later⟩
    rintro rfl
    exact later.head?_toText_endedBy

/-- Where the lines are told apart, each of them is plain. -/
theorem Exact.plain_of_mem_all {lines : Lines} (exact : lines.Exact) {line : Text}
    (member : line ∈ lines.all) : Plain line := by
  refine exact.plain line ?_
  unfold all at member
  split at member
  · exact List.mem_append_left _ member
  · exact member

/-- There is a line for every terminator, and one more for a rest that is not empty. -/
theorem length_all (lines : Lines) :
    lines.all.length = lines.ended.length + if lines.rest = [] then 0 else 1 := by
  unfold all complete
  split
  · rename_i empty
    rw [if_pos (List.isEmpty_iff.1 empty), List.length_map, Nat.add_zero]
  · rename_i nonempty
    rw [if_neg (mt List.isEmpty_iff.2 nonempty), List.length_append, List.length_map]
    rfl

/-- Nothing is taken off a plain line. -/
theorem withoutEnd_of_plain {line : Text} (plain : Plain line) : withoutEnd line = line := by
  unfold withoutEnd
  cases reversed : line.reverse with
  | nil => exact (List.reverse_eq_nil_iff.1 reversed).symm
  | cons c front =>
    have member : c ∈ line := List.mem_reverse.1 (reversed ▸ List.mem_cons_self)
    have kept : ¬ (decide (c = '\r') || decide (c = '\n')) = true := by
      rw [Bool.or_eq_true, decide_eq_true_iff, decide_eq_true_iff]
      rintro (rfl | rfl)
      · exact plain.1 member
      · exact plain.2 member
    rw [List.dropWhile_cons, if_neg kept, ← reversed, List.reverse_reverse]

/-- Of a plain line that is ended, just the terminator is taken off. -/
theorem withoutEnd_append {line : Text} (plain : Plain line) (terminator : Terminator) :
    withoutEnd (line ++ terminator.toText) = line := by
  have bare := withoutEnd_of_plain plain
  unfold withoutEnd at bare ⊢
  rw [List.reverse_append]
  cases terminator <;> exact bare

/-- The ended lines are those of the text without their ends. -/
theorem Exact.map_withoutEnd_endedPieces {lines : Lines} (exact : lines.Exact) :
    lines.endedPieces.map withoutEnd = lines.complete := by
  rw [endedPieces, List.map_map, complete]
  refine List.map_congr_left fun ⟨line, terminator⟩ member => ?_
  exact withoutEnd_append
    (exact.plain line (List.mem_append_left _ (List.mem_map_of_mem member))) terminator

/-- All lines are those of the text without their ends. -/
theorem Exact.map_withoutEnd_pieces {lines : Lines} (exact : lines.Exact) :
    lines.pieces.map withoutEnd = lines.all := by
  unfold pieces all
  split
  · exact exact.map_withoutEnd_endedPieces
  · rw [List.map_append, exact.map_withoutEnd_endedPieces, List.map_singleton,
      withoutEnd_of_plain (exact.plain _ (List.mem_append_right _ List.mem_cons_self))]

end PhraseAudit.Lines
