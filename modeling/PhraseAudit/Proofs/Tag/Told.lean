import Mathlib.Data.List.TakeWhile
import PhraseAudit.Line
import PhraseAudit.Proofs.Scan.Places
import PhraseAudit.Proofs.Tag.Blanking

/-!
# The one way to tell the tags of a text

A tag holds at least one character between its brackets, and no closing bracket. An opening bracket
that begins no tag is stray: a closing bracket stands directly behind it, or none anywhere behind it.
A text can be cut in one way into tags and gaps in which every opening bracket is stray, and a scan
for tags finds this cut.

A stray bracket in front of a tag has its closing bracket in the same gap. So it stays stray when the
tag gives way to a space, and no tag is left where the tags were blanked out.
-/

namespace PhraseAudit.Tag

/-- How a tag is written. -/
def IsTag (text : Text) : Prop :=
  ∃ inside, inside ≠ [] ∧ '>' ∉ inside ∧ text = '<' :: (inside ++ ['>'])

/-- An opening bracket in front of a text is stray when the text begins with a closing bracket, or
holds none. -/
def Stray (behind : Text) : Prop :=
  behind.head? = some '>' ∨ '>' ∉ behind

/-- Every opening bracket of a gap is stray, given the text behind the gap. -/
def AllStray (gap behind : Text) : Prop :=
  ∀ front rest, gap = front ++ '<' :: rest → Stray (rest ++ behind)

/-- A cut tells the tags of its text when each match is a tag with its inside, and each opening
bracket outside the matches is stray. -/
structure ToldBy (cut : Cut Text) : Prop where
  tags : ∀ part ∈ cut.parts, part.value ≠ [] ∧ '>' ∉ part.value ∧
    part.matched = '<' :: (part.value ++ ['>'])
  gaps : ∀ before part behind, cut.parts = before ++ part :: behind →
    AllStray part.gap (part.matched ++ Cut.toText ⟨behind, cut.rest⟩)
  rest : AllStray cut.rest []

/-! ## Stray brackets -/

/-- In an empty gap there is no bracket. -/
theorem allStray_nil (behind : Text) : AllStray [] behind := by
  intro front rest split
  simp at split

/-- A longer gap has stray brackets only when its first character is none or a stray one, and the rest
of it has stray brackets only. -/
theorem allStray_cons_iff (c : Char) (gap behind : Text) :
    AllStray (c :: gap) behind ↔ (c = '<' → Stray (gap ++ behind)) ∧ AllStray gap behind := by
  constructor
  · intro stray
    refine ⟨?_, fun front rest split => stray (c :: front) rest (by rw [split, List.cons_append])⟩
    rintro rfl
    exact stray [] gap rfl
  · rintro ⟨first, others⟩ front rest split
    cases front with
    | nil =>
      obtain ⟨rfl, rfl⟩ := List.cons.inj split
      exact first rfl
    | cons d front =>
      obtain ⟨rfl, inner⟩ := List.cons.inj split
      exact others front rest inner

/-- Two gaps behind one another have stray brackets only when each of them has in its place. -/
theorem allStray_append_iff (gap more behind : Text) :
    AllStray (gap ++ more) behind ↔ AllStray gap (more ++ behind) ∧ AllStray more behind := by
  induction gap with
  | nil => exact (and_iff_right (allStray_nil _)).symm
  | cons c gap ih =>
    rw [List.cons_append, allStray_cons_iff, allStray_cons_iff, ih, List.append_assoc, and_assoc]

/-- A tag is read exactly where its inside is written between two brackets, the first of which closes
it. -/
theorem read?_eq_some_iff (text inside : Text) :
    read? text = some inside ↔
      inside ≠ [] ∧ '>' ∉ inside ∧ ∃ behind, text = '<' :: (inside ++ '>' :: behind) := by
  constructor
  · intro success
    have written := eq_of_read? success
    unfold read? at success
    split at success
    · rename_i rest
      split at success
      · cases success
      · split at success
        · cases success
        · rename_i proper
          obtain rfl := Option.some.inj success
          refine ⟨proper, fun closing => ?_, written⟩
          exact absurd (List.mem_takeWhile_imp closing) (by decide)
    · cases success
  · rintro ⟨proper, plain, behind, rfl⟩
    have inner : ∀ c ∈ inside, isInner c = true := by
      intro c member
      exact bne_iff_ne.2 fun same => plain (same ▸ member)
    have stops : isInner '>' = false := by decide
    have taken : (inside ++ '>' :: behind).takeWhile isInner = inside := by
      rw [List.takeWhile_append_of_pos inner, List.takeWhile_cons, if_neg (by simp [stops]),
        List.append_nil]
    have left : (inside ++ '>' :: behind).dropWhile isInner = '>' :: behind := by
      rw [List.dropWhile_append_of_pos inner, List.dropWhile_cons, if_neg (by simp [stops])]
    simp only [read?, left, taken, if_neg proper]

/-- Nothing is read at a character exactly when it is no opening bracket or a stray one. -/
theorem read?_eq_none_iff (c : Char) (behind : Text) :
    read? (c :: behind) = none ↔ (c = '<' → Stray behind) := by
  constructor
  · rintro nothing rfl
    by_cases closing : '>' ∈ behind
    · obtain ⟨inside, rest, rfl, plain⟩ := List.eq_append_cons_of_mem closing
      by_cases empty : inside = []
      · exact .inl (by rw [empty, List.nil_append, List.head?_cons])
      · have reads := (read?_eq_some_iff _ inside).2 ⟨empty, plain, rest, rfl⟩
        cases nothing.symm.trans reads
    · exact .inr closing
  · intro stray
    cases reading : read? (c :: behind) with
    | none => rfl
    | some inside =>
      obtain ⟨proper, plain, rest, whole⟩ := (read?_eq_some_iff _ inside).1 reading
      obtain ⟨rfl, rfl⟩ := List.cons.inj whole
      rcases stray rfl with first | unclosed
      · obtain ⟨d, others, rfl⟩ := List.exists_cons_of_ne_nil proper
        rw [List.cons_append, List.head?_cons] at first
        exact absurd (Option.some.inj first ▸ List.mem_cons_self) plain
      · exact absurd (List.mem_append_right _ List.mem_cons_self) unclosed

/-- No tag begins in a gap exactly when its opening brackets are stray, whatever stands in front. -/
theorem quiet_iff_allStray (before : Option Char) (gap behind : Text) :
    pattern.Quiet before gap behind ↔ AllStray gap behind := by
  induction gap generalizing before with
  | nil => exact iff_of_true (pattern.quiet_nil before behind) (allStray_nil behind)
  | cons c gap ih =>
    rw [Pattern.quiet_cons_iff, allStray_cons_iff, ih, ← read?_eq_none_iff, List.cons_append]
    simp [pattern]

/-! ## The cut at the tags -/

/-- A match is read exactly where a tag with its inside is written. -/
theorem reads_iff (before : Option Char) (matched behind inside : Text) :
    pattern.read? before (matched ++ behind) = some ⟨inside, matched.length⟩ ↔
      inside ≠ [] ∧ '>' ∉ inside ∧ matched = '<' :: (inside ++ ['>']) := by
  constructor
  · intro reads
    have written := matched_eq_of_read? reads
    obtain ⟨found, success, same⟩ := Option.map_eq_some_iff.1 reads
    obtain ⟨rfl, _⟩ := Hit.mk.inj same
    obtain ⟨proper, plain, _⟩ := (read?_eq_some_iff _ _).1 success
    exact ⟨proper, plain, written⟩
  · rintro ⟨proper, plain, rfl⟩
    have success := (read?_eq_some_iff _ inside).2 ⟨proper, plain, behind, rfl⟩
    simp [pattern, success]

/-- Without a match, the brackets of the whole text have to be stray. -/
theorem toldBy_nil_iff (rest : Text) : ToldBy ⟨[], rest⟩ ↔ AllStray rest [] := by
  constructor
  · exact ToldBy.rest
  · intro stray
    refine ⟨fun part member => absurd member List.not_mem_nil, fun before part behind split => ?_, stray⟩
    cases before <;> cases split

/-- A match in front has to be a tag, and the gap before it a gap between tags. -/
theorem toldBy_cons_iff (part : Part Text) (parts : List (Part Text)) (rest : Text) :
    ToldBy ⟨part :: parts, rest⟩ ↔
      AllStray part.gap (part.matched ++ Cut.toText ⟨parts, rest⟩) ∧
      (part.value ≠ [] ∧ '>' ∉ part.value ∧ part.matched = '<' :: (part.value ++ ['>'])) ∧
      ToldBy ⟨parts, rest⟩ := by
  constructor
  · rintro ⟨tags, gaps, stray⟩
    refine ⟨gaps [] part parts rfl, tags part List.mem_cons_self, ?_, ?_, stray⟩
    · exact fun other member => tags other (List.mem_cons_of_mem _ member)
    · intro before other behind split
      exact gaps (part :: before) other behind (congrArg (part :: ·) split)
  · rintro ⟨gap, tag, tags, gaps, stray⟩
    refine ⟨List.forall_mem_cons.2 ⟨tag, tags⟩, fun before other behind split => ?_, stray⟩
    cases before with
    | nil =>
      obtain ⟨rfl, rfl⟩ := List.cons.inj split
      exact gap
    | cons first before =>
      obtain ⟨_, later⟩ := List.cons.inj split
      exact gaps before other behind later

/-- A cut tells the tags of its text exactly when it is the cut at the leftmost matches. -/
theorem toldBy_iff_cutsFrom (before : Option Char) (parts : List (Part Text)) (rest : Text) :
    ToldBy ⟨parts, rest⟩ ↔ pattern.CutsFrom before parts rest := by
  induction parts generalizing before with
  | nil => exact (toldBy_nil_iff rest).trans (quiet_iff_allStray before rest []).symm
  | cons part parts ih =>
    rw [toldBy_cons_iff, Pattern.CutsFrom, quiet_iff_allStray, reads_iff, ← ih]

/-! ## What blanking leaves -/

/-- A stray bracket in front of a tag is closed before the tag begins, whatever stands behind it. -/
theorem AllStray.in_front_of_tag {gap inside behind : Text}
    (stray : AllStray gap ('<' :: (inside ++ ['>']) ++ behind)) (other : Text) :
    AllStray gap other := by
  rintro front rest rfl
  rcases stray front rest rfl with first | unclosed
  · cases rest with
    | nil => cases first
    | cons c rest => exact .inl first
  · exact absurd (by simp) unclosed

/-- With a space in place of each tag, every opening bracket is stray. The induction is on the tags:
the gap in front of a tag keeps its stray brackets, and a space is no bracket. -/
theorem allStray_filled {parts : List (Part Text)} {rest : Text} (told : ToldBy ⟨parts, rest⟩) :
    AllStray (Cut.filled [' '] ⟨parts, rest⟩) [] := by
  induction parts with
  | nil => exact told.rest
  | cons part parts ih =>
    obtain ⟨gap, ⟨_, _, written⟩, behind⟩ := (toldBy_cons_iff part parts rest).1 told
    have filled : Cut.filled [' '] ⟨part :: parts, rest⟩ =
        part.gap ++ ' ' :: Cut.filled [' '] ⟨parts, rest⟩ := Cut.filled_cons [' '] part ⟨parts, rest⟩
    rw [written] at gap
    rw [filled, allStray_append_iff, allStray_cons_iff]
    exact ⟨gap.in_front_of_tag _, fun same => absurd same (by decide), ih behind⟩

/-- A text in which every opening bracket is stray holds no tag. -/
theorem AllStray.not_isTag {text tag : Text} (stray : AllStray text []) (inside : tag <:+: text) :
    ¬ IsTag tag := by
  rintro ⟨inner, proper, plain, rfl⟩
  obtain ⟨front, behind, rfl⟩ := inside
  rw [List.append_assoc, List.cons_append] at stray
  have bracket := stray front _ rfl
  rw [List.append_nil, List.append_assoc, List.singleton_append] at bracket
  have reads := (read?_eq_some_iff _ inner).2 ⟨proper, plain, behind, rfl⟩
  cases ((read?_eq_none_iff '<' _).2 fun _ => bracket).symm.trans reads

/-- A text in which every opening bracket is stray is left as it is. -/
theorem AllStray.blank_eq_self {text : Text} (stray : AllStray text []) : blank text = text := by
  have cuts := (toldBy_iff_cutsFrom none [] text).1 ((toldBy_nil_iff text).2 stray)
  have kept := Pattern.replaceFrom_of_cutsFrom cuts [' ']
  rw [blank_eq]
  exact kept

/-- Every tag gives way to something that is shorter by two characters at least. -/
theorem length_filled_add_le {parts : List (Part Text)} {rest : Text}
    (told : ToldBy ⟨parts, rest⟩) :
    (Cut.filled [' '] ⟨parts, rest⟩).length + 2 * parts.length ≤
      (Cut.toText ⟨parts, rest⟩).length := by
  induction parts with
  | nil => simp [Cut.filled, Cut.toText]
  | cons part parts ih =>
    obtain ⟨_, ⟨proper, _, written⟩, behind⟩ := (toldBy_cons_iff part parts rest).1 told
    have width := List.length_pos_iff.2 proper
    have matched := congrArg List.length written
    have whole := congrArg List.length (Cut.toText_cons part ⟨parts, rest⟩)
    have filled := congrArg List.length (Cut.filled_cons [' '] part ⟨parts, rest⟩)
    change (Cut.toText ⟨part :: parts, rest⟩).length = _ at whole
    change (Cut.filled [' '] ⟨part :: parts, rest⟩).length = _ at filled
    simp only [List.length_append, List.length_cons, List.length_nil] at matched whole filled
    have others := ih behind
    simp only [whole, filled, List.length_cons]
    omega

/-- What is searched of a text is not longer than the text. -/
theorem length_searchable_le (stripTags : Bool) (text : Text) :
    (Line.searchable stripTags text).length ≤ text.length := by
  have removed := MarkerBlock.pattern.length_replace_add_widths text
  rw [← Marker.remove_eq] at removed
  obtain ⟨parts, rest, whole, cuts⟩ := pattern.exists_cutsFrom none (Marker.remove text)
  have blanked := length_filled_add_le ((toldBy_iff_cutsFrom none parts rest).2 cuts)
  have replaced := Pattern.replaceFrom_of_cutsFrom cuts [' ']
  rw [whole] at blanked replaced
  rw [← replaced] at blanked
  unfold Line.searchable
  split
  · rw [blank_eq, Pattern.replace]
    omega
  · omega

/-- Blanking takes the tags of a text and nothing else, and leaves none.

There is one way to cut the text into tags and gaps in which every opening bracket has a closing one
directly behind it or none anywhere behind it. What is left is this cut with a space in place of each
tag, so that it is shorter by two characters for each tag at least. No tag is left in it, and a second
time nothing is blanked. Passing over texts that lack a bracket changes nothing. What is searched of a
line, with the tags blanked or kept, is not longer than the line. -/
theorem blank_leaves_no_tag (text : Text) :
    (∃ cut : Cut Text, ToldBy cut ∧ cut.toText = text ∧
      (∀ other, ToldBy other → other.toText = text → other = cut) ∧
      blank text = cut.filled [' '] ∧
      (blank text).length + 2 * cut.parts.length ≤ text.length) ∧
    (∀ tag, IsTag tag → ¬ tag <:+: blank text) ∧
    blank (blank text) = blank text ∧
    blank text = pattern.replace [' '] text ∧
    ∀ stripTags, (Line.searchable stripTags text).length ≤ text.length := by
  obtain ⟨cuts, whole⟩ := pattern.cuts_cut text
  have told := (toldBy_iff_cutsFrom none (pattern.cut text).parts (pattern.cut text).rest).2 cuts
  have blanked : blank text = (pattern.cut text).filled [' '] := by
    rw [blank_eq, ← Pattern.replace_toText_of_cuts cuts, whole]
  have stray : AllStray (blank text) [] := blanked ▸ allStray_filled told
  have shorter := length_filled_add_le told
  rw [← blanked, whole] at shorter
  refine ⟨⟨pattern.cut text, told, whole, ?_, blanked, shorter⟩, ?_, stray.blank_eq_self,
    blank_eq text, fun stripTags => length_searchable_le stripTags text⟩
  · rintro other toldAlso rfl
    have cutsAlso := (toldBy_iff_cutsFrom none other.parts other.rest).1 toldAlso
    exact (Pattern.cut_toText_of_cuts cutsAlso).symm
  · exact fun tag isTag inside => stray.not_isTag inside isTag

/-- Tags that hold another opening bracket and a line feed, and brackets that begin none. -/
example : blank "a<<b
>c<>d<e>>f<".toList = "a c<>d >f<".toList := by
  decide

end PhraseAudit.Tag
