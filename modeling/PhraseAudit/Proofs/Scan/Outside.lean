import PhraseAudit.Proofs.Scan.Cut

/-!
# What stands outside the matches

The characters of a text whose positions no match covers, each with its position in the whole text.
They come in the order of the text. Replacing every match by nothing leaves just these characters,
so that every stretch of what is left has positions in the text it was taken from.
-/

namespace PhraseAudit

/-- A match covers the positions from its start up to but not including its stop. -/
def Found.Covers {α : Type} (span : Found α) (position : Nat) : Prop :=
  span.start ≤ position ∧ position < span.stop

instance {α : Type} (span : Found α) (position : Nat) : Decidable (span.Covers position) :=
  inferInstanceAs (Decidable (span.start ≤ position ∧ position < span.stop))

/-- Characters with their positions, as far as none of some spans covers them. -/
def uncovered {α : Type} (spans : List (Found α)) (characters : List (Char × Nat)) :
    List (Char × Nat) :=
  characters.filter fun pair => ∀ span ∈ spans, ¬ span.Covers pair.2

/-- The characters of a text that stand outside all matches of a pattern. -/
def Pattern.outside {α : Type} (pattern : Pattern α) (text : Text) : List (Char × Nat) :=
  uncovered (pattern.scan text) text.zipIdx

variable {α : Type}

/-- Characters at positions that no span covers all stay. -/
theorem uncovered_eq_self {spans : List (Found α)} {characters : List (Char × Nat)}
    (free : ∀ pair ∈ characters, ∀ span ∈ spans, ¬ span.Covers pair.2) :
    uncovered spans characters = characters := by
  refine List.filter_eq_self.2 ?_
  intro pair member
  exact decide_eq_true (free pair member)

/-- Characters that some span covers all go. -/
theorem uncovered_eq_nil {spans : List (Found α)} {characters : List (Char × Nat)}
    (covered : ∀ pair ∈ characters, ∃ span ∈ spans, span.Covers pair.2) :
    uncovered spans characters = [] := by
  refine List.filter_eq_nil_iff.2 ?_
  intro pair member kept
  obtain ⟨span, inside, covers⟩ := covered pair member
  exact of_decide_eq_true kept span inside covers

/-- A span that covers none of some characters does not matter for them. -/
theorem uncovered_cons_of_free {span : Found α} {spans : List (Found α)}
    {characters : List (Char × Nat)} (free : ∀ pair ∈ characters, ¬ span.Covers pair.2) :
    uncovered (span :: spans) characters = uncovered spans characters := by
  apply List.filter_congr
  intro pair member
  simp [free pair member]

/-- Taking the uncovered characters goes part by part. -/
theorem uncovered_append (spans : List (Found α)) (front behind : List (Char × Nat)) :
    uncovered spans (front ++ behind) = uncovered spans front ++ uncovered spans behind :=
  List.filter_append front behind

/-- Outside the spans of a cut stand its gaps and its rest. -/
theorem map_uncovered_spansFrom (position : Nat) (parts : List (Part α)) (rest : Text) :
    (uncovered (Cut.spansFrom position parts)
      ((Cut.toText ⟨parts, rest⟩).zipIdx position)).map (·.1) =
        Cut.filled [] ⟨parts, rest⟩ := by
  induction parts generalizing position with
  | nil =>
    have free : uncovered (Cut.spansFrom position ([] : List (Part α))) (rest.zipIdx position) =
        rest.zipIdx position := by
      apply uncovered_eq_self
      intro pair _ span inside
      cases inside
    change (uncovered _ (rest.zipIdx position)).map _ = rest
    rw [free]
    exact List.zipIdx_map_fst position rest
  | cons part parts ih =>
    change (uncovered _ ((Cut.cons part ⟨parts, rest⟩).toText.zipIdx position)).map _ =
      (Cut.cons part ⟨parts, rest⟩).filled []
    have gap : uncovered (Cut.spansFrom position (part :: parts)) (part.gap.zipIdx position) =
        part.gap.zipIdx position := by
      apply uncovered_eq_self
      intro pair member span inside covers
      have bound := List.snd_lt_add_of_mem_zipIdx member
      cases List.mem_cons.1 inside with
      | inl first =>
        subst first
        exact absurd covers.1 (Nat.not_le_of_lt bound)
      | inr later =>
        have begins := Cut.le_start_of_mem_spansFrom later
        have covered := covers.1
        omega
    have matched : uncovered (Cut.spansFrom position (part :: parts))
        (part.matched.zipIdx (position + part.gap.length)) = [] := by
      apply uncovered_eq_nil
      intro pair member
      exact ⟨_, List.mem_cons_self, List.le_snd_of_mem_zipIdx member,
        List.snd_lt_add_of_mem_zipIdx member⟩
    have behind : uncovered (Cut.spansFrom position (part :: parts))
        ((Cut.toText ⟨parts, rest⟩).zipIdx (position + part.gap.length + part.matched.length)) =
          uncovered (Cut.spansFrom (position + part.gap.length + part.matched.length) parts)
            ((Cut.toText ⟨parts, rest⟩).zipIdx
              (position + part.gap.length + part.matched.length)) := by
      apply uncovered_cons_of_free
      intro pair member covers
      exact absurd covers.2 (Nat.not_lt_of_le (List.le_snd_of_mem_zipIdx member))
    rw [Cut.toText_cons, Cut.filled_cons, List.zipIdx_append, List.zipIdx_append,
      uncovered_append, uncovered_append, gap, matched, behind, List.nil_append, List.map_append,
      ih, List.zipIdx_map_fst, List.nil_append]

namespace Pattern

/-- Replacing every match by nothing leaves the characters outside the matches. -/
theorem map_outside (pattern : Pattern α) (text : Text) :
    (pattern.outside text).map (·.1) = pattern.replace [] text := by
  obtain ⟨cuts, whole⟩ := pattern.cuts_cut text
  have scanned := scan_toText_of_cuts cuts
  have replaced := replace_toText_of_cuts cuts []
  rw [whole] at scanned replaced
  rw [outside, scanned, replaced]
  have kept := map_uncovered_spansFrom 0 (pattern.cut text).parts (pattern.cut text).rest
  rw [show Cut.toText ⟨(pattern.cut text).parts, (pattern.cut text).rest⟩ = text from whole] at kept
  exact kept

/-- The characters outside the matches come in the order of the text. -/
theorem outside_increasing (pattern : Pattern α) (text : Text) :
    (pattern.outside text).Pairwise fun earlier later => earlier.2 < later.2 := by
  have numbered : text.zipIdx.Pairwise fun earlier later => earlier.2 < later.2 := by
    refine List.pairwise_map.1 ?_
    rw [show text.zipIdx.map (fun pair => pair.2) = List.range' 0 text.length from
      List.zipIdx_map_snd 0 text]
    exact List.pairwise_lt_range'
  exact numbered.sublist List.filter_sublist

end Pattern

end PhraseAudit
