import Mathlib.Data.List.Forall2
import PhraseAudit.Text.Folded

/-!
# Matching one letter against another

When a letter is searched for, it stands for a group of small letters, and the characters of the
text are made small before they are looked up in the group. Seen so, the two sides are not treated
alike: only the letter has a group, and only the character is made small and no more. Here the
groups are written down as they are, and this one-sided matching is shown to be the comparison of
representatives that the search makes. It is an equivalence for this reason, and two texts match
letter by letter exactly when they are the same up to case.
-/

namespace PhraseAudit.Unicode

/-- The groups of small letters that stand for one another, besides each letter for itself. -/
def letterGroups : List (List Nat) := [
  [0x69, 0x131], [0x73, 0x17F], [0xB5, 0x3BC], [0x345, 0x3B9, 0x1FBE], [0x390, 0x1FD3],
  [0x3B0, 0x1FE3], [0x3B2, 0x3D0], [0x3B5, 0x3F5], [0x3B8, 0x3D1], [0x3BA, 0x3F0],
  [0x3C0, 0x3D6], [0x3C1, 0x3F1], [0x3C2, 0x3C3], [0x3C6, 0x3D5], [0x432, 0x1C80],
  [0x434, 0x1C81], [0x43E, 0x1C82], [0x441, 0x1C83], [0x442, 0x1C84, 0x1C85], [0x44A, 0x1C86],
  [0x463, 0x1C87], [0x1C88, 0xA64B], [0x1E61, 0x1E9B], [0xFB05, 0xFB06]]

/-- The codes of the small letters that a small letter stands for. -/
def standsFor (code : Nat) : List Nat :=
  (letterGroups.find? fun group => code ∈ group).getD [code]

/-- A letter that is searched for matches a character when it stands for its small letter. -/
def Matches (letter c : Char) : Prop :=
  (lower c).toNat ∈ standsFor (lower letter).toNat

instance (letter c : Char) : Decidable (Matches letter c) :=
  inferInstanceAs (Decidable ((lower c).toNat ∈ standsFor (lower letter).toNat))

/-- The code of the ordinary form of a small letter. -/
def plainCode (code : Nat) : Nat :=
  (variantForms.lookup code).getD code

/-- The letters of a group have one ordinary form. -/
theorem plainCode_eq_of_group : ∀ group ∈ letterGroups, ∀ first ∈ group, ∀ second ∈ group,
    plainCode first = plainCode second := by
  decide

/-- Two letters with one ordinary form, and the ordinary form itself, are in one group. -/
theorem mem_standsFor_of_variants : ∀ one ∈ variantForms,
    one.2 ∈ standsFor one.1 ∧ one.1 ∈ standsFor one.2 ∧
      ∀ other ∈ variantForms, one.2 = other.2 → other.1 ∈ standsFor one.1 := by
  decide

/-- Ordinary forms are made of valid codes. -/
theorem isValidChar_of_variant : ∀ pair ∈ variantForms, pair.2.isValidChar := by
  decide

/-- Each letter stands for itself. -/
theorem mem_standsFor_self (code : Nat) : code ∈ standsFor code := by
  unfold standsFor
  cases found : letterGroups.find? fun group => code ∈ group with
  | none => exact List.mem_singleton_self code
  | some group => simpa using List.find?_some found

/-- A pair that is looked up is in the table. -/
theorem mem_variantForms_of_lookup {code plain : Nat}
    (found : variantForms.lookup code = some plain) : (code, plain) ∈ variantForms := by
  obtain ⟨front, behind, split, _⟩ := List.lookup_eq_some_iff.1 found
  rw [split]
  exact List.mem_append_right _ List.mem_cons_self

/-- A letter stands for those that have the same ordinary form. The cases are those of the table:
each of the two letters is a second form, or is its own ordinary form. -/
theorem mem_standsFor_iff (letter code : Nat) :
    code ∈ standsFor letter ↔ plainCode letter = plainCode code := by
  constructor
  · intro member
    unfold standsFor at member
    cases found : letterGroups.find? fun group => letter ∈ group with
    | none =>
      rw [found] at member
      rw [List.mem_singleton.1 member]
    | some group =>
      rw [found] at member
      have inside : letter ∈ group := by simpa using List.find?_some found
      exact plainCode_eq_of_group group (List.mem_of_find?_eq_some found) letter inside code member
  · intro same
    unfold plainCode at same
    cases left : variantForms.lookup letter with
    | none =>
      cases right : variantForms.lookup code with
      | none =>
        rw [left, right] at same
        obtain rfl : letter = code := same
        exact mem_standsFor_self letter
      | some plain =>
        rw [left, right] at same
        obtain rfl : letter = plain := same
        exact (mem_standsFor_of_variants _ (mem_variantForms_of_lookup right)).2.1
    | some plain =>
      have one := mem_standsFor_of_variants _ (mem_variantForms_of_lookup left)
      cases right : variantForms.lookup code with
      | none =>
        rw [left, right] at same
        obtain rfl : plain = code := same
        exact one.1
      | some other =>
        rw [left, right] at same
        exact one.2.2 _ (mem_variantForms_of_lookup right) same

/-- The ordinary form of a character has the ordinary form of its code. -/
theorem toNat_plainForm (c : Char) : (plainForm c).toNat = plainCode c.toNat := by
  unfold plainForm plainCode
  cases found : variantForms.lookup c.toNat with
  | none => rfl
  | some code =>
    have valid := isValidChar_of_variant _ (mem_variantForms_of_lookup found)
    exact congrArg Char.toNat (dif_pos valid)

/-- Matching is having one representative, and so treats both sides alike. -/
theorem matches_iff (letter c : Char) : Matches letter c ↔ fold letter = fold c := by
  rw [Matches, mem_standsFor_iff, ← toNat_plainForm, ← toNat_plainForm]
  exact Char.toNat_inj

/-- Matching is an equivalence on all characters. -/
theorem matches_equivalence : Equivalence Matches where
  refl c := (matches_iff c c).2 rfl
  symm same := (matches_iff _ _).2 ((matches_iff _ _).1 same).symm
  trans one two := (matches_iff _ _).2 (((matches_iff _ _).1 one).trans ((matches_iff _ _).1 two))

/-- Two texts are the same up to case when they match letter by letter. -/
theorem sameUpToCase_iff_forall₂ (word text : Text) :
    Text.SameUpToCase word text ↔ List.Forall₂ Matches word text := by
  induction word generalizing text with
  | nil => cases text <;> simp [Text.SameUpToCase]
  | cons letter word ih =>
    cases text with
    | nil => simp [Text.SameUpToCase]
    | cons c text =>
      have behind := ih text
      rw [Text.SameUpToCase] at behind ⊢
      rw [List.map_cons, List.map_cons, List.cons.injEq, List.forall₂_cons, behind, matches_iff]

end PhraseAudit.Unicode
