import PhraseAudit.Unicode.Lowercase

/-!
# The spellings of a letter

The tables of casing lead from a character to the representative of its case class. Going through
them backwards gives all characters of a class, a short list. What holds of each character of a
class can so be settled by looking at the list.
-/

namespace PhraseAudit.Unicode

/-- The capitals whose small letter has the given code. -/
def capitalsOf (code : Nat) : List Nat :=
  capitalRuns.filterMap fun run =>
    let capital := ((code : Int) - run.shift).toNat
    if run.contains capital then some capital else none

/-- The small letters whose ordinary form has the given code. -/
def variantsOf (code : Nat) : List Nat :=
  variantForms.filterMap fun (variant, plain) => if plain = code then some variant else none

/-- The codes of a case class, by the code of its representative. -/
def spellings (code : Nat) : List Nat :=
  (code :: variantsOf code).flatMap fun small => small :: capitalsOf small

/-- A character that is not the null character is made of its own code only. -/
theorem eq_toNat_of_ofNat_eq {code : Nat} {c : Char} (proper : c ≠ '\x00')
    (same : Char.ofNat code = c) : code = c.toNat := by
  by_cases valid : code.isValidChar
  · have made : Char.ofNat code = Char.ofNatAux code valid := dif_pos valid
    rw [← same, made]
    rfl
  · have made : Char.ofNat code = '\x00' := dif_neg valid
    exact absurd (same.symm.trans made) proper

/-- The null character has the code zero, and no other has. -/
theorem toNat_pos {c : Char} (proper : c ≠ '\x00') : 0 < c.toNat := by
  apply Nat.pos_of_ne_zero
  intro zero
  have null := Char.ofNat_toNat c
  rw [zero] at null
  exact proper null.symm

/-- A character is its own small letter, or is among the capitals of its small letter. -/
theorem mem_of_lower_eq {c small : Char} (proper : small ≠ '\x00') (same : lower c = small) :
    c.toNat ∈ small.toNat :: capitalsOf small.toNat := by
  unfold lower at same
  split at same
  · rename_i run found
    have inside : run.contains c.toNat = true := by simpa using List.find?_some found
    have code := eq_toNat_of_ofNat_eq proper same
    have positive := toNat_pos proper
    have back : ((small.toNat : Int) - run.shift).toNat = c.toNat := by omega
    refine List.mem_cons_of_mem _ (List.mem_filterMap.2 ⟨run, List.mem_of_find?_eq_some found, ?_⟩)
    simp [back, inside]
  · rw [same]
    exact List.mem_cons_self

/-- A small letter is its own ordinary form, or is among the variants of its ordinary form. -/
theorem mem_of_plainForm_eq {small plain : Char} (proper : plain ≠ '\x00')
    (same : plainForm small = plain) : small.toNat ∈ plain.toNat :: variantsOf plain.toNat := by
  unfold plainForm at same
  split at same
  · rename_i code found
    obtain ⟨front, behind, split, _⟩ := List.lookup_eq_some_iff.1 found
    have member : (small.toNat, code) ∈ variantForms := by
      rw [split]
      exact List.mem_append_right _ List.mem_cons_self
    have code := eq_toNat_of_ofNat_eq proper same
    refine List.mem_cons_of_mem _ (List.mem_filterMap.2 ⟨_, member, ?_⟩)
    simp [code]
  · rw [same]
    exact List.mem_cons_self

/-- The null character is its own ordinary form. -/
theorem plainForm_null : plainForm '\x00' = '\x00' := by
  decide

/-- Every character is among the spellings of its representative. -/
theorem mem_spellings_of_fold_eq {c letter : Char} (proper : letter ≠ '\x00')
    (same : fold c = letter) : c.toNat ∈ spellings letter.toNat := by
  have smallProper : lower c ≠ '\x00' := by
    intro null
    rw [fold, null, plainForm_null] at same
    exact proper same.symm
  exact List.mem_flatMap.2
    ⟨(lower c).toNat, mem_of_plainForm_eq proper same, mem_of_lower_eq smallProper rfl⟩

example : spellings 's'.toNat = ['s', 'S', '\u017F'].map Char.toNat := by decide

end PhraseAudit.Unicode
