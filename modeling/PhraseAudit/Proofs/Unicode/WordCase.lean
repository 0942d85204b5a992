import PhraseAudit.Proofs.Unicode.Matching
import PhraseAudit.Proofs.Unicode.Spelling
import PhraseAudit.Unicode.Word

/-!
# Word characters and case

Whether a character belongs to a word does not depend on its case, with one exception: the combining
iota U+0345 is a mark, and no word character, but is the same up to case as the letter iota. The
tables are compared run by run. Nearly every run of capitals lies in one range of word characters,
and its small letters in another, so that two ranges settle all of its letters.
-/

namespace PhraseAudit.Unicode

/-- The mark that is the same as a letter up to case. -/
def combiningIota : Char :=
  '\u0345'

/-- A code has the property of a table when it lies in one of the ranges. The comparisons in this
module are those that evaluate fastest, since they are made for whole tables. -/
def RangeTable.holds (table : RangeTable) (code : Nat) : Bool :=
  table.any fun range => Nat.ble range.1 code && Nat.ble code range.2

/-- All codes from one end to the other have the property, since one range holds both ends. -/
def RangeTable.spans (table : RangeTable) (first last : Nat) : Bool :=
  table.any fun range => Nat.ble range.1 first && Nat.ble last range.2

/-- No code from one end to the other has the property, since every range ends before or begins
behind them. -/
def RangeTable.avoids (table : RangeTable) (first last : Nat) : Bool :=
  table.all fun range => Nat.blt range.2 first || Nat.blt last range.1

/-- The codes between two ends that one range holds have the property. -/
theorem RangeTable.holds_of_spans {table : RangeTable} {first last code : Nat}
    (spanned : table.spans first last = true) (lower : first ≤ code) (upper : code ≤ last) :
    table.holds code = true := by
  obtain ⟨range, member, both⟩ := List.any_eq_true.1 spanned
  simp only [Bool.and_eq_true, Nat.ble_eq] at both
  refine List.any_eq_true.2 ⟨range, member, ?_⟩
  simp only [Bool.and_eq_true, Nat.ble_eq]
  omega

/-- The codes between two ends that every range avoids do not have the property. -/
theorem RangeTable.holds_of_avoids {table : RangeTable} {first last code : Nat}
    (avoided : table.avoids first last = true) (lower : first ≤ code) (upper : code ≤ last) :
    table.holds code = false := by
  refine List.any_eq_false.2 fun range member => ?_
  have apart := List.all_eq_true.1 avoided range member
  simp only [Bool.or_eq_true, Nat.blt_eq] at apart
  simp only [Bool.and_eq_true, Nat.ble_eq]
  omega

/-- The code of the small letter of a capital in a run. -/
def CapitalRun.small (run : CapitalRun) (code : Nat) : Nat :=
  ((code : Int) + run.shift).toNat

/-- The capitals of a run and their small letters have the property of a table alike: one range
holds all the capitals and one all the small letters, no range holds any of them, or they agree one
by one. -/
def CapitalRun.agrees (run : CapitalRun) (table : RangeTable) : Bool :=
  (table.spans run.first run.last && table.spans (run.small run.first) (run.small run.last)) ||
  (table.avoids run.first run.last && table.avoids (run.small run.first) (run.small run.last)) ||
    (List.range' run.first (run.last + 1 - run.first)).all fun code =>
      !run.contains code || table.holds code == table.holds (run.small code)

/-- A code of a run lies between its ends. -/
theorem CapitalRun.bounds_of_contains {run : CapitalRun} {code : Nat}
    (inside : run.contains code = true) : run.first ≤ code ∧ code ≤ run.last := by
  simp only [CapitalRun.contains, Bool.and_eq_true, decide_eq_true_eq] at inside
  exact inside.1

/-- In a run that agrees with a table each capital agrees with its small letter. -/
theorem CapitalRun.holds_small {run : CapitalRun} {table : RangeTable}
    (agrees : run.agrees table = true) {code : Nat} (inside : run.contains code = true) :
    table.holds (run.small code) = table.holds code := by
  obtain ⟨lower, upper⟩ := CapitalRun.bounds_of_contains inside
  have below : run.small run.first ≤ run.small code := by
    unfold CapitalRun.small
    omega
  have above : run.small code ≤ run.small run.last := by
    unfold CapitalRun.small
    omega
  rcases Bool.or_eq_true_iff.1 agrees with stretches | oneByOne
  · rcases Bool.or_eq_true_iff.1 stretches with spanned | avoided
    · obtain ⟨capitals, smalls⟩ := Bool.and_eq_true_iff.1 spanned
      rw [RangeTable.holds_of_spans capitals lower upper,
        RangeTable.holds_of_spans smalls below above]
    · obtain ⟨capitals, smalls⟩ := Bool.and_eq_true_iff.1 avoided
      rw [RangeTable.holds_of_avoids capitals lower upper,
        RangeTable.holds_of_avoids smalls below above]
  · have listed : code ∈ List.range' run.first (run.last + 1 - run.first) := by
      rw [List.mem_range'_1]
      omega
    have here := List.all_eq_true.1 oneByOne code listed
    simp only [inside, Bool.not_true, Bool.false_or, beq_iff_eq] at here
    exact here.symm

/-- Capitals and their small letters are word characters alike. -/
theorem agrees_of_mem_capitalRuns {run : CapitalRun} (member : run ∈ capitalRuns) :
    run.agrees wordRanges = true := by
  have all : capitalRuns.all (·.agrees wordRanges) = true := by decide +kernel
  exact List.all_eq_true.1 all run member

/-- The small letters of a run are characters. -/
theorem ends_of_mem_capitalRuns : ∀ run ∈ capitalRuns, run.small run.last < 0xD800 ∨
    0xDFFF < run.small run.first ∧ run.small run.last < 0x110000 := by
  decide +kernel

/-- The small letter of a capital has the code that its run tells. -/
theorem isValidChar_small {run : CapitalRun} (member : run ∈ capitalRuns) {code : Nat}
    (inside : run.contains code = true) : (run.small code).isValidChar := by
  obtain ⟨lower, upper⟩ := CapitalRun.bounds_of_contains inside
  have ends := ends_of_mem_capitalRuns run member
  unfold CapitalRun.small at ends ⊢
  unfold Nat.isValidChar
  omega

/-- Being a word character is having the property of the table. -/
theorem isWord_eq_holds (c : Char) : isWord c = wordRanges.holds c.toNat := by
  rw [Bool.eq_iff_iff, isWord, RangeTable.contains_iff, RangeTable.holds, List.any_eq_true]
  simp only [Bool.and_eq_true, Nat.ble_eq]

/-- A character and its small letter are word characters alike. -/
theorem isWord_lower (c : Char) : isWord (lower c) = isWord c := by
  unfold lower
  split
  · rename_i run found
    have member := List.mem_of_find?_eq_some found
    have inside : run.contains c.toNat = true := by simpa using List.find?_some found
    have code : (Char.ofNat (run.small c.toNat)).toNat = run.small c.toNat :=
      congrArg Char.toNat (dif_pos (isValidChar_small member inside))
    change isWord (Char.ofNat (run.small c.toNat)) = isWord c
    rw [isWord_eq_holds, isWord_eq_holds, code]
    exact CapitalRun.holds_small (agrees_of_mem_capitalRuns member) inside
  · rfl

/-- The second forms of small letters are word characters as their ordinary forms are, but for the
combining iota. -/
theorem holds_of_mem_variantForms : ∀ pair ∈ variantForms, pair.1 ≠ combiningIota.toNat →
    wordRanges.holds pair.2 = wordRanges.holds pair.1 := by
  decide +kernel

/-- A small letter and its ordinary form are word characters alike, but for the combining iota. -/
theorem isWord_plainForm {c : Char} (plain : c ≠ combiningIota) :
    isWord (plainForm c) = isWord c := by
  rw [isWord_eq_holds, isWord_eq_holds, toNat_plainForm, plainCode]
  cases found : variantForms.lookup c.toNat with
  | none => rfl
  | some code =>
    apply holds_of_mem_variantForms _ (mem_variantForms_of_lookup found)
    intro same
    exact plain (Char.toNat_inj.1 same)

/-- The combining iota is the small letter of itself only. -/
theorem lower_ne_combiningIota {c : Char} (plain : c ≠ combiningIota) :
    lower c ≠ combiningIota := by
  intro same
  have capitals : capitalsOf combiningIota.toNat = [] := by decide
  have member := mem_of_lower_eq (by decide) same
  rw [capitals, List.mem_singleton] at member
  exact plain (Char.toNat_inj.1 member)

/-- A character and its representative are word characters alike, but for the combining iota. -/
theorem isWord_fold {c : Char} (plain : c ≠ combiningIota) : isWord (fold c) = isWord c := by
  rw [fold, isWord_plainForm (lower_ne_combiningIota plain), isWord_lower]

/-- What is the same up to case as a character of no word is no word character itself, unless that
character is the combining iota. -/
theorem isWord_eq_false_of_fold_eq {c d : Char} (plain : c ≠ combiningIota)
    (noWord : isWord c = false) (same : fold c = fold d) : isWord d = false := by
  by_cases mark : d = combiningIota
  · rw [mark]
    decide +kernel
  · rw [← isWord_fold mark, ← same, isWord_fold plain]
    exact noWord

example : fold combiningIota = fold 'ι' ∧ isWord combiningIota = false ∧ isWord 'ι' = true := by
  decide +kernel

end PhraseAudit.Unicode
