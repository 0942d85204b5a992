import PhraseAudit.Text.Basic

/-!
# Sets of phrases

A set of phrases is kept as a list in strictly increasing order by code point, so that it has one
form and its elements come out sorted. The empty text may belong to it: a line may wrap nothing.
-/

namespace PhraseAudit

namespace Text

/-- Code point order has no cycles. -/
theorem lt_irrefl (text : Text) : ¬ text < text :=
  List.lt_irrefl text

/-- Code point order is transitive. -/
theorem lt_trans {first second third : Text} (one : first < second) (two : second < third) :
    first < third :=
  List.lt_trans one two

/-- Two texts that are not ordered either way are equal. -/
theorem eq_of_not_lt {first second : Text} (one : ¬ first < second) (two : ¬ second < first) :
    first = second :=
  List.le_antisymm two one

/-- Texts that increase strictly are distinct. -/
theorem nodup_of_increasing {texts : List Text} (increasing : texts.Pairwise (· < ·)) :
    texts.Nodup := by
  apply increasing.imp
  intro first second below same
  exact lt_irrefl second (same ▸ below)

/-- Puts a text into its place in a sorted list, unless it is there already. -/
def insertSorted (text : Text) : List Text → List Text
  | [] => [text]
  | first :: rest =>
    if text < first then text :: first :: rest
    else if first < text then first :: insertSorted text rest
    else first :: rest

/-- The list gains the inserted text and nothing else. -/
theorem mem_insertSorted (text other : Text) (texts : List Text) :
    other ∈ insertSorted text texts ↔ other = text ∨ other ∈ texts := by
  induction texts with
  | nil => simp [insertSorted]
  | cons first rest ih =>
    unfold insertSorted
    split
    · simp
    · split
      · simp only [List.mem_cons, ih]
        constructor
        · rintro (same | same | inside)
          · exact .inr (.inl same)
          · exact .inl same
          · exact .inr (.inr inside)
        · rintro (same | same | inside)
          · exact .inr (.inl same)
          · exact .inl same
          · exact .inr (.inr inside)
      · rename_i notBelow notAbove
        have equal := eq_of_not_lt notBelow notAbove
        subst equal
        simp

/-- Insertion keeps a list strictly increasing. -/
theorem pairwise_insertSorted (text : Text) {texts : List Text}
    (increasing : texts.Pairwise (· < ·)) : (insertSorted text texts).Pairwise (· < ·) := by
  induction texts with
  | nil => simp [insertSorted]
  | cons first rest ih =>
    obtain ⟨above, inner⟩ := List.pairwise_cons.1 increasing
    unfold insertSorted
    split
    · rename_i below
      refine List.pairwise_cons.2 ⟨?_, increasing⟩
      intro other inside
      cases List.mem_cons.1 inside with
      | inl same => exact same ▸ below
      | inr behind => exact lt_trans below (above other behind)
    · split
      · rename_i below
        refine List.pairwise_cons.2 ⟨?_, ih inner⟩
        intro other inside
        cases (mem_insertSorted text other rest).1 inside with
        | inl same => exact same ▸ below
        | inr behind => exact above other behind
      · exact increasing

end Text

/-- A finite set of phrases, in strictly increasing order. -/
structure PhraseSet where
  toList : List Text
  increasing : toList.Pairwise (· < ·)

namespace PhraseSet

/-- The set without elements. -/
def empty : PhraseSet :=
  ⟨[], List.Pairwise.nil⟩

/-- The set with one more element. -/
def insert (set : PhraseSet) (text : Text) : PhraseSet :=
  ⟨Text.insertSorted text set.toList, Text.pairwise_insertSorted text set.increasing⟩

/-- The set of the elements of a list. -/
def ofList (texts : List Text) : PhraseSet :=
  texts.foldl insert empty

instance : Membership Text PhraseSet where
  mem set text := text ∈ set.toList

/-- Insertion adds exactly the inserted text. -/
theorem mem_insert (set : PhraseSet) (text other : Text) :
    other ∈ set.insert text ↔ other = text ∨ other ∈ set :=
  Text.mem_insertSorted text other set.toList

/-- The set of a list has the elements of the list. -/
theorem mem_ofList (texts : List Text) (text : Text) : text ∈ ofList texts ↔ text ∈ texts := by
  have general : ∀ (set : PhraseSet), text ∈ texts.foldl insert set ↔ text ∈ set ∨ text ∈ texts := by
    induction texts with
    | nil => simp
    | cons first rest ih =>
      intro set
      rw [List.foldl_cons, ih, mem_insert, List.mem_cons]
      constructor
      · rintro ((same | inside) | behind)
        · exact .inr (.inl same)
        · exact .inl inside
        · exact .inr (.inr behind)
      · rintro (inside | same | behind)
        · exact .inl (.inr inside)
        · exact .inl (.inl same)
        · exact .inr behind
  have nothing : text ∉ empty := List.not_mem_nil
  exact (general empty).trans (or_iff_right nothing)

/-- How many elements the set has. -/
def size (set : PhraseSet) : Nat :=
  set.toList.length

end PhraseSet

end PhraseAudit
