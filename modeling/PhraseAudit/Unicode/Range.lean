/-!
# Range tables

A property of characters is written down as a table of closed code point ranges. Membership is
the plain search through the table, so that a proof about one property is a proof about its rows.
-/

namespace PhraseAudit.Unicode

/-- A property of characters, as closed ranges of code points in increasing order. -/
abbrev RangeTable := List (Nat × Nat)

/-- A character has the property when its code point lies in one of the ranges. -/
def RangeTable.contains (table : RangeTable) (c : Char) : Bool :=
  table.any fun range => range.1 ≤ c.toNat && c.toNat ≤ range.2

/-- Membership is lying in some row of the table. -/
theorem RangeTable.contains_iff (table : RangeTable) (c : Char) :
    table.contains c = true ↔ ∃ range ∈ table, range.1 ≤ c.toNat ∧ c.toNat ≤ range.2 := by
  simp [RangeTable.contains]

end PhraseAudit.Unicode
