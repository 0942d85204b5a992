import PhraseAudit.Text.Basic

/-!
# JSON values

The values that a report is made of. The members of an object are kept in the order in which they
are written.
-/

namespace PhraseAudit

/-- A JSON value with whole numbers only. -/
inductive Json where
  | text (characters : Text)
  | number (value : Int)
  | list (items : List Json)
  | object (members : List (Text × Json))

namespace Json

mutual

/-- The numbers in a value, in the order in which they are written. -/
def numbers : Json → List Int
  | .text _ => []
  | .number value => [value]
  | .list items => numbersOfItems items
  | .object members => numbersOfMembers members

/-- The numbers in the items of a list. -/
def numbersOfItems : List Json → List Int
  | [] => []
  | item :: rest => item.numbers ++ numbersOfItems rest

/-- The numbers in the members of an object. -/
def numbersOfMembers : List (Text × Json) → List Int
  | [] => []
  | member :: rest => numbersOfMember member ++ numbersOfMembers rest

/-- The numbers in the value of a member. -/
def numbersOfMember : Text × Json → List Int
  | (_, value) => value.numbers

end

end Json

end PhraseAudit
