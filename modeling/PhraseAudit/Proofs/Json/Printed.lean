import Mathlib.Algebra.GroupWithZero.Nat
import PhraseAudit.Json.Printer
import PhraseAudit.Proofs.Json.Reading

/-!
# What is printed is read back

The printed form of a value is one of the ways to write it, at whatever level it stands. It is read
back as this value, with the members of every object in their order, so that the printed form tells
the value.
-/

namespace PhraseAudit.Json

open JsonText

/-! ## Texts -/

/-- Hexadecimal digits behind others are read from where those have led. -/
theorem hexNumber?_append (front : Nat) (digits others : Text) :
    hexNumber? front (digits ++ others) =
      (hexNumber? front digits).bind fun value => hexNumber? value others := by
  induction digits generalizing front with
  | nil => rfl
  | cons c rest ih =>
    rw [List.cons_append, hexNumber?, hexNumber?, Option.bind_assoc]
    exact Option.bind_congr fun value _ => ih _

/-- A hexadecimal digit has the value that it was printed for. -/
theorem hexValue?_digitChar : ∀ value < 16, hexValue? (Nat.digitChar value) = some value := by
  decide

/-- Hexadecimal digits in sufficient number stand for the number that they were printed for. -/
theorem hexNumber?_hexDigits (front : Nat) {width number : Nat} (fits : number < 16 ^ width) :
    hexNumber? front (Text.hexDigits width number) = some (front * 16 ^ width + number) := by
  induction width generalizing number with
  | zero =>
    obtain rfl : number = 0 := Nat.lt_one_iff.1 fits
    rw [Text.hexDigits, hexNumber?, Nat.pow_zero, Nat.mul_one, Nat.add_zero]
  | succ width ih =>
    have upper : number / 16 < 16 ^ width := by
      rw [Nat.pow_succ] at fits
      exact Nat.div_lt_of_lt_mul (Nat.mul_comm _ 16 ▸ fits)
    have lower : number % 16 < 16 := Nat.mod_lt _ (by decide)
    rw [Text.hexDigits, hexNumber?_append, ih upper, Option.bind_some, hexNumber?,
      hexValue?_digitChar _ lower, Option.bind_some, hexNumber?, Nat.pow_succ, ← Nat.mul_assoc]
    congr 1
    omega

/-- A character is printed in one of the ways to write it. -/
theorem spells_escapeChar (c : Char) : SpellsChar (escapeChar c) c := by
  unfold escapeChar
  split
  · rename_i special
    rcases special with rfl | rfl <;> exact .letter (by simp [letters])
  · rename_i special
    obtain ⟨noQuote, noEscape⟩ := not_or.1 special
    iterate 5
      split
      · rename_i same
        subst same
        exact .letter (by simp [letters])
    split
    · rename_i control
      have fits : c.toNat < 16 ^ 4 := Nat.lt_trans control (by decide)
      have isUnit : SpellsUnit ('\\' :: 'u' :: Text.hexDigits 4 c.toNat) c.toNat :=
        .digits (Text.length_hexDigits 4 c.toNat) (by
          rw [hexNumber?_hexDigits 0 fits, Nat.zero_mul, Nat.zero_add])
      obtain ⟨notLow, notHigh⟩ := Utf16.proper_of_outside (.inl (Nat.lt_trans control (by decide)))
      have isChar := SpellsUnits.single isUnit notLow notHigh
      rw [Char.ofNat_toNat] at isChar
      exact .units isChar
    · rename_i noControl
      exact .plain (Nat.le_of_not_lt noControl) noQuote noEscape

/-- A text is printed in one of the ways to write it. -/
theorem spells_printText (characters : Text) : SpellsText (printText characters) characters := by
  have inside : SpellsCharacters (characters.flatMap escapeChar) characters := by
    induction characters with
    | nil => exact .nil
    | cons c rest ih =>
      rw [List.flatMap_cons]
      exact .cons (spells_escapeChar c) ih
  exact .quoted inside

/-! ## Numbers -/

/-- The decimal digits of a number are digits. -/
theorem isDigits_ofNat (number : Nat) : IsDigits (Text.ofNat number) :=
  ⟨Nat.toDigits_ne_nil, List.all_eq_true.2 fun _ member =>
    Nat.isDigit_of_mem_toDigits (by decide) (Nat.le_refl 10) member⟩

/-- The digits of a number that is not zero do not begin with zero. -/
theorem head?_ofNat_ne {number : Nat} (positive : 0 < number) :
    (Text.ofNat number).head? ≠ some '0' := by
  induction number using Nat.strongRecOn with
  | ind number ih =>
    rw [Text.ofNat, Nat.toDigits_eq_if (by decide)]
    split
    · intro head
      have zero : number = 0 := Nat.digitChar_eq_zero.1 (Option.some.inj head)
      omega
    · have shorter := ih (number / 10) (by omega) (by omega)
      rw [List.head?_append]
      cases head : (Nat.toDigits 10 (number / 10)).head? with
      | none => exact absurd (List.head?_eq_none_iff.1 head) Nat.toDigits_ne_nil
      | some digit =>
        rw [Text.ofNat, head] at shorter
        exact shorter

/-- The digits of a number are those of a whole number. -/
theorem isWhole_ofNat (number : Nat) : IsWhole (Text.ofNat number) := by
  refine ⟨isDigits_ofNat number, ?_⟩
  rcases Nat.eq_zero_or_pos number with rfl | positive
  · exact .inl rfl
  · exact .inr (head?_ofNat_ne positive)

/-- Digits stand for the number that they were printed for. -/
theorem signed_ofNat (negative : Bool) (number : Nat) :
    signed negative (Text.ofNat number) = if negative then -(number : Int) else number := by
  rw [signed, Text.ofNat, Nat.ofDigitChars_toDigits (by decide) (Nat.le_refl 10)]

/-- An integer is printed as a number without point and power. -/
theorem spells_ofInt (value : Int) : SpellsNumber (Text.ofInt value) ⟨value, 0⟩ := by
  cases value with
  | ofNat number =>
    have spelled := SpellsNumber.parts .absent (isWhole_ofNat number) .absent .absent
    rw [decimalOf, List.append_nil, List.append_nil, signed_ofNat] at spelled
    exact spelled
  | negSucc number =>
    have spelled := SpellsNumber.parts .minus (isWhole_ofNat (number + 1)) .absent .absent
    rw [decimalOf, List.append_nil, List.append_nil, signed_ofNat] at spelled
    exact spelled

/-! ## Values -/

mutual

/-- The value that a text denotes when it is printed: the integers are decimals without a power of
ten. -/
def toValue : Json → JsonValue
  | .text characters => .text characters
  | .number value => .number ⟨value, 0⟩
  | .list items => .list (itemValues items)
  | .object members => .object (memberValues members)

/-- The values of the items of a list. -/
def itemValues : List Json → List JsonValue
  | [] => []
  | item :: rest => toValue item :: itemValues rest

/-- The values of the members of an object, under their keys. -/
def memberValues : List (Text × Json) → List (Text × JsonValue)
  | [] => []
  | (key, value) :: rest => (key, toValue value) :: memberValues rest

end

/-- The items of a list keep their order. -/
theorem itemValues_eq_map (items : List Json) : itemValues items = items.map toValue := by
  induction items with
  | nil => rfl
  | cons item rest ih => rw [itemValues, ih, List.map_cons]

/-- The members of an object keep their keys and their order. -/
theorem memberValues_eq_map (members : List (Text × Json)) :
    memberValues members = members.map fun (key, value) => (key, toValue value) := by
  induction members with
  | nil => rfl
  | cons member rest ih => rw [memberValues, ih, List.map_cons]

/-- A list has distinct keys when its items have. -/
theorem distinctKeys_list {items : List Json}
    (inside : ∀ item ∈ items, (toValue item).DistinctKeys) :
    (toValue (.list items)).DistinctKeys := by
  rw [toValue, itemValues_eq_map]
  refine .list fun value member => ?_
  obtain ⟨item, isItem, rfl⟩ := List.mem_map.1 member
  exact inside item isItem

/-- An object has distinct keys when its own keys are distinct, and those in its values are. -/
theorem distinctKeys_object {members : List (Text × Json)} (keys : (members.map (·.1)).Nodup)
    (inside : ∀ member ∈ members, (toValue member.2).DistinctKeys) :
    (toValue (.object members)).DistinctKeys := by
  rw [toValue, memberValues_eq_map]
  refine .object ?_ fun value member => ?_
  · rw [List.map_map]
    exact keys
  · obtain ⟨pair, isMember, rfl⟩ := List.mem_map.1 member
    exact inside pair isMember

/-- A line break consists of blanks. -/
theorem all_isSpace_lineBreak (level : Nat) : (lineBreak level).all isSpace = true := by
  rw [lineBreak, List.all_cons, List.all_replicate]
  simp [isSpace]

section Entries

variable {α : Type} {spells : Text → α → Prop} (level outer : Nat)

/-- The last entry stands between two line breaks. -/
theorem spells_last {text : Text} {entry : α} (spelled : spells text entry) :
    SpellsSequence spells (lineBreak level ++ text ++ lineBreak outer) [entry] := by
  rw [List.append_assoc]
  exact .last (.around (all_isSpace_lineBreak level) spelled (all_isSpace_lineBreak outer))

/-- Every other entry stands between a line break and a comma. -/
theorem spells_more {text rest : Text} {entry : α} {entries : List α} (spelled : spells text entry)
    (behind : SpellsSequence spells (rest ++ lineBreak outer) entries) :
    SpellsSequence spells (lineBreak level ++ text ++ ',' :: rest ++ lineBreak outer)
      (entry :: entries) := by
  have padded : Padded spells (lineBreak level ++ (text ++ [])) entry :=
    .around (all_isSpace_lineBreak level) spelled rfl
  rw [List.append_nil] at padded
  rw [List.append_assoc _ (',' :: rest), List.cons_append]
  exact .more padded behind

end Entries

mutual

/-- A value is printed in one of the ways to write it, at whatever level it stands. -/
theorem spells_printAt (level : Nat) : (value : Json) → Spells (printAt level value) (toValue value)
  | .text characters => .text (spells_printText characters)
  | .number value => .number (spells_ofInt value)
  | .list [] => by
    have spelled : Spells ('[' :: ([] ++ [']'])) (.list []) := .emptyList rfl
    exact spelled
  | .list (item :: rest) => by
    have spelled := Spells.list (spells_printItems (level + 1) level (item :: rest) nofun)
    rw [printAt]
    exact spelled
  | .object [] => by
    have spelled : Spells ('\x7b' :: ([] ++ ['\x7d'])) (.object []) := .emptyObject rfl
    exact spelled
  | .object (member :: rest) => by
    have spelled := Spells.object (spells_printMembers (level + 1) level (member :: rest) nofun)
    rw [printAt]
    exact spelled

/-- The items of a list are printed as a sequence, with a line break behind it. -/
theorem spells_printItems (level outer : Nat) : (items : List Json) → items ≠ [] →
    SpellsSequence Spells (printItems level items ++ lineBreak outer) (itemValues items)
  | [], nonempty => absurd rfl nonempty
  | [item], _ => spells_last level outer (spells_printAt level item)
  | item :: next :: rest, _ => spells_more level outer (spells_printAt level item)
    (spells_printItems level outer (next :: rest) nofun)

/-- The members of an object are printed as a sequence, with a line break behind it. -/
theorem spells_printMembers (level outer : Nat) : (members : List (Text × Json)) → members ≠ [] →
    SpellsSequence (SpellsMember Spells) (printMembers level members ++ lineBreak outer)
      (memberValues members)
  | [], nonempty => absurd rfl nonempty
  | [member], _ => spells_last level outer (spells_printMember level member)
  | member :: next :: rest, _ => spells_more level outer (spells_printMember level member)
    (spells_printMembers level outer (next :: rest) nofun)

/-- A member is printed with a blank behind the colon. -/
theorem spells_printMember (level : Nat) : (member : Text × Json) →
    SpellsMember Spells (printMember level member) (member.1, toValue member.2)
  | (key, value) => by
    have spelled : SpellsMember Spells
        (printText key ++ ([] ++ ':' :: ([' '] ++ printAt level value))) (key, toValue value) :=
      .pair (spells_printText key) rfl rfl (spells_printAt level value)
    exact spelled

end

/-- The printed form of a value is JSON and denotes this value. -/
theorem denotes_print (value : Json) : Denotes value.print (toValue value) := by
  have denotes : Padded Spells ([] ++ (value.print ++ [])) (toValue value) :=
    .around rfl (spells_printAt 0 value) rfl
  rwa [List.nil_append, List.append_nil] at denotes

/-! ## Values with the same printed form -/

mutual

/-- A value is told by what its printed form denotes. -/
theorem eq_of_toValue_eq : (value other : Json) → toValue value = toValue other → value = other
  | .text _, .text _, same => congrArg Json.text (JsonValue.text.inj same)
  | .number _, .number _, same =>
    congrArg Json.number (Decimal.mk.inj (JsonValue.number.inj same)).1
  | .list items, .list others, same =>
    congrArg Json.list (eq_of_itemValues_eq items others (JsonValue.list.inj same))
  | .object members, .object others, same =>
    congrArg Json.object (eq_of_memberValues_eq members others (JsonValue.object.inj same))
  | .text _, .number _, same | .text _, .list _, same | .text _, .object _, same => by cases same
  | .number _, .text _, same | .number _, .list _, same | .number _, .object _, same => by
    cases same
  | .list _, .text _, same | .list _, .number _, same | .list _, .object _, same => by cases same
  | .object _, .text _, same | .object _, .number _, same | .object _, .list _, same => by
    cases same

theorem eq_of_itemValues_eq :
    (items others : List Json) → itemValues items = itemValues others → items = others
  | [], [], _ => rfl
  | item :: rest, other :: others, same => by
    obtain ⟨first, behind⟩ := List.cons.inj same
    rw [eq_of_toValue_eq item other first, eq_of_itemValues_eq rest others behind]
  | [], _ :: _, same | _ :: _, [], same => by cases same

theorem eq_of_memberValues_eq :
    (members others : List (Text × Json)) → memberValues members = memberValues others →
      members = others
  | [], [], _ => rfl
  | (key, value) :: rest, (otherKey, other) :: others, same => by
    obtain ⟨first, behind⟩ := List.cons.inj same
    obtain ⟨rfl, values⟩ := Prod.mk.inj first
    rw [eq_of_toValue_eq value other values, eq_of_memberValues_eq rest others behind]
  | [], (_, _) :: _, same | (_, _) :: _, [], same => by cases same

end

/-- The printed form tells the value. -/
theorem print_injective {value other : Json} (same : value.print = other.print) : value = other :=
  eq_of_toValue_eq value other ((same ▸ denotes_print value).unique (denotes_print other))

end PhraseAudit.Json
