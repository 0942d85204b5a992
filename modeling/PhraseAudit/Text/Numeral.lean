import PhraseAudit.Text.Basic

/-!
# Numbers as texts

Integers in decimal, and numbers in hexadecimal with a fixed count of digits. A host may set a limit
on the digits of an integer: one with more of them is not written in decimal at all.
-/

namespace PhraseAudit

namespace Text

/-- The decimal digits of a natural number, without leading zeros. -/
def ofNat (number : Nat) : Text :=
  Nat.toDigits 10 number

/-- An integer in decimal, with a minus sign in front of a negative one and no other sign. -/
def ofInt : Int → Text
  | .ofNat number => ofNat number
  | .negSucc number => '-' :: ofNat (number + 1)

/-- How many digits an integer has in decimal. The sign does not count. -/
def digitCount (number : Int) : Nat :=
  (ofNat number.natAbs).length

/-- The last digits of a number in hexadecimal, as many as asked for, with small letters. -/
def hexDigits : (width : Nat) → (number : Nat) → Text
  | 0, _ => []
  | width + 1, number => hexDigits width (number / 16) ++ [Nat.digitChar (number % 16)]

/-- There are as many digits as were asked for. -/
theorem length_hexDigits (width number : Nat) : (hexDigits width number).length = width := by
  induction width generalizing number with
  | zero => rfl
  | succ width ih => simp [hexDigits, ih]

end Text

/-- How many digits an integer may have that is written in decimal, if there is a limit. -/
abbrev DigitLimit := Option Nat

/-- An integer was to be written that has more digits than the limit. -/
structure NumberError where
  limit : Nat
deriving Repr, DecidableEq

/-- The wording of a number error. -/
def NumberError.message (error : NumberError) : String :=
  s!"Exceeds the limit ({String.ofList (Text.ofNat error.limit)} digits) for integer string " ++
    "conversion; use sys.set_int_max_str_digits() to increase the limit"

namespace DigitLimit

/-- The limit of a host that is not told otherwise. -/
def usual : DigitLimit :=
  some 4300

/-- An integer that can be written under a limit. -/
def Allows (limit : DigitLimit) (number : Int) : Prop :=
  ∀ digits ∈ limit, Text.digitCount number ≤ digits

instance (limit : DigitLimit) (number : Int) : Decidable (limit.Allows number) :=
  match limit with
  | none => .isTrue fun _ none => nomatch none
  | some digits =>
    decidable_of_iff (Text.digitCount number ≤ digits)
      ⟨fun small _ same => Option.some.inj same ▸ small, fun all => all digits rfl⟩

/-- Fails when one of some integers cannot be written. -/
def check (limit : DigitLimit) (numbers : List Int) : Except NumberError Unit :=
  match limit with
  | none => .ok ()
  | some digits =>
    if ∀ number ∈ numbers, Text.digitCount number ≤ digits then .ok () else .error ⟨digits⟩

/-- Without a limit every integer can be written. -/
theorem allows_none (number : Int) : Allows none number :=
  fun _ unlimited => nomatch unlimited

/-- A limit lets some integers pass when each of them can be written. -/
theorem check_eq_ok_iff (limit : DigitLimit) (numbers : List Int) :
    limit.check numbers = .ok () ↔ ∀ number ∈ numbers, limit.Allows number := by
  cases limit with
  | none => exact ⟨fun _ number _ => allows_none number, fun _ => rfl⟩
  | some digits =>
    unfold check Allows
    simp only [Option.mem_def, Option.some.injEq, forall_eq']
    split
    · rename_i small
      exact ⟨fun _ => small, fun _ => rfl⟩
    · rename_i large
      exact ⟨fun passed => (nomatch passed), fun small => absurd small large⟩

/-- A limit stops some integers when one of them cannot be written, and is told in the error. -/
theorem check_eq_error_iff (limit : DigitLimit) (numbers : List Int) (error : NumberError) :
    limit.check numbers = .error error ↔
      error = ⟨limit.getD 0⟩ ∧ ∃ number ∈ numbers, ¬ limit.Allows number := by
  cases passed : limit.check numbers with
  | ok _ =>
    have all := (check_eq_ok_iff limit numbers).1 passed
    constructor
    · intro fails
      cases fails
    · rintro ⟨_, number, member, notAllowed⟩
      exact absurd (all number member) notAllowed
  | error other =>
    have some : ∃ number ∈ numbers, ¬ limit.Allows number := by
      refine Classical.byContradiction fun none => ?_
      have all : ∀ number ∈ numbers, limit.Allows number := fun number member =>
        Classical.byContradiction fun notAllowed => none ⟨number, member, notAllowed⟩
      rw [(check_eq_ok_iff limit numbers).2 all] at passed
      cases passed
    have told : other = ⟨limit.getD 0⟩ := by
      unfold check at passed
      cases limit with
      | none => cases passed
      | some digits =>
        simp only at passed
        split at passed
        · cases passed
        · exact (Except.error.inj passed).symm
    constructor
    · intro fails
      exact ⟨(Except.error.inj fails).symm.trans told, some⟩
    · rintro ⟨rfl, _⟩
      rw [told]

end DigitLimit

end PhraseAudit
