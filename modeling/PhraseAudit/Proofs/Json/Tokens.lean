import PhraseAudit.Proofs.Encoding.Utf16
import PhraseAudit.Proofs.Json.Reader

/-!
# Texts and numbers as they are read

A text is read exactly as it is spelled, whatever stands behind it, since its closing quote ends it.
A number has no such end. It is read as it is spelled when what stands behind it could not belong to
it.
-/

namespace PhraseAudit.JsonText

/-- A step that turns what was read into something else leaves the same rest. -/
theorem map_first_eq_some_iff {α β : Type} {step : Option (α × Text)} {turn : α → β} {value : β}
    {rest : Text} :
    (step.map fun (entry, rest) => (turn entry, rest)) = some (value, rest) ↔
      ∃ entry, step = some (entry, rest) ∧ turn entry = value := by
  constructor
  · intro made
    obtain ⟨⟨entry, left⟩, taken, same⟩ := Option.map_eq_some_iff.1 made
    obtain ⟨rfl, rfl⟩ := Prod.mk.inj same
    exact ⟨entry, taken, rfl⟩
  · rintro ⟨entry, rfl, rfl⟩
    rfl

/-- What stands behind a text in quotes or brackets stands behind what closes it. -/
theorem enclosed_append (opening closing : Char) (text rest : Text) :
    opening :: (text ++ [closing]) ++ rest = opening :: (text ++ closing :: rest) := by
  rw [List.cons_append, List.append_assoc, List.singleton_append]

/-! ## Stretches of one class of characters -/

/-- No character of a class stands at the head. -/
def Stops (belongs : Char → Bool) (text : Text) : Prop :=
  ∀ c, text.head? = some c → belongs c = false

theorem stops_nil (belongs : Char → Bool) : Stops belongs [] :=
  nofun

theorem stops_cons {belongs : Char → Bool} {c : Char} (outside : belongs c = false) (text : Text) :
    Stops belongs (c :: text) := by
  rintro _ ⟨⟩
  exact outside

/-- A stretch of a class of characters ends where the class ends. -/
theorem takeWhile_append_of_stops {belongs : Char → Bool} {text rest : Text}
    (all : text.all belongs = true) (stops : Stops belongs rest) :
    (text ++ rest).takeWhile belongs = text := by
  rw [List.takeWhile_append_of_pos (List.all_eq_true.1 all)]
  cases rest with
  | nil => rw [List.takeWhile_nil, List.append_nil]
  | cons c rest => rw [List.takeWhile_cons, stops c rfl, if_neg Bool.false_ne_true, List.append_nil]

/-- Behind a stretch of a class of characters stands the rest. -/
theorem dropWhile_append_of_stops {belongs : Char → Bool} {text rest : Text}
    (all : text.all belongs = true) (stops : Stops belongs rest) :
    (text ++ rest).dropWhile belongs = rest := by
  rw [List.dropWhile_append_of_pos (List.all_eq_true.1 all)]
  cases rest with
  | nil => rfl
  | cons c rest => rw [List.dropWhile_cons, stops c rfl, if_neg Bool.false_ne_true]

/-! ## Texts -/

/-- The escape of a code unit is read as it is spelled. -/
theorem readUnit_eq_some_iff {text rest : Text} {unit : Nat} :
    readUnit text = some (unit, rest) ↔
      ∃ spelled, text = spelled ++ rest ∧ SpellsUnit spelled unit := by
  constructor
  · intro read
    unfold readUnit at read
    split at read
    · obtain ⟨value, number, same⟩ := Option.map_eq_some_iff.1 read
      obtain ⟨rfl, rfl⟩ := Prod.mk.inj same
      exact ⟨_, rfl, .digits rfl number⟩
    · cases read
  · rintro ⟨_, rfl, ⟨four, number⟩⟩
    rename_i digits
    match digits, four with
    | [a, b, c, d], _ =>
      simp only [List.cons_append, List.nil_append, readUnit]
      rw [number]
      rfl

/-- The escapes of a character are read as they are spelled. -/
theorem readUnits_eq_some_iff {text rest : Text} {c : Char} :
    readUnits text = some (c, rest) ↔
      ∃ spelled, text = spelled ++ rest ∧ SpellsUnits spelled c := by
  constructor
  · intro read
    unfold readUnits at read
    split at read
    · cases read
    · rename_i unit behind first
      obtain ⟨spelled, rfl, isUnit⟩ := readUnit_eq_some_iff.1 first
      split at read
      · cases read
      · rename_i notLow
        split at read
        · rename_i begins
          split at read
          · cases read
          · rename_i low left second
            obtain ⟨spelledLow, rfl, isLow⟩ := readUnit_eq_some_iff.1 second
            split at read
            · rename_i ends
              obtain ⟨rfl, rfl⟩ := Prod.mk.inj (Option.some.inj read)
              exact ⟨spelled ++ spelledLow, (List.append_assoc ..).symm,
                .pair isUnit begins isLow ends⟩
            · cases read
        · rename_i notHigh
          obtain ⟨rfl, rfl⟩ := Prod.mk.inj (Option.some.inj read)
          exact ⟨spelled, rfl,
            .single isUnit (Bool.eq_false_iff.2 notLow) (Bool.eq_false_iff.2 notHigh)⟩
  · rintro ⟨spelled, rfl, isChar⟩
    cases isChar with
    | @single _ unit isUnit notLow notHigh =>
      have first : readUnit (spelled ++ rest) = some (unit, rest) :=
        readUnit_eq_some_iff.2 ⟨spelled, rfl, isUnit⟩
      rw [readUnits, first]
      simp only [notLow, notHigh, Bool.false_eq_true, if_false]
    | @pair front behind high low isHigh begins isLow ends =>
      have first : readUnit (front ++ behind ++ rest) = some (high, behind ++ rest) :=
        readUnit_eq_some_iff.2 ⟨front, List.append_assoc .., isHigh⟩
      have second : readUnit (behind ++ rest) = some (low, rest) :=
        readUnit_eq_some_iff.2 ⟨behind, rfl, isLow⟩
      rw [readUnits, first]
      simp only [Utf16.isLow_eq_false_of_isHigh begins, begins, second, ends, Bool.false_eq_true,
        if_false, if_true]

/-- No letter stands for two characters. -/
theorem lookup_letters_eq_some_iff {letter c : Char} :
    letters.lookup letter = some c ↔ (letter, c) ∈ letters := by
  constructor
  · intro found
    obtain ⟨front, behind, whole, _⟩ := List.lookup_eq_some_iff.1 found
    rw [whole]
    exact List.mem_append_right _ List.mem_cons_self
  · intro known
    simp only [letters, List.mem_cons, Prod.mk.injEq, List.not_mem_nil, or_false] at known
    rcases known with ⟨rfl, rfl⟩ | ⟨rfl, rfl⟩ | ⟨rfl, rfl⟩ | ⟨rfl, rfl⟩ | ⟨rfl, rfl⟩ | ⟨rfl, rfl⟩ |
      ⟨rfl, rfl⟩ | ⟨rfl, rfl⟩ <;> rfl

/-- An escape by code units begins with a backslash and its letter, which is no other letter. -/
theorem exists_of_spellsUnits {text : Text} {c : Char} (spelled : SpellsUnits text c) :
    ∃ rest, text = '\\' :: 'u' :: rest := by
  cases spelled with
  | single spelled => cases spelled with | digits => exact ⟨_, rfl⟩
  | pair spelled => cases spelled with | digits => exact ⟨_, rfl⟩

/-- A character between quotes is read as it is spelled. -/
theorem readChar_eq_some_iff {text rest : Text} {c : Char} :
    readChar text = some (c, rest) ↔ ∃ spelled, text = spelled ++ rest ∧ SpellsChar spelled c := by
  constructor
  · intro read
    unfold readChar at read
    split at read
    · cases read
    · rename_i head behind
      split at read
      · rename_i escape
        subst escape
        split at read
        · cases read
        · rename_i letter behind
          split at read
          · obtain ⟨spelled, same, isChar⟩ := readUnits_eq_some_iff.1 read
            exact ⟨spelled, same, .units isChar⟩
          · obtain ⟨found, known, same⟩ := Option.map_eq_some_iff.1 read
            obtain ⟨rfl, rfl⟩ := Prod.mk.inj same
            exact ⟨['\\', letter], rfl, .letter (lookup_letters_eq_some_iff.1 known)⟩
      · rename_i noEscape
        split at read
        · cases read
        · rename_i proper
          obtain ⟨noControl, noQuote⟩ := not_or.1 proper
          cases read
          exact ⟨[c], rfl, .plain (Nat.le_of_not_lt noControl) noQuote noEscape⟩
  · rintro ⟨spelled, rfl, isChar⟩
    cases isChar with
    | plain noControl noQuote noEscape =>
      simp only [List.cons_append, List.nil_append, readChar, if_neg noEscape,
        if_neg (not_or.2 ⟨Nat.not_lt.2 noControl, noQuote⟩)]
    | @letter letter _ known =>
      have notUnit : letter ≠ 'u' := by
        rintro rfl
        revert known
        simp [letters]
      simp only [List.cons_append, List.nil_append, readChar, if_true, if_neg notUnit,
        lookup_letters_eq_some_iff.2 known, Option.map_some]
    | units areUnits =>
      have read : readUnits (spelled ++ rest) = some (c, rest) :=
        readUnits_eq_some_iff.2 ⟨spelled, rfl, areUnits⟩
      obtain ⟨digits, rfl⟩ := exists_of_spellsUnits areUnits
      simpa only [List.cons_append, readChar, if_true] using read

/-- What spells a character is not empty and does not begin with a quote. -/
theorem exists_of_spellsChar {text : Text} {c : Char} (spelled : SpellsChar text c) :
    ∃ head rest, text = head :: rest ∧ head ≠ '"' := by
  cases spelled with
  | plain noControl noQuote noEscape => exact ⟨c, [], rfl, noQuote⟩
  | letter known => exact ⟨'\\', _, rfl, by decide⟩
  | units spelled =>
    obtain ⟨rest, rfl⟩ := exists_of_spellsUnits spelled
    exact ⟨'\\', _, rfl, by decide⟩

/-- What is read up to a quote are the characters that are spelled in front of it. -/
theorem spells_of_readCharacters {bound : Nat} {text characters rest : Text}
    (read : readCharacters bound text = some (characters, rest)) :
    ∃ spelled, text = spelled ++ '"' :: rest ∧ SpellsCharacters spelled characters := by
  induction bound generalizing text characters with
  | zero => cases read
  | succ bound ih =>
    unfold readCharacters at read
    split at read
    · rename_i closed
      obtain ⟨behind, rfl⟩ := List.head?_eq_some_iff.1 closed
      cases read
      exact ⟨[], rfl, .nil⟩
    · split at read
      · cases read
      · rename_i c behind first
        obtain ⟨spelled, rfl, isChar⟩ := readChar_eq_some_iff.1 first
        obtain ⟨others, last, rfl⟩ := map_first_eq_some_iff.1 read
        obtain ⟨front, rfl, areChars⟩ := ih last
        exact ⟨spelled ++ front, (List.append_assoc ..).symm, .cons isChar areChars⟩

/-- Characters in front of a quote are read as they are spelled. -/
theorem readCharacters_of_spells {bound : Nat} {text characters : Text} (rest : Text)
    (spelled : SpellsCharacters text characters) (short : text.length < bound) :
    readCharacters bound (text ++ '"' :: rest) = some (characters, rest) := by
  induction spelled generalizing bound with
  | nil =>
    obtain _ | bound := bound
    · cases short
    · rfl
  | @cons text behind c characters isChar _ ih =>
    obtain _ | bound := bound
    · cases short
    have first : readChar (text ++ behind ++ '"' :: rest) = some (c, behind ++ '"' :: rest) :=
      readChar_eq_some_iff.2 ⟨text, List.append_assoc .., isChar⟩
    obtain ⟨head, tail, rfl, noQuote⟩ := exists_of_spellsChar isChar
    have last : readCharacters bound (behind ++ '"' :: rest) = some (characters, rest) := by
      apply ih
      rw [List.length_append, List.length_cons] at short
      omega
    have notClosed : ((head :: tail ++ behind) ++ '"' :: rest).head? ≠ some '"' := by
      simpa using noQuote
    rw [readCharacters, if_neg notClosed, first]
    simp only [last, Option.map_some]

/-- A text between quotes is read as it is spelled. -/
theorem readText_eq_some_iff {text characters rest : Text} :
    readText text = some (characters, rest) ↔
      ∃ spelled, text = spelled ++ rest ∧ SpellsText spelled characters := by
  constructor
  · intro read
    unfold readText at read
    split at read
    · cases read
    · split at read
      · rename_i quote
        subst quote
        obtain ⟨spelled, rfl, areChars⟩ := spells_of_readCharacters read
        exact ⟨_, (enclosed_append ..).symm, .quoted areChars⟩
      · cases read
  · rintro ⟨_, rfl, ⟨areChars⟩⟩
    rw [enclosed_append, readText, if_pos rfl]
    apply readCharacters_of_spells rest areChars
    rw [List.length_append, List.length_cons]
    omega

/-! ## Numbers -/

/-- The characters that could go on with a number. -/
def inNumber (c : Char) : Bool :=
  c.isDigit || c == '.' || c == 'e' || c == 'E'

/-- What cannot go on with a number cannot go on with its digits. -/
theorem Stops.digits {text : Text} (stops : Stops inNumber text) : Stops Char.isDigit text := by
  intro c head
  have outside := stops c head
  simp only [inNumber, Bool.or_eq_false_iff] at outside
  exact outside.1.1.1

/-- A character outside numbers is not at the head of what goes on with a number. -/
theorem Stops.head_ne {text : Text} (stops : Stops inNumber text) {c : Char}
    (inside : inNumber c = true) : text.head? ≠ some c := by
  intro head
  rw [stops c head] at inside
  cases inside

/-- The digits that are read are digits. -/
theorem digits_of_readDigits {text digits rest : Text}
    (read : readDigits text = some (digits, rest)) : text = digits ++ rest ∧ IsDigits digits := by
  unfold readDigits at read
  split at read
  · cases read
  · rename_i nonempty
    obtain ⟨rfl, rfl⟩ := Prod.mk.inj (Option.some.inj read)
    exact ⟨List.takeWhile_append_dropWhile.symm, nonempty, List.all_takeWhile⟩

/-- Digits are read up to what is no digit. -/
theorem readDigits_append {digits rest : Text} (proper : IsDigits digits)
    (stops : Stops Char.isDigit rest) : readDigits (digits ++ rest) = some (digits, rest) := by
  rw [readDigits, takeWhile_append_of_stops proper.2 stops,
    dropWhile_append_of_stops proper.2 stops, if_neg proper.1]

/-- The sign of a number is read as it is spelled. -/
theorem spells_readMinus (text : Text) :
    ∃ sign, text = sign ++ (readMinus text).2 ∧ SpellsMinus sign (readMinus text).1 := by
  unfold readMinus
  split
  · exact ⟨[], rfl, .absent⟩
  · split
    · rename_i minus
      subst minus
      exact ⟨['-'], rfl, .minus⟩
    · exact ⟨[], rfl, .absent⟩

theorem readMinus_append {sign rest : Text} {negative : Bool} (signs : SpellsMinus sign negative)
    (behind : rest.head? ≠ some '-') : readMinus (sign ++ rest) = (negative, rest) := by
  cases signs with
  | minus => rfl
  | absent =>
    cases rest with
    | nil => rfl
    | cons c rest =>
      have noMinus : c ≠ '-' := by simpa using behind
      rw [List.nil_append, readMinus, if_neg noMinus]

/-- The sign of a power is read as it is spelled. -/
theorem spells_readSign (text : Text) :
    ∃ sign, text = sign ++ (readSign text).2 ∧ SpellsSign sign (readSign text).1 := by
  unfold readSign
  split
  · exact ⟨[], rfl, .absent⟩
  · split
    · rename_i minus
      subst minus
      exact ⟨['-'], rfl, .minus⟩
    · split
      · rename_i plus
        subst plus
        exact ⟨['+'], rfl, .plus⟩
      · exact ⟨[], rfl, .absent⟩

theorem readSign_append {sign rest : Text} {negative : Bool} (signs : SpellsSign sign negative)
    (noMinus : rest.head? ≠ some '-') (noPlus : rest.head? ≠ some '+') :
    readSign (sign ++ rest) = (negative, rest) := by
  cases signs with
  | minus => rfl
  | plus => rfl
  | absent =>
    cases rest with
    | nil => rfl
    | cons c rest =>
      have notMinus : c ≠ '-' := by simpa using noMinus
      have notPlus : c ≠ '+' := by simpa using noPlus
      rw [List.nil_append, readSign, if_neg notMinus, if_neg notPlus]

/-- Digits begin with no sign. -/
theorem IsDigits.head_ne {digits : Text} (proper : IsDigits digits) (rest : Text) {c : Char}
    (noDigit : c.isDigit = false) : (digits ++ rest).head? ≠ some c := by
  cases digits with
  | nil => exact absurd rfl proper.1
  | cons digit digits =>
    have isDigit : digit.isDigit = true := List.all_eq_true.1 proper.2 digit List.mem_cons_self
    rintro ⟨⟩
    rw [noDigit] at isDigit
    cases isDigit

/-- The digits in front of the point are read as they are spelled. -/
theorem whole_of_readWhole {text whole rest : Text} (read : readWhole text = some (whole, rest)) :
    text = whole ++ rest ∧ IsWhole whole := by
  unfold readWhole at read
  split at read
  · cases read
  · rename_i digits behind found
    split at read
    · rename_i proper
      obtain ⟨rfl, rfl⟩ := Prod.mk.inj (Option.some.inj read)
      obtain ⟨same, areDigits⟩ := digits_of_readDigits found
      exact ⟨same, areDigits, proper⟩
    · cases read

theorem readWhole_append {whole rest : Text} (proper : IsWhole whole)
    (stops : Stops Char.isDigit rest) : readWhole (whole ++ rest) = some (whole, rest) := by
  simp only [readWhole, readDigits_append proper.1 stops, if_pos proper.2]

/-- The digits behind the point are read as they are spelled. -/
theorem fraction_of_readFraction {text fraction rest : Text}
    (read : readFraction text = some (fraction, rest)) :
    ∃ point, text = point ++ rest ∧ SpellsFraction point fraction := by
  unfold readFraction at read
  split at read
  · cases read
    exact ⟨[], rfl, .absent⟩
  · split at read
    · rename_i isPoint
      subst isPoint
      obtain ⟨rfl, proper⟩ := digits_of_readDigits read
      exact ⟨'.' :: fraction, rfl, .present proper⟩
    · cases read
      exact ⟨[], rfl, .absent⟩

theorem readFraction_append {point fraction rest : Text} (behind : SpellsFraction point fraction)
    (stops : Stops Char.isDigit rest) (noPoint : rest.head? ≠ some '.') :
    readFraction (point ++ rest) = some (fraction, rest) := by
  cases behind with
  | present proper =>
    rw [List.cons_append, readFraction, if_pos rfl, readDigits_append proper stops]
  | absent =>
    cases rest with
    | nil => rfl
    | cons c rest =>
      have notPoint : c ≠ '.' := by simpa using noPoint
      rw [List.nil_append, readFraction, if_neg notPoint]

/-- The power of ten is read as it is spelled. -/
theorem power_of_readPower {text rest : Text} {power : Int}
    (read : readPower text = some (power, rest)) :
    ∃ scale, text = scale ++ rest ∧ SpellsPower scale power := by
  unfold readPower at read
  split at read
  · cases read
    exact ⟨[], rfl, .absent⟩
  · rename_i mark behind
    split at read
    · rename_i isMark
      obtain ⟨sign, same, signs⟩ := spells_readSign behind
      obtain ⟨digits, found, rfl⟩ := map_first_eq_some_iff.1 read
      obtain ⟨whole, proper⟩ := digits_of_readDigits found
      refine ⟨mark :: (sign ++ digits), ?_, .present isMark signs proper⟩
      rw [List.cons_append, List.append_assoc]
      exact congrArg (mark :: ·) (same.trans (congrArg (sign ++ ·) whole))
    · cases read
      exact ⟨[], rfl, .absent⟩

theorem readPower_append {scale rest : Text} {power : Int} (scaled : SpellsPower scale power)
    (stops : Stops inNumber rest) : readPower (scale ++ rest) = some (power, rest) := by
  cases scaled with
  | present isMark signs proper =>
    rw [List.cons_append, List.append_assoc, readPower, if_pos isMark,
      readSign_append signs (proper.head_ne rest (by decide)) (proper.head_ne rest (by decide))]
    simp only [readDigits_append proper stops.digits, Option.map_some]
  | absent =>
    cases rest with
    | nil => rfl
    | cons c rest =>
      have outside := stops c rfl
      simp only [inNumber, Bool.or_eq_false_iff, beq_eq_false_iff_ne] at outside
      rw [List.nil_append, readPower, if_neg (not_or.2 ⟨outside.1.2, outside.2⟩)]

/-- What is read as a number spells it. -/
theorem spells_of_readNumber {text rest : Text} {decimal : Decimal}
    (read : readNumber text = some (decimal, rest)) :
    ∃ spelled, text = spelled ++ rest ∧ SpellsNumber spelled decimal := by
  obtain ⟨sign, same, signs⟩ := spells_readMinus text
  simp only [readNumber, bind, pure, Option.bind_eq_some_iff, Prod.exists] at read
  obtain ⟨whole, behind, wholeRead, fraction, left, fractionRead, power, last, powerRead, made⟩ :=
    read
  obtain ⟨rfl, rfl⟩ := Prod.mk.inj (Option.some.inj made)
  obtain ⟨wholeSame, proper⟩ := whole_of_readWhole wholeRead
  obtain ⟨point, rfl, hasFraction⟩ := fraction_of_readFraction fractionRead
  obtain ⟨scale, rfl, scaled⟩ := power_of_readPower powerRead
  refine ⟨sign ++ (whole ++ (point ++ scale)), ?_, .parts signs proper hasFraction scaled⟩
  rw [wholeSame] at same
  rw [same]
  simp only [List.append_assoc]

/-- A number is read up to what cannot go on with it. -/
theorem readNumber_append {text rest : Text} {decimal : Decimal}
    (spelled : SpellsNumber text decimal) (stops : Stops inNumber rest) :
    readNumber (text ++ rest) = some (decimal, rest) := by
  cases spelled with
  | @parts sign whole point scale negative fraction power signs proper behind scaled =>
    have noDigit : Stops Char.isDigit (scale ++ rest) := by
      cases scaled with
      | absent => exact stops.digits
      | present isMark => rcases isMark with rfl | rfl <;> exact stops_cons (by decide) _
    have noPoint : (scale ++ rest).head? ≠ some '.' := by
      cases scaled with
      | absent => exact stops.head_ne (by decide)
      | present isMark => rcases isMark with rfl | rfl <;> simp
    have noDigitBehind : Stops Char.isDigit (point ++ (scale ++ rest)) := by
      cases behind with
      | absent => exact noDigit
      | present => exact stops_cons (by decide) _
    have signRead := readMinus_append signs
      (proper.1.head_ne (point ++ (scale ++ rest)) (by decide : '-'.isDigit = false))
    simp only [List.append_assoc, readNumber, signRead, readWhole_append proper noDigitBehind,
      readFraction_append behind noDigit noPoint, readPower_append scaled stops, bind, pure,
      Option.bind_some]

end PhraseAudit.JsonText
