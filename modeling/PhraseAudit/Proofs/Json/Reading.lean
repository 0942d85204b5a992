import PhraseAudit.Proofs.Json.Tokens

/-!
# What is read is what is spelled

The reader accepts the texts that the grammar calls JSON, and no others, and gives back what they
spell. So no text spells two values.

A reader of entries is sound when it reads only what is spelled, and complete up to a length when it
reads all that is spelled in a text of this length, as long as nothing behind it could go on with a
number. Both are passed on from the reader of the entries to the reader of what stands between
brackets, and from there to the values that are one level higher.
-/

namespace PhraseAudit.JsonText

/-! ## Sequences -/

section Entries

variable {α : Type} {spells : Text → α → Prop} {readEntry : Text → Option (α × Text)}

/-- Whatever a reader reads is spelled by what it has read. -/
def Sound (spells : Text → α → Prop) (readEntry : Text → Option (α × Text)) : Prop :=
  ∀ text rest entry, readEntry text = some (entry, rest) →
    ∃ spelled, text = spelled ++ rest ∧ spells spelled entry

/-- A reader reads all that is spelled by texts up to a length, where nothing goes on with it. -/
def Complete (spells : Text → α → Prop) (readEntry : Text → Option (α × Text)) (limit : Nat) :
    Prop :=
  ∀ text rest entry, spells text entry → text.length ≤ limit → Stops inNumber rest →
    readEntry (text ++ rest) = some (entry, rest)

/-- A text begins neither with a blank nor with a closing bracket. -/
def Begins (text : Text) : Prop :=
  ∃ c rest, text = c :: rest ∧ isSpace c = false ∧ c ≠ ']' ∧ c ≠ '\x7d'

/-- What closes a list or an object. -/
def Closes (c : Char) : Prop :=
  c = ']' ∨ c = '\x7d'

theorem Closes.isSpace {close : Char} (closes : Closes close) : isSpace close = false := by
  rcases closes with rfl | rfl <;> rfl

theorem Closes.inNumber {close : Char} (closes : Closes close) : inNumber close = false := by
  rcases closes with rfl | rfl <;> rfl

theorem Closes.ne_comma {close : Char} (closes : Closes close) : ',' ≠ close := by
  rcases closes with rfl | rfl <;> decide

/-- The blanks at the head and what is left behind them. -/
theorem takeWhile_append_skip (text : Text) :
    text = text.takeWhile isSpace ++ skip text :=
  List.takeWhile_append_dropWhile.symm

/-- What begins with no blank is left when the blanks in front of it are left out. -/
theorem skip_append {before text : Text} (blank : before.all isSpace = true) (begins : Begins text)
    (rest : Text) : skip (before ++ (text ++ rest)) = text ++ rest := by
  obtain ⟨c, behind, rfl, noSpace, _⟩ := begins
  exact dropWhile_append_of_stops blank (stops_cons noSpace _)

/-- A blank does not go on with a number. -/
theorem stops_append_of_blank {gap rest : Text} (blank : gap.all isSpace = true)
    (stops : Stops inNumber rest) : Stops inNumber (gap ++ rest) := by
  cases gap with
  | nil => exact stops
  | cons c gap =>
    have space : isSpace c = true := List.all_eq_true.1 blank c List.mem_cons_self
    apply stops_cons
    simp only [isSpace, Bool.or_eq_true, beq_iff_eq] at space
    rcases space with ((rfl | rfl) | rfl) | rfl <;> rfl

/-- An entry is spelled with the blanks around it that are left out. -/
theorem padded_of_readPadded (sound : Sound spells readEntry) {text rest : Text} {entry : α}
    (read : readPadded readEntry text = some (entry, rest)) :
    ∃ padded, text = padded ++ rest ∧ Padded spells padded entry := by
  obtain ⟨⟨found, left⟩, inside, same⟩ := Option.map_eq_some_iff.1 read
  obtain ⟨rfl, rfl⟩ := Prod.mk.inj same
  obtain ⟨spelled, behind, isEntry⟩ := sound _ _ _ inside
  refine ⟨text.takeWhile isSpace ++ (spelled ++ left.takeWhile isSpace), ?_,
    .around List.all_takeWhile isEntry List.all_takeWhile⟩
  calc text = text.takeWhile isSpace ++ skip text := takeWhile_append_skip text
    _ = text.takeWhile isSpace ++ (spelled ++ (left.takeWhile isSpace ++ skip left)) := by
      rw [← takeWhile_append_skip left, ← behind]
    _ = text.takeWhile isSpace ++ (spelled ++ left.takeWhile isSpace) ++ skip left := by
      simp only [List.append_assoc]

/-- An entry is read with the blanks around it. -/
theorem readPadded_append {limit : Nat} (complete : Complete spells readEntry limit)
    (begins : ∀ text entry, spells text entry → Begins text) {text rest : Text} {entry : α}
    (padded : Padded spells text entry) (short : text.length ≤ limit) (noSpace : Stops isSpace rest)
    (stops : Stops inNumber rest) : readPadded readEntry (text ++ rest) = some (entry, rest) := by
  cases padded with
  | @around before inner after _ blankBefore spelled blankAfter =>
    have inside : inner.length ≤ limit := by
      rw [List.length_append, List.length_append] at short
      omega
    rw [List.append_assoc, List.append_assoc, readPadded,
      skip_append blankBefore (begins _ _ spelled),
      complete _ _ _ spelled inside (stops_append_of_blank blankAfter stops), Option.map_some]
    exact congrArg (fun left => some (entry, left)) (dropWhile_append_of_stops blankAfter noSpace)

/-- What is read as a sequence spells it. -/
theorem spells_of_readSequence (sound : Sound spells readEntry) {close : Char} {bound : Nat}
    {text rest : Text} {entries : List α}
    (read : readSequence readEntry close bound text = some (entries, rest)) :
    ∃ spelled, text = spelled ++ close :: rest ∧ SpellsSequence spells spelled entries := by
  induction bound generalizing text entries with
  | zero => cases read
  | succ bound ih =>
    unfold readSequence at read
    split at read
    · cases read
    · cases read
    · rename_i entry c behind first
      obtain ⟨padded, rfl, isPadded⟩ := padded_of_readPadded sound first
      split at read
      · rename_i closed
        subst closed
        cases read
        exact ⟨padded, rfl, .last isPadded⟩
      · split at read
        · rename_i comma
          subst comma
          obtain ⟨others, last, rfl⟩ := map_first_eq_some_iff.1 read
          obtain ⟨spelled, rfl, isSequence⟩ := ih last
          exact ⟨padded ++ ',' :: spelled, by simp, .more isPadded isSequence⟩
        · cases read

/-- A sequence is read up to the closing bracket. -/
theorem readSequence_append {limit : Nat} (complete : Complete spells readEntry limit)
    (begins : ∀ text entry, spells text entry → Begins text) {close : Char} (closes : Closes close)
    {bound : Nat} {text : Text} {entries : List α} (spelled : SpellsSequence spells text entries)
    (short : text.length ≤ limit) (inBound : text.length < bound) (rest : Text) :
    readSequence readEntry close bound (text ++ close :: rest) = some (entries, rest) := by
  induction spelled generalizing bound with
  | last padded =>
    obtain _ | bound := bound
    · cases inBound
    have first := readPadded_append complete begins padded short
      (stops_cons closes.isSpace rest) (stops_cons closes.inNumber rest)
    simp only [readSequence, first, if_true]
  | @more text behind entry entries padded _ ih =>
    obtain _ | bound := bound
    · cases inBound
    rw [List.length_append, List.length_cons] at short inBound
    have first := readPadded_append complete begins padded (by omega)
      (stops_cons (rfl : isSpace ',' = false) (behind ++ close :: rest))
      (stops_cons (rfl : inNumber ',' = false) (behind ++ close :: rest))
    have others : readSequence readEntry close bound (behind ++ close :: rest) =
        some (entries, rest) := ih (by omega) (by omega)
    rw [List.append_assoc, List.cons_append]
    simp only [readSequence, first, if_neg closes.ne_comma, if_true, others, Option.map_some]

/-- A sequence begins as its first entry does, behind the blanks. -/
theorem exists_skip_sequence (begins : ∀ text entry, spells text entry → Begins text) {text : Text}
    {entries : List α} (spelled : SpellsSequence spells text entries) (rest : Text) :
    ∃ c behind, skip (text ++ rest) = c :: behind ∧ c ≠ ']' ∧ c ≠ '\x7d' := by
  have padded : ∃ front behind entry, text = front ++ behind ∧ Padded spells front entry := by
    cases spelled with
    | last padded => exact ⟨_, [], _, (List.append_nil _).symm, padded⟩
    | more padded => exact ⟨_, _, _, rfl, padded⟩
  obtain ⟨_, behind, entry, rfl, ⟨blank, isEntry, _⟩⟩ := padded
  have starts := begins _ _ isEntry
  obtain ⟨c, left, rfl, _, notList, notObject⟩ := id starts
  simp only [List.append_assoc]
  exact ⟨c, _, skip_append blank starts _, notList, notObject⟩

/-- What is read between brackets spells it: nothing but blanks, or a sequence. -/
theorem spells_of_readEntries (sound : Sound spells readEntry) {close : Char} {text rest : Text}
    {entries : List α} (read : readEntries readEntry close text = some (entries, rest)) :
    ∃ spelled, text = spelled ++ close :: rest ∧
      (spelled.all isSpace = true ∧ entries = [] ∨ SpellsSequence spells spelled entries) := by
  unfold readEntries at read
  split at read
  · rename_i closed
    obtain ⟨behind, skipped⟩ := List.head?_eq_some_iff.1 closed
    have whole := takeWhile_append_skip text
    rw [skipped] at read whole
    cases read
    exact ⟨text.takeWhile isSpace, whole, .inl ⟨List.all_takeWhile, rfl⟩⟩
  · obtain ⟨spelled, same, isSequence⟩ := spells_of_readSequence sound read
    exact ⟨spelled, same, .inr isSequence⟩

/-- Blanks between brackets are read as nothing. -/
theorem readEntries_of_blank (readEntry : Text → Option (α × Text)) {close : Char}
    (closes : Closes close) {gap : Text} (blank : gap.all isSpace = true) (rest : Text) :
    readEntries readEntry close (gap ++ close :: rest) = some ([], rest) := by
  have skipped : skip (gap ++ close :: rest) = close :: rest :=
    dropWhile_append_of_stops blank (stops_cons closes.isSpace rest)
  rw [readEntries, skipped, List.head?_cons, if_pos rfl, List.tail_cons]

/-- A sequence between brackets is read as it is spelled. -/
theorem readEntries_of_sequence {limit : Nat} (complete : Complete spells readEntry limit)
    (begins : ∀ text entry, spells text entry → Begins text) {close : Char} (closes : Closes close)
    {text : Text} {entries : List α} (spelled : SpellsSequence spells text entries)
    (short : text.length ≤ limit) (rest : Text) :
    readEntries readEntry close (text ++ close :: rest) = some (entries, rest) := by
  obtain ⟨c, behind, skipped, notList, notObject⟩ :=
    exists_skip_sequence begins spelled (close :: rest)
  have notClosed : (skip (text ++ close :: rest)).head? ≠ some close := by
    rw [skipped, List.head?_cons]
    rintro ⟨⟩
    exact closes.elim notList notObject
  rw [readEntries, if_neg notClosed]
  apply readSequence_append complete begins closes spelled short
  simp

end Entries

/-! ## Members -/

section Members

variable {spells : Text → JsonValue → Prop} {readEntry : Text → Option (JsonValue × Text)}

/-- A member begins with the quote of its key. -/
theorem begins_of_spellsMember {text : Text} {member : Text × JsonValue}
    (spelled : SpellsMember spells text member) : Begins text := by
  cases spelled with
  | pair named =>
    cases named with
    | quoted => exact ⟨'"', _, rfl, by decide⟩

/-- What is read as a member spells it. -/
theorem sound_readMember (sound : Sound spells readEntry) :
    Sound (SpellsMember spells) (readMember readEntry) := by
  intro text rest member read
  unfold readMember at read
  split at read
  · cases read
  · rename_i key behind first
    obtain ⟨keyText, rfl, named⟩ := readText_eq_some_iff.1 first
    have gap := takeWhile_append_skip behind
    split at read
    · cases read
    · rename_i c left skipped
      split at read
      · rename_i colon
        subst colon
        obtain ⟨value, found, rfl⟩ := map_first_eq_some_iff.1 read
        obtain ⟨spelled, valueText, isValue⟩ := sound _ _ _ found
        have gapBehind := takeWhile_append_skip left
        refine ⟨keyText ++ (behind.takeWhile isSpace ++ ':' :: (left.takeWhile isSpace ++ spelled)),
          ?_, .pair named List.all_takeWhile List.all_takeWhile isValue⟩
        rw [valueText] at gapBehind
        rw [skipped] at gap
        simp only [List.append_assoc, List.cons_append]
        rw [← gapBehind, ← gap]
      · cases read

/-- A member is read as it is spelled. -/
theorem complete_readMember {limit : Nat} (complete : Complete spells readEntry limit)
    (begins : ∀ text value, spells text value → Begins text) :
    Complete (SpellsMember spells) (readMember readEntry) limit := by
  intro text rest member spelled short stops
  cases spelled with
  | @pair keyText before after inner key value named blankBefore blankAfter isValue =>
    have inside : inner.length ≤ limit := by
      simp only [List.length_append, List.length_cons] at short
      omega
    have first : readText (keyText ++ (before ++ ':' :: (after ++ inner)) ++ rest) =
        some (key, before ++ ':' :: (after ++ (inner ++ rest))) :=
      readText_eq_some_iff.2 ⟨keyText, by simp, named⟩
    have colon : skip (before ++ ':' :: (after ++ (inner ++ rest))) =
        ':' :: (after ++ (inner ++ rest)) :=
      dropWhile_append_of_stops blankBefore (stops_cons rfl _)
    simp only [readMember, first, colon, if_true, skip_append blankAfter (begins _ _ isValue) rest,
      complete _ _ _ isValue inside stops, Option.map_some]

end Members

/-! ## Values -/

/-- A number begins with a minus or a digit. -/
theorem exists_of_spellsNumber {text : Text} {decimal : Decimal}
    (spelled : SpellsNumber text decimal) :
    ∃ c rest, text = c :: rest ∧ (c = '-' ∨ c.isDigit = true) := by
  cases spelled with
  | @parts sign whole point scale negative fraction power signs proper =>
    cases signs with
    | minus => exact ⟨'-', _, rfl, .inl rfl⟩
    | absent =>
      cases whole with
      | nil => exact absurd rfl proper.1.1
      | cons digit whole =>
        exact ⟨digit, _, rfl, .inr (List.all_eq_true.1 proper.1.2 digit List.mem_cons_self)⟩

/-- What is neither a minus nor a digit does not begin a number. -/
theorem ne_of_begins_number {c other : Char} (begins : c = '-' ∨ c.isDigit = true)
    (noMinus : other ≠ '-') (noDigit : other.isDigit = false) : c ≠ other := by
  rintro rfl
  rcases begins with minus | digit
  · exact noMinus minus
  · rw [noDigit] at digit
    cases digit

/-- A blank does not begin a number. -/
theorem isSpace_eq_false_of_begins_number {c : Char} (begins : c = '-' ∨ c.isDigit = true) :
    isSpace c = false := by
  have differs := @ne_of_begins_number c
  simp only [isSpace, Bool.or_eq_false_iff, beq_eq_false_iff_ne]
  exact ⟨⟨⟨differs begins (by decide) (by decide), differs begins (by decide) (by decide)⟩,
    differs begins (by decide) (by decide)⟩, differs begins (by decide) (by decide)⟩

/-- A value begins neither with a blank nor with a closing bracket. -/
theorem begins_of_spells {text : Text} {value : JsonValue} (spelled : Spells text value) :
    Begins text := by
  cases spelled with
  | name known =>
    simp only [names, List.mem_cons, Prod.mk.injEq, List.not_mem_nil, or_false] at known
    rcases known with ⟨rfl, _⟩ | ⟨rfl, _⟩ | ⟨rfl, _⟩ <;> exact ⟨_, _, rfl, by decide⟩
  | number spelled =>
    obtain ⟨c, rest, rfl, begins⟩ := exists_of_spellsNumber spelled
    exact ⟨c, rest, rfl, isSpace_eq_false_of_begins_number begins,
      ne_of_begins_number begins (by decide) (by decide),
      ne_of_begins_number begins (by decide) (by decide)⟩
  | text spelled => cases spelled with | quoted => exact ⟨'"', _, rfl, by decide⟩
  | emptyList => exact ⟨'[', _, rfl, by decide⟩
  | list => exact ⟨'[', _, rfl, by decide⟩
  | emptyObject => exact ⟨'\x7b', _, rfl, by decide⟩
  | object => exact ⟨'\x7b', _, rfl, by decide⟩

/-- What is read as a name is one. -/
theorem spells_of_readName {text rest : Text} {value : JsonValue}
    (read : readName text = some (value, rest)) :
    ∃ spelled, text = spelled ++ rest ∧ (spelled, value) ∈ names := by
  obtain ⟨⟨name, known⟩, member, found⟩ := List.exists_of_findSome?_eq_some read
  simp only at found
  split at found
  · rename_i front
    obtain ⟨rfl, rfl⟩ := Prod.mk.inj (Option.some.inj found)
    obtain ⟨behind, rfl⟩ := List.isPrefixOf_iff_prefix.1 front
    exact ⟨name, by rw [List.drop_left], member⟩
  · cases found

/-- What is read as a value spells it. -/
theorem sound_readValue (bound : Nat) : Sound Spells (readValue bound) := by
  induction bound with
  | zero => nofun
  | succ bound ih =>
    intro text rest value read
    unfold readValue at read
    split at read
    · rename_i impossible
      cases impossible
    · cases read
    · rename_i depth c behind same
      obtain rfl := Nat.succ.inj same
      -- The cases are those of the reader: a text, a list, an object, a number, a name.
      split at read
      · obtain ⟨characters, found, rfl⟩ := map_first_eq_some_iff.1 read
        obtain ⟨spelled, same, isText⟩ := readText_eq_some_iff.1 found
        exact ⟨spelled, same, .text isText⟩
      · split at read
        · rename_i opened
          subst opened
          obtain ⟨items, found, rfl⟩ := map_first_eq_some_iff.1 read
          obtain ⟨spelled, rfl, ⟨blank, rfl⟩ | isSequence⟩ := spells_of_readEntries ih found
          · exact ⟨_, (enclosed_append ..).symm, .emptyList blank⟩
          · exact ⟨_, (enclosed_append ..).symm, .list isSequence⟩
        · split at read
          · rename_i opened
            subst opened
            obtain ⟨members, found, rfl⟩ := map_first_eq_some_iff.1 read
            obtain ⟨spelled, rfl, ⟨blank, rfl⟩ | isSequence⟩ :=
              spells_of_readEntries (sound_readMember ih) found
            · exact ⟨_, (enclosed_append ..).symm, .emptyObject blank⟩
            · exact ⟨_, (enclosed_append ..).symm, .object isSequence⟩
          · split at read
            · obtain ⟨decimal, found, rfl⟩ := map_first_eq_some_iff.1 read
              obtain ⟨spelled, same, isNumber⟩ := spells_of_readNumber found
              exact ⟨spelled, same, .number isNumber⟩
            · obtain ⟨spelled, same, known⟩ := spells_of_readName read
              exact ⟨spelled, same, .name known⟩

/-- A value is read as it is spelled. Its brackets are not nested more deeply than it is long. -/
theorem complete_readValue (bound : Nat) : Complete Spells (readValue bound) bound := by
  induction bound with
  | zero =>
    intro text rest value spelled short
    obtain ⟨c, behind, rfl, _⟩ := begins_of_spells spelled
    cases short
  | succ bound ih =>
    intro text rest value spelled short stops
    cases spelled with
    | name known =>
      simp only [names, List.mem_cons, Prod.mk.injEq, List.not_mem_nil, or_false] at known
      rcases known with ⟨rfl, rfl⟩ | ⟨rfl, rfl⟩ | ⟨rfl, rfl⟩ <;> rfl
    | number spelled =>
      have read := readNumber_append spelled stops
      obtain ⟨c, behind, rfl, begins⟩ := exists_of_spellsNumber spelled
      rw [List.cons_append] at read ⊢
      rw [readValue, if_neg (ne_of_begins_number begins (by decide) (by decide)),
        if_neg (ne_of_begins_number begins (by decide) (by decide)),
        if_neg (ne_of_begins_number begins (by decide) (by decide)), if_pos begins, read,
        Option.map_some]
    | @text _ characters spelled =>
      have read : readText (text ++ rest) = some (characters, rest) :=
        readText_eq_some_iff.2 ⟨text, rfl, spelled⟩
      cases spelled with
      | quoted =>
        rw [List.cons_append] at read ⊢
        rw [readValue, if_pos rfl, read, Option.map_some]
    | @emptyList gap blank =>
      rw [enclosed_append, readValue, if_neg (by decide), if_pos rfl,
        readEntries_of_blank _ (.inl rfl) blank rest, Option.map_some]
    | @list inner items spelled =>
      have inside : inner.length ≤ bound := by
        simp only [List.length_cons, List.length_append] at short
        omega
      rw [enclosed_append, readValue, if_neg (by decide), if_pos rfl, readEntries_of_sequence ih
        (fun _ _ => begins_of_spells) (.inl rfl) spelled inside rest, Option.map_some]
    | @emptyObject gap blank =>
      rw [enclosed_append, readValue, if_neg (by decide), if_neg (by decide), if_pos rfl,
        readEntries_of_blank _ (.inr rfl) blank rest, Option.map_some]
    | @object inner members spelled =>
      have inside : inner.length ≤ bound := by
        simp only [List.length_cons, List.length_append] at short
        omega
      rw [enclosed_append, readValue, if_neg (by decide), if_neg (by decide), if_pos rfl,
        readEntries_of_sequence (complete_readMember ih fun _ _ => begins_of_spells)
          (fun _ _ => begins_of_spellsMember) (.inr rfl) spelled inside rest, Option.map_some]

/-- The reader accepts what the grammar calls JSON, and gives back what it spells.

Proof: soundness and completeness of the reader of values, at a bound that the brackets of the text
cannot reach. -/
theorem read_eq_some_iff {text : Text} {value : JsonValue} :
    read text = some value ↔ Denotes text value := by
  constructor
  · intro done
    unfold read at done
    split at done
    · rename_i found whole
      cases done
      obtain ⟨padded, same, isPadded⟩ := padded_of_readPadded (sound_readValue _) whole
      rw [same, List.append_nil]
      exact isPadded
    · cases done
  · intro denotes
    have whole := readPadded_append (complete_readValue text.length)
      (fun _ _ => begins_of_spells) denotes (Nat.le_refl _) (stops_nil _) (stops_nil _)
    rw [List.append_nil] at whole
    rw [read, whole]

/-- Blanks, escapes and a key that comes twice. -/
example :
    read " [\"\\u0041\\uD83d\\ude00\\/\" , -1.50E+2, \x7b\"k\" :true,\"k\":null\x7d\n]".toList =
      some (.list [.text "A😀/".toList, .number ⟨-150, 0⟩,
        .object [("k".toList, .boolean true), ("k".toList, .null)]]) := by
  cbv

/-- No text spells two values. -/
theorem Denotes.unique {text : Text} {value other : JsonValue} (denotes : Denotes text value)
    (denotesAlso : Denotes text other) : value = other :=
  Option.some.inj ((read_eq_some_iff.2 denotes).symm.trans (read_eq_some_iff.2 denotesAlso))

end PhraseAudit.JsonText
