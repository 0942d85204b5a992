import PhraseAudit.Text.Basic

/-!
# Dictionaries

A dictionary has one value for each of its keys. The keys stay in the order in which they came: a new
value for a key takes the place of the old one, and a new key comes behind all others.
-/

namespace PhraseAudit

/-- Keys with their values, in the order in which the keys came. -/
structure Dictionary (κ ν : Type) where
  entries : List (κ × ν)
  distinct : (entries.map (·.1)).Nodup

namespace Dictionary

variable {κ ν : Type} [DecidableEq κ]

/-- The dictionary without keys. -/
def empty : Dictionary κ ν :=
  ⟨[], List.nodup_nil⟩

/-- The keys, in the order in which they came. -/
def keys (dictionary : Dictionary κ ν) : List κ :=
  dictionary.entries.map (·.1)

/-- The value of a key. -/
def get? (dictionary : Dictionary κ ν) (key : κ) : Option ν :=
  dictionary.entries.lookup key

/-- Puts the value of a key in the place of the old one, or behind all entries. -/
def insertEntry (key : κ) (value : ν) : List (κ × ν) → List (κ × ν)
  | [] => [(key, value)]
  | (stored, old) :: rest =>
    if stored = key then (key, value) :: rest else (stored, old) :: insertEntry key value rest

/-- An insertion adds a new key behind the others, and leaves the keys alone otherwise. -/
theorem keys_insertEntry (key : κ) (value : ν) (entries : List (κ × ν)) :
    (insertEntry key value entries).map (·.1) =
      if key ∈ entries.map (·.1) then entries.map (·.1) else entries.map (·.1) ++ [key] := by
  induction entries with
  | nil => rfl
  | cons entry rest ih =>
    obtain ⟨stored, old⟩ := entry
    by_cases here : stored = key
    · simp [insertEntry, here]
    · simp only [insertEntry, if_neg here, List.map_cons, ih, List.mem_cons, Ne.symm here, false_or]
      split <;> rfl

/-- The value that was inserted for a key is found, and everything else is found as before. -/
theorem lookup_insertEntry (key other : κ) (value : ν) (entries : List (κ × ν)) :
    (insertEntry key value entries).lookup other =
      if other = key then some value else entries.lookup other := by
  induction entries with
  | nil =>
    rw [insertEntry, List.lookup_cons]
    by_cases same : other = key
    · rw [if_pos same, beq_iff_eq.2 same]
    · rw [if_neg same, beq_false_of_ne same]
  | cons entry rest ih =>
    obtain ⟨stored, old⟩ := entry
    by_cases here : stored = key
    · subst here
      rw [insertEntry, if_pos rfl, List.lookup_cons, List.lookup_cons]
      by_cases same : other = stored
      · rw [if_pos same, beq_iff_eq.2 same]
      · rw [if_neg same, beq_false_of_ne same]
    · simp only [insertEntry, if_neg here, List.lookup_cons, ih]
      by_cases same : other = stored
      · simp [same, here]
      · simp [beq_false_of_ne same]

/-- The dictionary with a value for a key, in place of the old one. -/
def insert (dictionary : Dictionary κ ν) (key : κ) (value : ν) : Dictionary κ ν where
  entries := insertEntry key value dictionary.entries
  distinct := by
    rw [keys_insertEntry]
    split
    · exact dictionary.distinct
    · rename_i new
      have alone : [key].Nodup := List.nodup_cons.2 ⟨List.not_mem_nil, List.nodup_nil⟩
      refine List.nodup_append.2 ⟨dictionary.distinct, alone, ?_⟩
      rintro stored member _ last rfl
      exact new (List.mem_singleton.1 last ▸ member)

/-- The dictionary with a value for a key, unless it has one already. -/
def ensure (dictionary : Dictionary κ ν) (key : κ) (value : ν) : Dictionary κ ν :=
  match dictionary.get? key with
  | none => dictionary.insert key value
  | some _ => dictionary

/-- An inserted value is found, and everything else is found as before. -/
theorem get?_insert (dictionary : Dictionary κ ν) (key other : κ) (value : ν) :
    (dictionary.insert key value).get? other =
      if other = key then some value else dictionary.get? other :=
  lookup_insertEntry key other value dictionary.entries

/-- An insertion adds a new key behind the others, and leaves the keys alone otherwise. -/
theorem keys_insert (dictionary : Dictionary κ ν) (key : κ) (value : ν) :
    (dictionary.insert key value).keys =
      if key ∈ dictionary.keys then dictionary.keys else dictionary.keys ++ [key] :=
  keys_insertEntry key value dictionary.entries

/-- A new key comes behind all entries. -/
theorem insertEntry_of_new {key : κ} {entries : List (κ × ν)} (new : key ∉ entries.map (·.1))
    (value : ν) : insertEntry key value entries = entries ++ [(key, value)] := by
  induction entries with
  | nil => rfl
  | cons entry rest ih =>
    obtain ⟨stored, old⟩ := entry
    obtain ⟨different, later⟩ := not_or.1 (mt List.mem_cons.2 new)
    rw [insertEntry, if_neg (Ne.symm different), ih later, List.cons_append]

/-- The keys are those that have a value. -/
theorem mem_keys_iff (dictionary : Dictionary κ ν) (key : κ) :
    key ∈ dictionary.keys ↔ ∃ value, dictionary.get? key = some value := by
  unfold keys get?
  induction dictionary.entries with
  | nil => simp
  | cons entry rest ih =>
    obtain ⟨stored, value⟩ := entry
    by_cases same : key = stored
    · simp [same]
    · simp only [List.map_cons, List.mem_cons, same, false_or, ih, List.lookup_cons,
        beq_false_of_ne same]

/-- A key that was made sure of has its old value, or else the given one. -/
theorem get?_ensure (dictionary : Dictionary κ ν) (key other : κ) (value : ν) :
    (dictionary.ensure key value).get? other =
      if other = key then some ((dictionary.get? key).getD value) else dictionary.get? other := by
  unfold ensure
  cases found : dictionary.get? key with
  | none => exact dictionary.get?_insert key other value
  | some old =>
    change dictionary.get? other = if other = key then some old else dictionary.get? other
    split
    · rename_i same
      rw [same, found]
    · rfl

/-- Making sure of a key adds it behind the others when it is new. -/
theorem keys_ensure (dictionary : Dictionary κ ν) (key : κ) (value : ν) :
    (dictionary.ensure key value).keys =
      if key ∈ dictionary.keys then dictionary.keys else dictionary.keys ++ [key] := by
  unfold ensure
  cases found : dictionary.get? key with
  | none => exact dictionary.keys_insert key value
  | some old => exact (if_pos ((dictionary.mem_keys_iff key).2 ⟨old, found⟩)).symm

end Dictionary

end PhraseAudit
