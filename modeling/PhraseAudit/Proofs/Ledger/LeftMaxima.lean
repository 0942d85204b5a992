import Mathlib.Data.List.Induction
import Mathlib.Order.Basic
import PhraseAudit.Text.Basic

/-!
# The entries that exceed all before them

Of a list whose entries have whole numbers as keys, the left maxima are the entries with a key above
the keys of all entries before them. They are what stays when a list is read from the left and every
entry that does not reach beyond the ones before is passed over. A ledger keeps just these of the
lines that it is offered.
-/

namespace PhraseAudit

variable {α : Type}

/-- The left maxima of a list that stands behind some entries. -/
def leftMaximaFrom (key : α → Int) (before : List α) : List α → List α
  | [] => []
  | entry :: rest =>
    if ∀ other ∈ before, key other < key entry then
      entry :: leftMaximaFrom key (before ++ [entry]) rest
    else leftMaximaFrom key (before ++ [entry]) rest

/-- The entries of a list whose key exceeds the keys of all entries before them. -/
def leftMaxima (key : α → Int) (entries : List α) : List α :=
  leftMaximaFrom key [] entries

/-- The last entry of a list is a left maximum exactly when its key exceeds all others; whether the
entries in front of it are does not depend on it. -/
theorem leftMaximaFrom_concat (key : α → Int) (before entries : List α) (last : α) :
    leftMaximaFrom key before (entries ++ [last]) = leftMaximaFrom key before entries ++
      if ∀ other ∈ before ++ entries, key other < key last then [last] else [] := by
  induction entries generalizing before with
  | nil =>
    rw [List.nil_append, List.append_nil, leftMaximaFrom, leftMaximaFrom, leftMaximaFrom]
    rfl
  | cons entry rest ih =>
    have regrouped : before ++ entry :: rest = before ++ [entry] ++ rest := by simp
    rw [List.cons_append, leftMaximaFrom, leftMaximaFrom, ih, regrouped]
    split
    · rfl
    · rfl

@[simp]
theorem leftMaxima_nil (key : α → Int) : leftMaxima key [] = [] :=
  rfl

/-- One more entry is a left maximum exactly when its key exceeds all others. -/
theorem leftMaxima_concat (key : α → Int) (entries : List α) (last : α) :
    leftMaxima key (entries ++ [last]) = leftMaxima key entries ++
      if ∀ other ∈ entries, key other < key last then [last] else [] :=
  leftMaximaFrom_concat key [] entries last

/-- The left maxima are entries of the list. -/
theorem mem_of_mem_leftMaxima {key : α → Int} {entries : List α} {entry : α}
    (member : entry ∈ leftMaxima key entries) : entry ∈ entries := by
  induction entries using List.reverseRecOn with
  | nil => cases member
  | append_singleton entries last ih =>
    rw [leftMaxima_concat] at member
    rcases List.mem_append.1 member with earlier | added
    · exact List.mem_append_left _ (ih earlier)
    · split at added
      · exact List.mem_append_right _ added
      · cases added

/-- The keys of the left maxima are the left maxima of the keys. -/
theorem map_leftMaxima (key : α → Int) (entries : List α) :
    (leftMaxima key entries).map key = leftMaxima id (entries.map key) := by
  induction entries using List.reverseRecOn with
  | nil => rfl
  | append_singleton entries last ih =>
    rw [leftMaxima_concat, List.map_append, List.map_append, List.map_singleton,
      leftMaxima_concat, ih]
    simp only [List.forall_mem_map, id_eq]
    split
    · rfl
    · rfl

/-- The keys of the left maxima increase strictly. -/
theorem leftMaxima_increase (key : α → Int) (entries : List α) :
    (leftMaxima key entries).Pairwise fun earlier later => key earlier < key later := by
  induction entries using List.reverseRecOn with
  | nil => exact List.Pairwise.nil
  | append_singleton entries last ih =>
    rw [leftMaxima_concat]
    split
    · rename_i above
      refine List.pairwise_append.2 ⟨ih, List.pairwise_singleton _ _, ?_⟩
      intro earlier member later same
      rw [List.mem_singleton.1 same]
      exact above earlier (mem_of_mem_leftMaxima member)
    · rw [List.append_nil]
      exact ih

/-- Entries whose keys increase strictly are all left maxima. -/
theorem leftMaxima_eq_self {key : α → Int} {entries : List α}
    (increasing : entries.Pairwise fun earlier later => key earlier < key later) :
    leftMaxima key entries = entries := by
  induction entries using List.reverseRecOn with
  | nil => rfl
  | append_singleton entries last ih =>
    obtain ⟨before, _, below⟩ := List.pairwise_append.1 increasing
    have above : ∀ other ∈ entries, key other < key last :=
      fun other inside => below other inside last (List.mem_singleton_self _)
    rw [leftMaxima_concat, ih before, if_pos above]

/-- The last left maximum has the greatest key of all entries. -/
theorem le_of_getLast?_leftMaxima {key : α → Int} {entries : List α} {greatest : α}
    (ends : (leftMaxima key entries).getLast? = some greatest) :
    ∀ entry ∈ entries, key entry ≤ key greatest := by
  induction entries using List.reverseRecOn generalizing greatest with
  | nil => simp
  | append_singleton entries last ih =>
    rw [leftMaxima_concat] at ends
    intro entry member
    split at ends
    · rename_i above
      rw [List.getLast?_concat] at ends
      obtain rfl := Option.some.inj ends
      rcases List.mem_append.1 member with earlier | same
      · exact Int.le_of_lt (above entry earlier)
      · exact Int.le_of_eq (congrArg key (List.mem_singleton.1 same))
    · rename_i below
      rw [List.append_nil] at ends
      rcases List.mem_append.1 member with earlier | same
      · exact ih ends entry earlier
      · rw [List.mem_singleton.1 same]
        -- Some earlier entry is not below the last one, and the greatest of them is above both.
        simp only [not_forall, Int.not_lt] at below
        obtain ⟨other, inside, reaches⟩ := below
        exact Int.le_trans reaches (ih ends other inside)

/-- A list has left maxima unless it is empty. -/
theorem leftMaxima_eq_nil_iff (key : α → Int) (entries : List α) :
    leftMaxima key entries = [] ↔ entries = [] := by
  constructor
  · intro nothing
    induction entries using List.reverseRecOn with
    | nil => rfl
    | append_singleton entries last ih =>
      rw [leftMaxima_concat] at nothing
      obtain ⟨before, added⟩ := List.append_eq_nil_iff.1 nothing
      rw [ih before] at added
      simp at added
  · rintro rfl
    rfl

/-- A left maximum is the first entry of the list that has its key. -/
theorem find?_of_mem_leftMaxima {key : α → Int} {entries : List α} {entry : α}
    (member : entry ∈ leftMaxima key entries) :
    entries.find? (fun other => key other = key entry) = some entry := by
  induction entries using List.reverseRecOn with
  | nil => cases member
  | append_singleton entries last ih =>
    rw [leftMaxima_concat] at member
    rw [List.find?_append]
    rcases List.mem_append.1 member with earlier | added
    · rw [ih earlier]
      rfl
    · split at added
      · rename_i above
        obtain rfl := List.mem_singleton.1 added
        have absent : entries.find? (fun other => key other = key entry) = none := by
          apply List.find?_eq_none.2
          intro other inside same
          exact Int.ne_of_lt (above other inside) (of_decide_eq_true same)
        rw [absent]
        simp
      · cases added

end PhraseAudit
