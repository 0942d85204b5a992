import PhraseAudit.Auditor

/-!
# Auditors that are used again

An auditor can be given any number of tasks, and each leaves it for the next. A task may fail in the
middle, with part of a source counted. What a task comes to does not depend on what was done before:
the settings stay, and the counts are set by each first pass and read by nothing before that.
-/

namespace PhraseAudit

/-- What can be asked of an auditor. Each task brings the lines that are read, or the tree in which
they are found and the codecs with which they are read. -/
inductive AuditTask where
  | collect (feed : Feed ReadError (Int × Text))
  | search (feed : Feed ReadError (Int × Text)) (phrases : PhraseSet)
  | run (codecs : Codecs) (tree : FileTree) (source : Path)

/-- What a task results in when it succeeds. -/
inductive AuditAnswer where
  | phrases (found : PhraseSet)
  | ledger (filled : Ledger)
  | report (filled : Ledger) (summary : Summary)

/-- The same step with its result taken for an answer. -/
def AuditStep.answer {α : Type} (step : AuditStep α) (toAnswer : α → AuditAnswer) :
    AuditStep AuditAnswer :=
  ⟨step.auditor, step.notices, step.result.map toAnswer⟩

namespace Auditor

/-- The step that a task leads to. -/
def perform (auditor : Auditor) : AuditTask → AuditStep AuditAnswer
  | .collect feed => (auditor.collect feed).answer .phrases
  | .search feed phrases => (auditor.search feed phrases).answer .ledger
  | .run codecs tree source =>
    (auditor.run codecs tree source).answer fun found => .report found.1 found.2

/-- The auditor after some tasks, whether they succeeded or failed. -/
def after (auditor : Auditor) (tasks : List AuditTask) : Auditor :=
  tasks.foldl (fun current task => (current.perform task).auditor) auditor

/-- The same auditor with other counts. -/
def recounted (auditor : Auditor) (counts : Counts) : Auditor :=
  { auditor with counts := counts }

/-- A first pass sets the counts. -/
theorem collect_recounted (auditor : Auditor) (counts : Counts)
    (feed : Feed ReadError (Int × Text)) :
    (auditor.recounted counts).collect feed = auditor.collect feed :=
  rfl

/-- A second pass neither reads nor changes the counts. -/
theorem search_recounted (auditor : Auditor) (counts : Counts)
    (feed : Feed ReadError (Int × Text)) (phrases : PhraseSet) :
    (auditor.recounted counts).search feed phrases =
      { auditor.search feed phrases with auditor := auditor.recounted counts } :=
  rfl

/-- A whole audit begins with a first pass, and so does not see earlier counts. -/
theorem run_recounted (auditor : Auditor) (counts : Counts) (codecs : Codecs) (tree : FileTree)
    (source : Path) :
    (auditor.recounted counts).run codecs tree source = auditor.run codecs tree source := by
  have feed : (auditor.recounted counts).encoding = auditor.encoding := rfl
  rw [run, run, feed, collect_recounted]

/-- The auditor that a whole audit leaves is the one that its first pass leaves. -/
theorem auditor_run (auditor : Auditor) (codecs : Codecs) (tree : FileTree) (source : Path) :
    (auditor.run codecs tree source).auditor =
      (auditor.collect (Source.lines codecs tree auditor.encoding source)).auditor := by
  simp only [run]
  split
  · rfl
  · simp only [searchKnown]
    split <;> rfl

/-- No task changes the settings. -/
theorem auditor_perform (auditor : Auditor) (task : AuditTask) :
    ∃ counts, (auditor.perform task).auditor = auditor.recounted counts := by
  cases task with
  | collect feed => exact ⟨_, rfl⟩
  | search feed phrases => exact ⟨auditor.counts, rfl⟩
  | run codecs tree source => exact ⟨_, auditor_run auditor codecs tree source⟩

/-- No history changes the settings. The induction is on the tasks, from the first on. -/
theorem exists_recounted_after (auditor : Auditor) (history : List AuditTask) :
    ∃ counts, auditor.after history = auditor.recounted counts := by
  induction history generalizing auditor with
  | nil => exact ⟨auditor.counts, rfl⟩
  | cons task rest ih =>
    obtain ⟨first, changed⟩ := auditor.auditor_perform task
    obtain ⟨counts, same⟩ := ih (auditor.perform task).auditor
    refine ⟨counts, same.trans ?_⟩
    rw [changed]
    rfl

/-- After every history, of tasks that succeeded and tasks that failed, an auditor performs a task as
a new auditor with the same settings does.

It gives the same notices in the same order, and the same result or error. A search leaves the
auditor as it was, with its counts. After a first pass or a whole audit, also one that failed in the
middle, the auditor is the one that a new auditor would be after this task alone.

Proof: a history changes nothing but the counts, and each task sets them before it reads them, or
does not touch them at all. -/
theorem performs_as_new (auditor : Auditor) (history : List AuditTask) (task : AuditTask) :
    let used := auditor.after history
    let fresh := Auditor.new auditor.stripTags auditor.encoding
    (used.perform task).notices = (fresh.perform task).notices ∧
    (used.perform task).result = (fresh.perform task).result ∧
    (used.perform task).auditor = match task with
      | .search _ _ => used
      | .collect _ | .run _ _ _ => (fresh.perform task).auditor := by
  intro used fresh
  obtain ⟨counts, same⟩ := auditor.exists_recounted_after history
  have recount : used = fresh.recounted counts := same
  rw [recount]
  cases task with
  | collect feed =>
    simp only [perform, collect_recounted, and_self]
  | search feed phrases =>
    simp only [perform, search_recounted, AuditStep.answer, and_self]
  | run codecs tree source =>
    simp only [perform, run_recounted, and_self]

end Auditor

end PhraseAudit
