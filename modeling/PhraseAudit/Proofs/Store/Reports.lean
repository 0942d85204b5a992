import PhraseAudit.Proofs.Search.Numbering
import PhraseAudit.Proofs.Store.Mirror

/-!
# A store is reported as its ledger

The document and the table of a store are put together from its three dictionaries, each of which is
sorted for itself. After any history of offers they are those of the ledger with the same history, and
without a limit of digits so are the reports. A search makes such a history line by line, so that its
ledger reports what a store in its place would report.
-/

namespace PhraseAudit.Store

variable {store : Store} {row : LedgerRow}

/-- The first occurrences of a phrase, sorted by their lines, are the sightings of its row: their lines
increase already. -/
theorem Keeps.sightingsOf (keeps : store.Keeps row) (sound : row.Sound) :
    store.sightingsOf row.phrase = row.sightings := by
  have ordered : row.entries.Pairwise fun first second => decide (first.1 ≤ second.1) = true := by
    have increasing := sound.increasing
    rw [← LedgerRow.keys_entries, List.pairwise_map] at increasing
    exact increasing.imp fun below => decide_eq_true (Int.le_of_lt below)
  rw [Store.sightingsOf, keeps.entries_detailsOf, List.mergeSort_of_pairwise ordered,
    LedgerRow.entries, List.map_map]
  exact List.map_id _

section History

variable (known : PhraseSet) (history : List Offer)

/-- What a store has under the phrase of a used row of the ledger is what the row says. -/
theorem keeps_of_mem_used {row : LedgerRow}
    (used : row ∈ ((Ledger.ofKnown known).offerAll history).used) :
    ((ofKnown known).offerAll history).Keeps row ∧ row.Sound := by
  obtain ⟨phrase, member, rfl, _⟩ := (Ledger.mem_used_offerAll_iff known history row).1 used
  exact ⟨keeps_of_known known history member, sound_rowOf history phrase⟩

/-- What is told of the phrases that were seen is what is told of the used rows. -/
theorem map_phrases_offerAll {α : Type} (ofPhrase : Text → α) (ofRow : LedgerRow → α)
    (same : ∀ row, ((ofKnown known).offerAll history).Keeps row → row.Sound →
      ofPhrase row.phrase = ofRow row) :
    ((ofKnown known).offerAll history).phrases.toList.map ofPhrase =
      ((Ledger.ofKnown known).offerAll history).used.map ofRow := by
  rw [phrases_offerAll, List.map_map]
  refine List.map_congr_left fun row used => ?_
  obtain ⟨keeps, sound⟩ := keeps_of_mem_used known history used
  exact same row keeps sound

/-- A store and its ledger have the same document. -/
theorem document_offerAll (summary : Option Summary) :
    ((ofKnown known).offerAll history).document summary =
      Document.ofLedger ((Ledger.ofKnown known).offerAll history) summary := by
  have phrases : ((ofKnown known).offerAll history).known.toList =
      ((Ledger.ofKnown known).offerAll history).known.toList := by
    rw [known_offerAll, Ledger.known_offerAll]
  have occurrences := map_phrases_offerAll known history
    (fun phrase => (phrase, ((ofKnown known).offerAll history).linesOf phrase))
    (fun row => (row.phrase, row.lines))
    fun row keeps _ => congrArg (Prod.mk row.phrase) keeps.linesOf
  have details := map_phrases_offerAll known history
    (fun phrase => (phrase, ((ofKnown known).offerAll history).sightingsOf phrase))
    (fun row => (row.phrase, row.sightings))
    fun row keeps sound => congrArg (Prod.mk row.phrase) (keeps.sightingsOf sound)
  rw [document, Document.ofLedger, phrases, occurrences, details]

/-- A store and its ledger have the same table. -/
theorem tableRows_offerAll :
    ((ofKnown known).offerAll history).tableRows =
      Report.tableRows ((Ledger.ofKnown known).offerAll history) := by
  refine map_phrases_offerAll known history _ _ fun row keeps sound => ?_
  rw [keeps.linesOf, keeps.hitsOf sound]
  rfl

/-- Nothing was seen by a store exactly when nothing was seen by its ledger. -/
theorem isEmpty_offerAll :
    ((ofKnown known).offerAll history).isEmpty =
      ((Ledger.ofKnown known).offerAll history).isEmpty := by
  have phrases := phrases_offerAll known history
  have keys : ((ofKnown known).offerAll history).lines.keys = [] ↔
      ((ofKnown known).offerAll history).phrases.toList = [] := by
    rw [List.eq_nil_iff_forall_not_mem, List.eq_nil_iff_forall_not_mem]
    exact forall_congr' fun phrase => not_congr (PhraseSet.mem_ofList _ phrase).symm
  rw [phrases, List.map_eq_nil_iff] at keys
  rw [isEmpty, Ledger.isEmpty, Bool.eq_iff_iff, List.isEmpty_iff, List.isEmpty_iff]
  exact keys

/-- Without a limit of digits, a store and its ledger have the same reports: the one for readers, the
one as JSON, and the report file. -/
theorem reports_offerAll (console : Console) (summary : Option Summary) (tree : FileTree)
    (target : Path) :
    let store := (ofKnown known).offerAll history
    let ledger := (Ledger.ofKnown known).offerAll history
    store.readerEvent none console = .ok (Report.readerEvent console ledger) ∧
      store.jsonEvent none summary = .ok (Report.jsonEvent ledger summary) ∧
      ∀ limit, store.write limit tree target summary =
        Report.writeJson limit tree target ledger summary := by
  intro store ledger
  have document : store.document summary = Document.ofLedger ledger summary :=
    document_offerAll known history summary
  refine ⟨?_, ?_, fun limit => ?_⟩
  · have empty : store.isEmpty = ledger.isEmpty := isEmpty_offerAll known history
    have rows : store.tableRows = Report.tableRows ledger := tableRows_offerAll known history
    rw [readerEvent, Report.readerEvent, empty, rows]
    split <;> rfl
  · rw [jsonEvent, document]
    rfl
  · rw [write, document]
    rfl

/-- What is reported of a search that succeeded is what a store reports to which the same occurrences
were offered, line by line. -/
theorem reports_of_searchLines {stripTags : Bool} {lines : List (Int × Text)} {recorded : Ledger}
    (searched : Search.searchLines stripTags (.ofSet known) (.ofKnown known) lines = .ok recorded)
    (console : Console) (summary : Option Summary) (tree : FileTree) (target : Path) :
    let store := (ofKnown known).offerAll (lines.flatMap (Search.offersOn stripTags (.ofSet known)))
    store.readerEvent none console = .ok (Report.readerEvent console recorded) ∧
      store.jsonEvent none summary = .ok (Report.jsonEvent recorded summary) ∧
      ∀ limit, store.write limit tree target summary =
        Report.writeJson limit tree target recorded summary := by
  obtain ⟨_, rfl⟩ := (Search.searchLines_eq_ok_iff _ _ _ _ _).1 searched
  exact reports_offerAll known _ console summary tree target

end History

end PhraseAudit.Store
