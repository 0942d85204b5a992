import PhraseAudit.Console
import PhraseAudit.Proofs.Encoding.Utf8
import PhraseAudit.Proofs.Json.Printed
import PhraseAudit.Proofs.Report.AllOrNothing
import PhraseAudit.Proofs.Report.Coherent

/-!
# Reports that can be read back

The JSON of a report says all that the document says, in the same order and with no key twice. It is
one text, which the console prints with a line feed behind it, and which the report file holds in
UTF-8. Whoever reads this text as JSON has the document again.
-/

namespace PhraseAudit

/-! ## What the JSON of a document tells -/

/-- A snippet of the details is told by its JSON. -/
theorem Sighting.toJson_injective {sighting other : Sighting}
    (same : sighting.toJson = other.toJson) : sighting = other := by
  simp only [toJson, Json.object.injEq, List.cons.injEq, Prod.mk.injEq, Json.number.injEq,
    Json.text.injEq, true_and, and_true] at same
  cases sighting
  cases other
  rw [Sighting.mk.injEq]
  exact same

/-- The JSON of a snippet has no key twice. -/
theorem Sighting.distinctKeys_toJson (sighting : Sighting) :
    sighting.toJson.toValue.DistinctKeys := by
  refine Json.distinctKeys_object (by simp only [List.map_cons, List.map_nil]; decide) ?_
  simp only [List.forall_mem_cons]
  exact ⟨.number _, .text _, List.forall_mem_nil _⟩

/-- The JSON of the figures of a run has no key twice. -/
theorem Summary.distinctKeys_toJson (summary : Summary) :
    summary.toJson.toValue.DistinctKeys := by
  refine Json.distinctKeys_object (by simp only [List.map_cons, List.map_nil]; decide) ?_
  simp only [List.forall_mem_cons]
  exact ⟨.text _, .number _, .number _, .number _, .number _, List.forall_mem_nil _⟩

/-- The figures of a run are told by their JSON. -/
theorem Summary.toJson_injective {summary other : Summary} (same : summary.toJson = other.toJson) :
    summary = other := by
  simp only [toJson, Json.object.injEq, List.cons.injEq, Prod.mk.injEq, Json.number.injEq,
    Json.text.injEq, true_and, and_true] at same
  cases summary
  cases other
  rw [Summary.mk.injEq]
  exact same

namespace Document

/-- The members that a summary adds tell the summary. -/
theorem summaryMembers_injective {summary other : Option Summary}
    (same : summaryMembers summary = summaryMembers other) : summary = other := by
  cases summary with
  | none =>
    cases other with
    | none => rfl
    | some other => cases same
  | some summary =>
    cases other with
    | none => cases same
    | some other =>
      simp only [summaryMembers, List.cons.injEq, Prod.mk.injEq, true_and, and_true] at same
      rw [Summary.toJson_injective same.2]

/-- Lists under keys are told by their JSON when their entries are. -/
theorem eq_of_listed_eq {α : Type} {toJson : α → Json}
    (told : ∀ entry other, toJson entry = toJson other → entry = other)
    {rows others : List (Text × List α)}
    (same : (rows.map fun (key, entries) => (key, Json.list (entries.map toJson))) =
      others.map fun (key, entries) => (key, Json.list (entries.map toJson))) : rows = others := by
  refine (List.map_inj_right ?_).1 same
  rintro ⟨key, entries⟩ ⟨otherKey, otherEntries⟩ equal
  obtain ⟨keys, lists⟩ := Prod.mk.inj equal
  exact Prod.ext keys ((List.map_inj_right told).1 (Json.list.inj lists))

/-- A document is told by its JSON. -/
theorem toJson_injective {document other : Document} (same : document.toJson = other.toJson) :
    document = other := by
  simp only [toJson, Json.object.injEq, List.cons_append, List.nil_append, List.cons.injEq,
    Prod.mk.injEq, Json.list.injEq, true_and] at same
  obtain ⟨phrases, occurrences, details, summaries⟩ := same
  cases document
  cases other
  rw [Document.mk.injEq]
  exact ⟨(List.map_inj_right fun _ _ => Json.text.inj).1 phrases,
    eq_of_listed_eq (fun _ _ => Json.number.inj) occurrences,
    eq_of_listed_eq (fun _ _ => Sighting.toJson_injective) details,
    summaryMembers_injective summaries⟩

/-- A list of lists under distinct keys has distinct keys, when the entries of the lists have. -/
theorem distinctKeys_listed {α : Type} {toJson : α → Json}
    (distinct : ∀ entry, (toJson entry).toValue.DistinctKeys) {rows : List (Text × List α)}
    (keys : (rows.map (·.1)).Nodup) :
    (Json.toValue (.object (rows.map fun (key, entries) =>
      (key, .list (entries.map toJson))))).DistinctKeys := by
  refine Json.distinctKeys_object ?_ fun member isMember => ?_
  · rw [List.map_map]
    exact keys
  · obtain ⟨⟨key, entries⟩, _, rfl⟩ := List.mem_map.1 isMember
    refine Json.distinctKeys_list fun item isItem => ?_
    obtain ⟨entry, _, rfl⟩ := List.mem_map.1 isItem
    exact distinct entry

/-- The members that a summary adds have two more keys. -/
theorem nodup_keys_toJson (summary : Option Summary) (phrases occurrences details : Json) :
    (([("phrases".toList, phrases), ("occurrences".toList, occurrences),
      ("details".toList, details)] ++ summaryMembers summary).map (·.1)).Nodup := by
  cases summary <;>
    simp only [summaryMembers, List.append_nil, List.cons_append, List.nil_append, List.map_cons,
      List.map_nil] <;> decide

/-- The document about a ledger has no key twice, since each phrase has one row in the ledger. -/
theorem distinctKeys_ofLedger (ledger : Ledger) (summary : Option Summary) :
    (ofLedger ledger summary).toJson.toValue.DistinctKeys := by
  have distinct : (ledger.used.map (·.phrase)).Nodup :=
    Text.nodup_of_increasing ledger.used_increase
  have phrases : (Json.toValue (.list (ledger.known.toList.map .text))).DistinctKeys := by
    refine Json.distinctKeys_list fun item isItem => ?_
    obtain ⟨phrase, _, rfl⟩ := List.mem_map.1 isItem
    exact .text phrase
  have numbers : ∀ line, (Json.toValue (.number line)).DistinctKeys := fun _ => .number _
  have occurrences := distinctKeys_listed numbers
    (keys_occurrences ledger summary ▸ distinct)
  have details := distinctKeys_listed Sighting.distinctKeys_toJson
    (keys_details ledger summary ▸ distinct)
  refine Json.distinctKeys_object (nodup_keys_toJson summary _ _ _) ?_
  simp only [List.cons_append, List.nil_append, List.forall_mem_cons]
  refine ⟨phrases, occurrences, details, ?_⟩
  cases summary with
  | none => exact List.forall_mem_nil _
  | some summary =>
    simp only [ofLedger, summaryMembers, List.forall_mem_cons]
    exact ⟨.text _, summary.distinctKeys_toJson, List.forall_mem_nil _⟩

end Document

namespace Report

/-- The JSON of a report says what the document about the ledger says, and nothing else.

Whatever the ledger holds, its text is JSON. It denotes the document, with its members in their
order, and no other value, and this value is what is read from it. No key comes twice in an object,
so that no member hides another. Two texts are the same only if the documents are. A report that was
written to a file holds this text in UTF-8, from which the text comes back, and on the console the
text has one line feed behind it.

Proof: every level of the printed text is one of the ways to write its value. A text that is read as
it is spelled spells one value only, and the JSON of a document tells the document. -/
theorem json_reads_back (ledger : Ledger) (summary : Option Summary) :
    let document := Document.ofLedger ledger summary
    let text := jsonText ledger summary
    (∀ value, JsonText.Denotes text value ↔ value = document.toJson.toValue) ∧
    JsonText.read text = some document.toJson.toValue ∧
    document.toJson.toValue.DistinctKeys ∧
    (∀ other otherSummary, jsonText other otherSummary = text →
      Document.ofLedger other otherSummary = document) ∧
    (∀ limit tree target notices after,
      writeJson limit tree target ledger summary = (.ok notices, after) →
      after.read target = .ok (Utf8.encode text)) ∧
    Utf8.decode (Utf8.encode text) = .ok ⟨text, []⟩ ∧
    jsonEvent ledger summary = ⟨.standard, .json (text ++ ['\n'])⟩ := by
  intro document text
  have denotes : JsonText.Denotes text document.toJson.toValue := Json.denotes_print document.toJson
  refine ⟨?_, JsonText.read_eq_some_iff.2 denotes, Document.distinctKeys_ofLedger ledger summary,
    ?_, ?_, Utf8.decodeFrom_encode 0 text, rfl⟩
  · intro value
    constructor
    · intro denotesAlso
      exact denotesAlso.unique denotes
    · rintro rfl
      exact denotes
  · intro other otherSummary same
    exact Document.toJson_injective (Json.print_injective same)
  · intro limit tree target notices after done
    exact read_of_writeJson done

end Report

end PhraseAudit
