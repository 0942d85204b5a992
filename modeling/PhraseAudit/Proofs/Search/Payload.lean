import PhraseAudit.Proofs.Ledger.Snippets
import PhraseAudit.Proofs.Marker.Rewrap
import PhraseAudit.Proofs.Search.Original

/-!
# What markers wrap does not matter to a search

Two searches are compared, of some lines and of the same lines with other blocks in the places of
their markers. They record the same in step, line by line, up to the snippets, which are taken from
the lines as they are written. The lines may be numbered in any way, and a search that is refused is
refused in both. What is reported of a line is found in the text outside its markers.
-/

namespace PhraseAudit

/-- The part of a line outside its markers, joined, and with its tags blanked out if tags are. -/
def Line.outsideMarkers (stripTags : Bool) (line : Text) : Text :=
  let gaps := (MarkerBlock.pattern.cut line).filled []
  if stripTags then Tag.blank gaps else gaps

/-- What is searched of a line is the part outside its markers. -/
theorem Line.searchable_eq_outsideMarkers (stripTags : Bool) (line : Text) :
    searchable stripTags line = outsideMarkers stripTags line := by
  rw [searchable, outsideMarkers, Marker.remove_eq_filled]

namespace Search

/-- Numbered lines with other blocks in the places of their markers, chosen for each line by its
place and for each of its markers by its number. -/
def rewrapLines (choose : Nat → Nat → MarkerBlock) (lines : List (Int × Text)) :
    List (Int × Text) :=
  lines.mapIdx fun index pair => (pair.1, Marker.rewrap (choose index) pair.2)

/-- What is recorded on a line, but for the snippet, depends on the occurrences alone. -/
theorem recordAll_bare (sighting : Sighting) (found : List (Phrase × List (Found Unit)))
    (ledger : Ledger) :
    (recordAll sighting ledger found).map Ledger.bare =
      recordAll sighting.bare ledger.bare found := by
  induction found generalizing ledger with
  | nil => rfl
  | cons pair others ih =>
    obtain ⟨phrase, occurrences⟩ := pair
    have bare := ledger.record_bare phrase.text sighting occurrences.length
    rw [recordAll, recordAll, bare]
    cases recorded : ledger.record phrase.text sighting occurrences.length with
    | mk verdict after =>
      cases verdict with
      | ok novelty => exact ih after
      | error error => rfl

/-- Lines of which the same is searched lead from ledgers that agree up to their snippets to
ledgers that agree so again, or are both refused. -/
theorem searchLine_congr {stripTags : Bool} (index : PhraseIndex) {first second : Ledger}
    (agree : first.bare = second.bare) (number : Int) {line other : Text}
    (same : Line.searchable stripTags line = Line.searchable stripTags other) :
    (searchLine stripTags index first number line).map Ledger.bare =
      (searchLine stripTags index second number other).map Ledger.bare := by
  rw [searchLine, searchLine, recordAll_bare, recordAll_bare, agree, same]
  rfl

/-- Rewrapped lines are searched in step with the lines. -/
theorem searchLines_rewrapLines (stripTags : Bool) (index : PhraseIndex)
    {choose : Nat → Nat → MarkerBlock}
    (wellFormed : ∀ index number, (choose index number).WellFormed) (lines : List (Int × Text))
    {first second : Ledger} (agree : first.bare = second.bare) :
    (searchLines stripTags index first (rewrapLines choose lines)).map Ledger.bare =
      (searchLines stripTags index second lines).map Ledger.bare := by
  induction lines generalizing choose first second with
  | nil => exact congrArg Except.ok agree
  | cons pair others ih =>
    have step := searchLine_congr index agree pair.1
      (Marker.searchable_rewrap (wellFormed 0) stripTags pair.2)
    rw [rewrapLines, List.mapIdx_cons, searchLines, searchLines]
    rcases Ledger.map_bare_eq step with
      ⟨error, atFirst, atSecond⟩ | ⟨_, _, atFirst, atSecond, after⟩
    · rw [atFirst, atSecond]
    · rw [atFirst, atSecond]
      exact ih (fun place => wellFormed (place + 1)) after

/-- A search of rewrapped lines gives what the search of the lines gives, up to the snippets. -/
theorem search_rewrapLines (auditor : Auditor) (known : PhraseSet)
    {choose : Nat → Nat → MarkerBlock}
    (wellFormed : ∀ index number, (choose index number).WellFormed)
    (lines : List (Int × Text)) (failure : Option ReadError) :
    (auditor.search ⟨rewrapLines choose lines, failure⟩ known).result.map Ledger.bare =
      (auditor.search ⟨lines, failure⟩ known).result.map Ledger.bare := by
  by_cases nothing : (PhraseIndex.ofSet known).phrases.isEmpty = true
  · simp [Auditor.search, nothing]
  · have step := searchLines_rewrapLines auditor.stripTags (PhraseIndex.ofSet known) wellFormed
      lines (rfl : (Ledger.ofKnown known).bare = _)
    simp only [Auditor.search, nothing, if_false, Bool.false_eq_true]
    rcases Ledger.map_bare_eq step with
      ⟨error, atFirst, atSecond⟩ | ⟨_, _, atFirst, atSecond, after⟩
    · rw [atFirst, atSecond]
    · rw [atFirst, atSecond]
      cases failure with
      | none => exact congrArg Except.ok after
      | some error => rfl

/-- A phrase that a line holds outside its markers, and the number of the line. -/
def HeldOutside (stripTags : Bool) (lines : List (Int × Text)) (text : Text) (number : Int) :
    Prop :=
  ∃ phrase : Phrase, phrase.text = text ∧
    ∃ pair ∈ lines, pair.1 = number ∧ phrase.Occurs (Line.outsideMarkers stripTags pair.2)

/-- Recording phrases on a line that was told of each of them keeps a ledger supported. -/
theorem recordAll_supported {told : Text → Int → Prop} {sighting : Sighting}
    {found : List (Phrase × List (Found Unit))}
    (offered : ∀ pair ∈ found, told pair.1.text sighting.line) {ledger recorded : Ledger}
    (supported : ledger.Supported told) (success : recordAll sighting ledger found = .ok recorded) :
    recorded.Supported told := by
  induction found generalizing ledger with
  | nil =>
    cases success
    exact supported
  | cons pair others ih =>
    obtain ⟨phrase, occurrences⟩ := pair
    have after := supported.record (offered _ List.mem_cons_self) occurrences.length
    rw [recordAll] at success
    split at success
    · rename_i recordedOne accepted
      rw [accepted] at after
      exact ih (fun pair inside => offered pair (List.mem_cons_of_mem _ inside)) after success
    · cases success

/-- Searching keeps a ledger supported by the lines outside their markers. The induction is on the
lines still to be searched. -/
theorem searchLines_supported {stripTags : Bool} {known : PhraseSet}
    {lines others : List (Int × Text)} (inside : ∀ pair ∈ others, pair ∈ lines)
    {ledger recorded : Ledger} (supported : ledger.Supported (HeldOutside stripTags lines))
    (success : searchLines stripTags (PhraseIndex.ofSet known) ledger others = .ok recorded) :
    recorded.Supported (HeldOutside stripTags lines) := by
  induction others generalizing ledger with
  | nil =>
    cases success
    exact supported
  | cons pair others ih =>
    rw [searchLines] at success
    cases step : searchLine stripTags (PhraseIndex.ofSet known) ledger pair.1 pair.2 with
    | error error =>
      rw [step] at success
      cases success
    | ok after =>
      rw [step] at success
      have offered : ∀ entry ∈
          (PhraseIndex.ofSet known).occurrences (Line.searchable stripTags pair.2),
          HeldOutside stripTags lines entry.1.text pair.1 := by
        intro entry found
        obtain ⟨_, same, occurs⟩ := (PhraseIndex.mem_occurrences_iff known _ entry).1 found
        rw [same, ← Phrase.occurs_iff, Line.searchable_eq_outsideMarkers] at occurs
        exact ⟨entry.1, rfl, pair, inside pair List.mem_cons_self, rfl, occurs⟩
      exact ih (fun other later => inside other (List.mem_cons_of_mem _ later))
        (recordAll_supported offered supported step) success

/-- Everything that a search reports is held outside the markers of its line. -/
theorem search_supported {auditor : Auditor} {known : PhraseSet} {lines : List (Int × Text)}
    {failure : Option ReadError} {ledger : Ledger}
    (success : (auditor.search ⟨lines, failure⟩ known).result = .ok ledger) :
    ledger.Supported (HeldOutside auditor.stripTags lines) := by
  have start := Ledger.supported_ofKnown (HeldOutside auditor.stripTags lines) known
  by_cases nothing : (PhraseIndex.ofSet known).phrases.isEmpty = true
  · simp only [Auditor.search, nothing, if_true] at success
    cases success
    exact start
  · simp only [Auditor.search, nothing, if_false, Bool.false_eq_true] at success
    cases read : searchLines auditor.stripTags (PhraseIndex.ofSet known) (Ledger.ofKnown known)
        lines with
    | error error =>
      rw [read] at success
      cases success
    | ok recorded =>
      rw [read] at success
      cases failure with
      | some error => cases success
      | none =>
        cases success
        exact searchLines_supported (fun _ inside => inside) start read

/-- What the markers of some lines wrap has no influence on a search of the lines.

A line is cut at its markers into gaps, the places of the markers, and a rest. When blocks of one's
choice are put in these places, the scan finds just these blocks in the new line, and the same part
of it is searched, with and without tags. A search of lines changed in this way is refused where the
search of the lines is, and otherwise gives the same phrases with the same lines and hits. What it
reports of a line is held by the text outside the markers of the line.

Proof: a marker cannot run into a chosen block without having run into the block before, so the gaps
stay free of markers. The searches record in step, since they see the same occurrences. -/
theorem search_payload_independent (auditor : Auditor) (known : PhraseSet)
    (lines : List (Int × Text)) (failure : Option ReadError)
    {choose : Nat → Nat → MarkerBlock}
    (wellFormed : ∀ index number, (choose index number).WellFormed) :
    (∀ index line,
      (MarkerBlock.pattern.cut line).toText = line ∧
      (MarkerBlock.pattern.cut line).spans = MarkerBlock.pattern.scan line ∧
      MarkerBlock.pattern.scan (Marker.rewrap (choose index) line) =
        ((MarkerBlock.pattern.cut line).rewrap (choose index)).spans ∧
      ∀ stripTags, Line.searchable stripTags (Marker.rewrap (choose index) line) =
        Line.searchable stripTags line) ∧
    (auditor.search ⟨rewrapLines choose lines, failure⟩ known).result.map Ledger.bare =
      (auditor.search ⟨lines, failure⟩ known).result.map Ledger.bare ∧
    ∀ ledger, (auditor.search ⟨lines, failure⟩ known).result = .ok ledger →
      ∀ row ∈ ledger.used, ∀ number ∈ row.lines, ∃ phrase : Phrase, phrase.text = row.phrase ∧
        ∃ pair ∈ lines, pair.1 = number ∧
          phrase.Occurs (Line.outsideMarkers auditor.stripTags pair.2) := by
  refine ⟨?_, search_rewrapLines auditor known wellFormed lines failure, ?_⟩
  · intro index line
    obtain ⟨cuts, whole⟩ := MarkerBlock.pattern.cuts_cut line
    have spans := Pattern.scan_toText_of_cuts cuts
    rw [whole] at spans
    exact ⟨whole, spans.symm, Marker.scan_rewrap (wellFormed index) line,
      fun stripTags => Marker.searchable_rewrap (wellFormed index) stripTags line⟩
  · intro ledger success row used number inside
    exact search_supported success row ((ledger.mem_used_iff row).1 used).1 number inside

/-- One block, which looks like the beginning of another marker and like a tag, in the place of a
marker behind a beginning that leads nowhere. The numbers of the lines fall. -/
theorem search_payload_independent_opening :
    let block : MarkerBlock := ⟨"Static-Header".toList, "@[static#<b>".toList⟩
    let choose : Nat → Nat → MarkerBlock := fun _ _ => block
    let line := "@[static@[static#cat] cat".toList
    let lines : List (Int × Text) := [(3, line), (1, line)]
    let known := PhraseSet.ofList ["cat".toList]
    (∀ index number, (choose index number).WellFormed) ∧
      (MarkerBlock.pattern.scan (Marker.rewrap (choose 0) line)).map
          (fun span => (span.start, span.stop, span.value)) = [(8, 37, block)] ∧
      ((Auditor.new true []).search ⟨rewrapLines choose lines, none⟩ known).result.map
          Ledger.bare =
        ((Auditor.new true []).search ⟨lines, none⟩ known).result.map Ledger.bare := by
  intro block choose line lines known
  have wellFormed : ∀ index number, (choose index number).WellFormed := by
    intro _ _
    have allowed : block.payload.all MarkerBlock.isPayload = true := by decide
    exact ⟨⟨.header, by decide⟩, List.all_eq_true.1 allowed⟩
  obtain ⟨each, runs, _⟩ :=
    search_payload_independent (Auditor.new true []) known lines none wellFormed
  obtain ⟨_, _, scanned, _⟩ := each 0 line
  refine ⟨wellFormed, ?_, runs⟩
  rw [scanned]
  decide

/-- A text that a line holds only inside a marker can be reported. The line holds the phrase nowhere
but in what the marker wraps, and what stands on either side of the marker makes up the phrase. -/
theorem wrapped_text_reported :
    let york : Phrase := ⟨"New York".toList, by decide⟩
    let line := "Ne@[static#New York]w York".toList
    york.OccursAt line 11 ∧
    (∀ start, york.OccursAt line start → ∃ span ∈ MarkerBlock.pattern.scan line,
      span.start ≤ start ∧ start + york.text.length ≤ span.stop) ∧
    ∃ ledger, ((Auditor.new false []).search ⟨[(1, line)], none⟩
        (PhraseSet.ofList [york.text])).result = .ok ledger ∧
      ∃ row ∈ ledger.used, row.phrase = york.text ∧ 1 ∈ row.lines := by
  intro york line
  let lines : List (Int × Text) := [(1, line)]
  have increasing : lines.Pairwise fun earlier later => earlier.1 < later.1 := by decide
  have member : york.text ∈ PhraseSet.ofList [york.text] :=
    (PhraseSet.mem_ofList _ _).2 List.mem_cons_self
  obtain ⟨ledger, success, rows⟩ :=
    search_rows (Auditor.new false []) (PhraseSet.ofList [york.text]) lines increasing
  have recorded := mem_lines_iff increasing rows member
    (List.mem_cons_self : ((1, line) : Int × Text) ∈ lines)
  have inside : york.OccursAt line 11 := by
    set_option maxRecDepth 2000 in decide
  have around : york.Occurs (Line.searchable false line) := by
    set_option maxRecDepth 2000 in decide
  refine ⟨inside, ?_, ledger, success, recorded.2 around⟩
  intro start stands
  have fits := Phrase.length_le_of_occursAt stands
  have everywhere : ∀ place < 19, york.OccursAt line place →
      ∃ span ∈ MarkerBlock.pattern.scan line,
        span.start ≤ place ∧ place + york.text.length ≤ span.stop := by
    set_option maxRecDepth 2000 in decide
  have length : start + 8 ≤ 26 := fits
  exact everywhere start (by omega) stands

end Search

end PhraseAudit
