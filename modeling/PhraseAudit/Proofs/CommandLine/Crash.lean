import PhraseAudit.Proofs.Audit.Outcome

/-!
# Documents that crash a run

A run whose encoding is detected is crashed by the content of its source exactly when a line of the
source holds a stray marker. Everything else that can be wrong with a document is passed over or
reported.
-/

namespace PhraseAudit

/-- Some line that is delivered of the content, in the encoding that it shows, holds a stray
marker. -/
def Source.HoldsStray (content : List UInt8) : Prop :=
  ∃ pair ∈ (Source.linesOf ((Encoding.detect content).decode content)).items,
    Marker.HoldsStray pair.2

instance (content : List UInt8) : Decidable (Source.HoldsStray content) :=
  inferInstanceAs
    (Decidable (∃ pair ∈ (Source.linesOf ((Encoding.detect content).decode content)).items,
      Marker.HoldsStray pair.2))

/-- How the audit of a file with some content ends, when the encoding is detected. -/
theorem Auditor.run_outcome_of_read {auditor : Auditor} (detected : auditor.encoding = [])
    (codecs : Codecs) {tree : FileTree} {source : Path} {content : List UInt8}
    (read : tree.read source = .ok content) :
    (Source.HoldsStray content ∧ ∃ keyword,
      (auditor.run codecs tree source).result = .error (.marker (.unknownKind keyword))) ∨
    (¬ Source.HoldsStray content ∧ ∃ error,
      (auditor.run codecs tree source).result = .error (.read error) ∧ error.cause.isReported = true) ∨
    (¬ Source.HoldsStray content ∧ ∃ ledger summary,
      (auditor.run codecs tree source).result = .ok (ledger, summary)) := by
  have feed : Source.lines codecs tree auditor.encoding source =
      ⟨(Source.linesOfBytes codecs [] content).items,
        (Source.linesOfBytes codecs [] content).failure.map fun cause => ⟨source, cause⟩⟩ := by
    simp only [Source.lines, read, detected]
  have outcome := auditor.run_outcome codecs tree source
  rw [feed] at outcome
  rcases outcome with stray | ⟨pure, error, failure, ends⟩ | fine
  · exact .inl stray
  · obtain ⟨cause, failed, rfl⟩ := Option.map_eq_some_iff.1 failure
    exact .inr (.inl ⟨pure, _, ends, Source.isReported_of_detected failed⟩)
  · exact .inr (.inr fine)

namespace CommandLine

/-- A run on a source crashes exactly when its audit ends with an error that is not reported. -/
theorem runOn_crash_iff (codecs : Codecs) (tree : FileTree) (settings : Settings) (source : Path) :
    (∃ error, (runOn codecs tree settings source).ending = .crash error) ↔
      ∃ error, ((Auditor.new (!settings.keepTags) settings.encoding).run codecs tree
        source).result = .error error ∧ isReported error = false := by
  unfold runOn
  cases ends : ((Auditor.new (!settings.keepTags) settings.encoding).run codecs tree
    source).result with
  | ok outcome =>
    obtain ⟨ledger, summary⟩ := outcome
    simp [Run.ofEvents, ends]
  | error error =>
    cases reported : isReported error <;> simp [Run.ofEvents, ends, reported]

/-- A document crashes a run exactly when one of its lines holds a stray marker.

The encoding is detected, and nothing is asked of the other arguments and of the content of the
source, which is read in chunks: of a source that breaks off, the lines of the chunks before count.
An audit of a source without a stray marker gives a ledger and a summary, or a fault that is
reported. An audit of a source with a stray marker gives the error of a keyword that names no kind,
also if the source breaks off behind it, and nothing reports this error.

Proof: the first pass ends early at stray markers only, and the second pass cannot fail behind it.
-/
theorem crash_iff_holdsStray {host : Host} {tree : FileTree} {arguments : List Text}
    {settings : Settings} {source : Path} (parsed : parse arguments = .ok (.run settings))
    (detected : settings.encoding = [])
    (located : Source.locate host.homes tree settings.path = .ok source) :
    ∃ content, tree.read source = .ok content ∧
      ((∃ error, (run host tree arguments).ending = .crash error) ↔
        Source.HoldsStray content) ∧
      ∀ (codecs : Codecs) (auditor : Auditor), auditor.encoding = [] →
        (Source.HoldsStray content → ∃ keyword,
          (auditor.run codecs tree source).result = .error (.marker (.unknownKind keyword))) ∧
        (¬ Source.HoldsStray content →
          (∃ ledger summary, (auditor.run codecs tree source).result = .ok (ledger, summary)) ∨
          ∃ error, (auditor.run codecs tree source).result = .error (.read error) ∧
            error.cause.isReported = true) := by
  obtain ⟨content, read⟩ := FileTree.exists_read_of_isFile (Source.isFile_of_locate located)
  refine ⟨content, read, ?_, ?_⟩
  · have same : run host tree arguments = runOn host.codecs tree settings source := by
      simp only [run, parsed, runWith, located]
    rw [same, runOn_crash_iff]
    have auditorDetected : (Auditor.new (!settings.keepTags) settings.encoding).encoding = [] :=
      detected
    rcases Auditor.run_outcome_of_read auditorDetected host.codecs read with
      ⟨stray, keyword, ends⟩ | ⟨pure, error, ends, reported⟩ | ⟨pure, ledger, summary, ends⟩
    · exact ⟨fun _ => stray, fun _ => ⟨_, ends, rfl⟩⟩
    · refine ⟨?_, fun stray => absurd stray pure⟩
      rintro ⟨other, otherEnds, hidden⟩
      obtain rfl := Except.error.inj (ends.symm.trans otherEnds)
      rw [isReported, reported] at hidden
      cases hidden
    · refine ⟨?_, fun stray => absurd stray pure⟩
      rintro ⟨other, otherEnds, _⟩
      cases ends.symm.trans otherEnds
  · intro codecs auditor auditorDetected
    rcases Auditor.run_outcome_of_read auditorDetected codecs read with
      ⟨stray, keyword, ends⟩ | ⟨pure, error, ends, reported⟩ | ⟨pure, ledger, summary, ends⟩
    · exact ⟨fun _ => ⟨keyword, ends⟩, fun pure => absurd stray pure⟩
    · exact ⟨fun stray => absurd stray pure, fun _ => .inr ⟨error, ends, reported⟩⟩
    · exact ⟨fun stray => absurd stray pure, fun _ => .inl ⟨ledger, summary, ends⟩⟩

/-- A file of one line, on which the keyword of a marker begins with a long s. -/
theorem long_s_crashes :
    let host : Host := ⟨⟨"/home".toList, []⟩, .plain⟩
    let content : List UInt8 :=
      [0x40, 0x5B, 0xC5, 0xBF, 0x74, 0x61, 0x74, 0x69, 0x63, 0x23, 0x78, 0x5D, 0x0A]
    let tree : FileTree := ⟨[(["doc.txt".toList], .file content)], []⟩
    let settings : Settings := ⟨"doc.txt".toList, false, [], false, [], false, false⟩
    let source : Path := Path.ofText "doc.txt".toList
    parse ["doc.txt".toList] = .ok (.run settings) ∧
      Source.locate host.homes tree settings.path = .ok source ∧
      ∃ error, (run host tree ["doc.txt".toList]).ending = .crash error := by
  intro host content tree settings source
  have parsed : parse ["doc.txt".toList] = .ok (.run settings) := by decide
  have located : Source.locate host.homes tree settings.path = .ok source := by decide
  obtain ⟨found, read, crashes, _⟩ := crash_iff_holdsStray parsed rfl located
  have there : tree.read source = .ok content := by decide
  obtain rfl := Except.ok.inj (there.symm.trans read)
  exact ⟨parsed, located, crashes.2 (by decide)⟩

end CommandLine

end PhraseAudit
