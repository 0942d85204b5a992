import PhraseAudit.Auditor
import PhraseAudit.Proofs.Source.Forms

/-!
# Audits that do not see the encoding

An audit reads its source as lines and knows it by its path besides, which goes into the summary and
nowhere else. Two sources with the same lines, and in particular two files that hold one text in
different forms, have the same audit.
-/

namespace PhraseAudit.Auditor

/-- A summary that names another source. -/
def nameSource (source : Path) (found : Ledger × Summary) : Ledger × Summary :=
  (found.1, { found.2 with source := source.toText })

/-- Two sources with the same lines have the same audit, up to the name of the source in the
summary. -/
theorem run_of_lines_eq {auditor : Auditor} {codecs : Codecs} {tree other : FileTree}
    {source twin : Path}
    (same : Source.lines codecs tree auditor.encoding source =
      Source.lines codecs other auditor.encoding twin) :
    (auditor.run codecs tree source).auditor = (auditor.run codecs other twin).auditor ∧
    (auditor.run codecs tree source).notices = (auditor.run codecs other twin).notices ∧
    (auditor.run codecs tree source).result =
      (auditor.run codecs other twin).result.map (nameSource source) := by
  simp only [run, same]
  generalize auditor.collect (Source.lines codecs other auditor.encoding twin) = first
  cases first.result with
  | error error => exact ⟨rfl, rfl, rfl⟩
  | ok phrases =>
    refine ⟨rfl, rfl, ?_⟩
    simp only
    generalize first.auditor.searchKnown (Source.lines codecs other auditor.encoding twin) phrases =
      second
    cases second.result with
    | error error => rfl
    | ok ledger => rfl

/-- It makes no difference to a run in which form a file holds a text, as long as the form shows.

There is one way to tell the lines of the text apart: no line holds a character that ends lines, the
lines with their terminators are the text, and a carriage return before a line feed does not end a
line by itself. Every content that holds the text is read as just these lines, numbered from one on,
and to the end. So an auditor that detects the encoding gathers the same phrases from it, with the
same counts and notices, and a whole audit has the same notices, the same ledger and the same
summary or the same error as that of a file that holds the text in another form, but for the name of
the source.

Proof: the form of a text is decoded as the text. The mark in front says how, and a text without one
has no form that could be taken for another. -/
theorem encoding_transparent (codecs : Codecs) {text : Text} {content form : List UInt8}
    (held : Source.Holds text content) (heldAlso : Source.Holds text form) :
    (∃ split : Lines, split.Exact ∧ split.toText = text ∧
      (∀ other : Lines, other.Exact → other.toText = text → other = split) ∧
      (Source.linesOfBytes codecs [] content).failure = none ∧
      (Source.linesOfBytes codecs [] content).items.map (·.2) = split.all ∧
      (Source.linesOfBytes codecs [] content).items.map (·.1) =
        (List.range split.all.length).map fun index : Nat => (index : Int) + 1) ∧
    Source.linesOfBytes codecs [] content = Source.linesOfBytes codecs [] form ∧
    ∀ (auditor : Auditor) (tree other : FileTree) (source twin : Path),
      auditor.encoding = [] → tree.read source = .ok content → other.read twin = .ok form →
      auditor.collect (Source.lines codecs tree auditor.encoding source) =
        auditor.collect (Source.lines codecs other auditor.encoding twin) ∧
      (auditor.run codecs tree source).auditor = (auditor.run codecs other twin).auditor ∧
      (auditor.run codecs tree source).notices = (auditor.run codecs other twin).notices ∧
      (auditor.run codecs tree source).result =
        (auditor.run codecs other twin).result.map (nameSource source) := by
  have lines := Source.linesOfBytes_of_decodesTo
    (Source.decodesTo_of_holds held : Source.DecodesTo codecs [] content text)
  have linesAlso := Source.linesOfBytes_of_decodesTo
    (Source.decodesTo_of_holds heldAlso : Source.DecodesTo codecs [] form text)
  refine ⟨⟨Lines.ofText text, Lines.exact_ofText text, Lines.toText_ofText text, ?_, ?_, ?_, ?_⟩,
    lines.trans linesAlso.symm, ?_⟩
  · rintro other exact rfl
    exact exact.ofText_toText.symm
  · rw [lines]
  · rw [lines, Source.map_snd_number]
  · rw [lines, Source.map_fst_number]
  · intro auditor tree other source twin detected read readAlso
    have same : Source.lines codecs tree auditor.encoding source =
        Source.lines codecs other auditor.encoding twin := by
      rw [detected, Source.lines_of_holds held read, Source.lines_of_holds heldAlso readAlso]
    exact ⟨congrArg auditor.collect same, run_of_lines_eq same⟩

/-- A text with a character of two surrogates, with the character of the mark in the middle, and with
one whose bytes in UTF-16 are those of line ends, once in big-endian UTF-16 and once in plain UTF-8. It
has two lines. -/
theorem encoding_transparent_twice :
    let text : Text := "😀 cat\r\n@[static#cat]\ufeff\u0d0a".toList
    let content := 0xFE :: 0xFF :: Utf16.encode .big text
    let form := Utf8.encode text
    let tree : FileTree := ⟨[(["doc.txt".toList], .file content)], []⟩
    let other : FileTree := ⟨[(["twin.txt".toList], .file form)], []⟩
    let source : Path := Path.ofText "doc.txt".toList
    let twin : Path := Path.ofText "twin.txt".toList
    Source.Holds text content ∧ Source.Holds text form ∧
      tree.read source = .ok content ∧ other.read twin = .ok form ∧
      (Source.linesOfBytes .plain [] content).items.map (·.2) =
        ["😀 cat".toList, "@[static#cat]\ufeff\u0d0a".toList] ∧
      ((Auditor.new true []).run .plain tree source).notices =
        ((Auditor.new true []).run .plain other twin).notices := by
  intro text content form tree other source twin
  have held : Source.Holds text content := .utf16Big
  have heldAlso : Source.Holds text form := .plainUtf8 (by decide)
  have read : tree.read source = .ok content := rfl
  have readAlso : other.read twin = .ok form := rfl
  obtain ⟨⟨split, _, _, unique, _, lines, _⟩, _, alike⟩ :=
    encoding_transparent .plain held heldAlso
  obtain rfl := unique (Lines.ofText text) (Lines.exact_ofText text) (Lines.toText_ofText text)
  exact ⟨held, heldAlso, read, readAlso, lines.trans (by decide),
    (alike (Auditor.new true []) tree other source twin rfl read readAlso).2.2.1⟩

end PhraseAudit.Auditor
