import PhraseAudit.Proofs.Encoding.Resuming
import PhraseAudit.Proofs.Source.Forms
import PhraseAudit.Proofs.Source.Strict
import PhraseAudit.Proofs.Text.Lines

/-!
# Sources that break off

When a content cannot be read to its end, the lines that are delivered nevertheless stay lines of
every content that goes on from there and can be read: they come first in it, with the same numbers.
When it cannot go on at all, nothing is delivered, unless it breaks off in a surrogate.
-/

namespace PhraseAudit

namespace Lines

/-- Lines that are ended stay the first ones when their text goes on, if it does not go on within a
terminator. The induction is on these lines, each of which is split off with its terminator. -/
theorem Exact.ended_begins {lines : Lines} (exact : lines.Exact) {more : Text}
    (apart : lines.toText.getLast? = some '\r' → more.head? ≠ some '\n') :
    lines.ended <+: (ofText (lines.toText ++ more)).ended := by
  obtain ⟨ended, rest⟩ := lines
  induction ended with
  | nil => exact List.nil_prefix
  | cons first ended ih =>
    obtain ⟨line, terminator⟩ := first
    obtain ⟨plain, alone, later⟩ := (exact_cons_iff _ _ _ _).1 exact
    have others := ih later fun last => apart (by rw [toText_cons]; simp [last])
    have behind : terminator = .carriageReturn →
        (toText ⟨ended, rest⟩ ++ more).head? ≠ some '\n' := by
      rintro rfl
      cases text : toText ⟨ended, rest⟩ with
      | nil => exact apart (by rw [toText_cons, text]; simp [Terminator.toText])
      | cons c text' =>
        have first := alone rfl
        rwa [text] at first
    rw [toText_cons, List.append_assoc, List.append_assoc, ofText_append plain,
      ofText_terminator behind, foldr_addChar_addLine]
    exact (List.prefix_cons_inj _).2 others

/-- The lines of a text that are known to be ended are the first lines of every text that goes on from
there. -/
theorem complete_settled_begins {text whole : Text} (begins : text <+: whole) :
    (ofText (settled text)).complete <+: (ofText whole).all := by
  have parted : ∃ more, settled text ++ more = whole ∧
      ((settled text).getLast? = some '\r' → more.head? ≠ some '\n') := by
    obtain ⟨more, rfl⟩ := begins
    unfold settled
    split
    · rename_i last
      obtain ⟨front, rfl⟩ := List.getLast?_eq_some_iff.1 last
      refine ⟨'\r' :: more, ?_, fun _ => (by decide : some '\r' ≠ some '\n')⟩
      rw [List.dropLast_concat, List.append_assoc, List.singleton_append]
    · rename_i notLast
      exact ⟨more, rfl, fun last => absurd last notLast⟩
  obtain ⟨more, rfl, apart⟩ := parted
  have same : (ofText (settled text)).toText = settled text := toText_ofText _
  have ended := (exact_ofText (settled text)).ended_begins (same.symm ▸ apart)
  rw [same] at ended
  have complete : (ofText (settled text)).complete <+: (ofText (settled text ++ more)).complete :=
    ended.map _
  refine complete.trans ?_
  unfold all
  split
  · exact List.prefix_refl _
  · exact List.prefix_append _ _

end Lines

namespace Encoding

/-- The byte order marks of UTF-16. -/
def wideMarks : List (List UInt8) :=
  [[0xFF, 0xFE], [0xFE, 0xFF]]

/-- Where a decoder can go on and all bytes can be read, the text of the first of them stands in front
of the text of all. -/
theorem runBehind_text_begins {decoder : Decoder} (lawful : decoder.Lawful)
    {mark position : Nat} {bytes more : List UInt8} {whole : Text}
    (decodedWhole : decoder.runBehind mark position (bytes ++ more) = ⟨whole, none⟩) :
    (decoder.runBehind mark position bytes).text <+: whole := by
  obtain ⟨pending, readWhole, _⟩ := (lawful.runBehind_eq_iff mark whole).1 decodedWhole
  cases read : decoder.decode position bytes with
  | error fault =>
    rw [lawful.stays more read] at readWhole
    cases readWhole
  | ok decoded =>
    rw [lawful.runBehind_of_decode read]
    exact (lawful.resumes read).text_begins readWhole

/-- Nothing is read of a part of a mark. -/
theorem text_eq_nil_of_part {part mark : List UInt8} (member : mark ∈ marks) (begins : part <+: mark)
    (proper : ¬ mark <+: part) : (Encoding.utf8.decode part).text = [] := by
  have parts : ∀ mark ∈ marks, ∀ count < mark.length,
      (Encoding.utf8.decode (mark.take count)).text = [] := by
    decide
  have short : part.length < mark.length := by
    refine Nat.lt_of_not_le fun long => proper ?_
    exact begins.eq_of_length_le long ▸ List.prefix_refl part
  rw [List.prefix_iff_eq_take.1 begins]
  exact parts mark member part.length short

/-- What is decoded of the first bytes of a content stands in front of what is decoded of the whole
content, when this can be read, also when a mark is only seen in the whole. -/
theorem decode_text_begins {content more : List UInt8} {whole : Text}
    (decodedWhole : (detect (content ++ more)).decode (content ++ more) = ⟨whole, none⟩) :
    ((detect content).decode content).text <+: whole := by
  by_cases marked : ∃ mark ∈ marks, mark <+: content
  · obtain ⟨mark, member, rest, rfl⟩ := marked
    simp only [marks, List.mem_cons, List.not_mem_nil, or_false] at member
    rw [List.append_assoc] at decodedWhole
    rcases member with rfl | rfl | rfl
    · exact runBehind_text_begins lawful_utf8Decoder decodedWhole
    · exact runBehind_text_begins (lawful_utf16Decoder .little) decodedWhole
    · exact runBehind_text_begins (lawful_utf16Decoder .big) decodedWhole
  · have unmarked : ∀ mark ∈ marks, ¬ mark <+: content := fun mark member begins =>
      marked ⟨mark, member, begins⟩
    rw [detect_of_unmarked unmarked]
    by_cases markedWhole : ∃ mark ∈ marks, mark <+: content ++ more
    · obtain ⟨mark, member, begins⟩ := markedWhole
      have part : content <+: mark :=
        (List.prefix_or_prefix_of_prefix (List.prefix_append content more) begins).resolve_right
          (unmarked mark member)
      rw [text_eq_nil_of_part member part (unmarked mark member)]
      exact List.nil_prefix
    · rw [detect_of_unmarked fun mark member begins => markedWhole ⟨mark, member, begins⟩]
        at decodedWhole
      exact runBehind_text_begins lawful_utf8Decoder decodedWhole

end Encoding

namespace Source

/-- What comes first has the same numbers. -/
theorem number_begins {texts others : List Text} (begins : texts <+: others) (first : Int) :
    number first texts <+: number first others := by
  obtain ⟨behind, rfl⟩ := begins
  induction texts generalizing first with
  | nil => exact List.nil_prefix
  | cons text texts ih => exact (List.prefix_cons_inj _).2 (ih (first + 1))

variable {codecs : Codecs}

/-- What a decoded content with a fault delivers. -/
theorem items_linesOf_of_fault {decoding : Decoding} (faulty : decoding.fault ≠ none) :
    (linesOf decoding).items = number 1 (Lines.ofText (Lines.settled decoding.text)).complete := by
  obtain ⟨text, fault⟩ := decoding
  cases fault with
  | none => exact absurd rfl faulty
  | some fault => exact numbered_endedPieces _

/-- A content that is not read to its end has a fault. -/
theorem fault_of_failure {content : List UInt8}
    (failed : (linesOfBytes codecs [] content).failure ≠ none) :
    ((Encoding.detect content).decode content).fault ≠ none := by
  intro complete
  rw [linesOfBytes_detected, linesOf, complete] at failed
  exact failed rfl

/-- The lines that are delivered of a content in front of a fault come first in every content that
goes on from there and is read to its end. -/
theorem items_prefix_of_failure {others : Codecs} {content more : List UInt8}
    (failed : (linesOfBytes codecs [] content).failure ≠ none)
    (completed : (linesOfBytes others [] (content ++ more)).failure = none) :
    (linesOfBytes codecs [] content).items <+: (linesOfBytes others [] (content ++ more)).items := by
  obtain ⟨whole, decodedTo⟩ := (failure_linesOfBytes_eq_none_iff [] _).1 completed
  rw [linesOfBytes_of_decodesTo decodedTo, linesOfBytes_detected,
    items_linesOf_of_fault (fault_of_failure failed)]
  obtain ⟨codec, named, decodedWhole⟩ := decodedTo
  cases named
  exact number_begins (Lines.complete_settled_begins (Encoding.decode_text_begins decodedWhole)) 1

/-- The contents that hold a text in UTF-8, behind the mark of it or without one, and behind the text
only the two bytes that would begin a surrogate. -/
inductive BreaksOffInSurrogate (text : Text) : List UInt8 → Prop where
  | signed {broken : List UInt8} (begins : Utf8.BeginsSurrogate broken) :
    BreaksOffInSurrogate text (0xEF :: 0xBB :: 0xBF :: (Utf8.encode text ++ broken))
  | plain {broken : List UInt8} (begins : Utf8.BeginsSurrogate broken)
    (unmarked : text.head? ≠ some Text.markCharacter) :
    BreaksOffInSurrogate text (Utf8.encode text ++ broken)

/-- What is decoded of a content that breaks off in a surrogate is the text in front of it. -/
theorem decode_of_breaksOff {content : List UInt8} {text : Text}
    (breaks : BreaksOffInSurrogate text content) :
    (Encoding.detect content).decode content =
      ⟨text, some (.malformed (Utf8.fault 0 [0xED] .invalidContinuation))⟩ := by
  have decoded : ∀ {broken}, Utf8.BeginsSurrogate broken → ∀ mark,
      Encoding.utf8Decoder.runBehind mark 0 (Utf8.encode text ++ broken) =
        ⟨text, some (.malformed (Utf8.fault 0 [0xED] .invalidContinuation))⟩ := by
    intro broken begins mark
    have read : Encoding.utf8Decoder.decode 0 (Utf8.encode text ++ broken) = .ok ⟨text, broken⟩ :=
      Utf8.decodeFrom_of_beginsSurrogate begins 0 text
    have ends : Encoding.utf8Decoder.finish broken = _ := Utf8.finish_of_beginsSurrogate begins
    rw [Encoding.lawful_utf8Decoder.runBehind_of_decode read, ends]
    rfl
  cases breaks with
  | signed begins => exact decoded begins 3
  | plain begins unmarked =>
    have read := Utf8.decodeFrom_of_beginsSurrogate begins 0 text
    rw [detect_of_decodeFrom read unmarked]
    exact decoded begins 0

/-- The form of a text that begins with the character of the mark begins with the mark. -/
theorem encode_markCharacter (text : Text) :
    Utf8.encode (Text.markCharacter :: text) = 0xEF :: 0xBB :: 0xBF :: Utf8.encode text :=
  rfl

/-- The UTF-8 form of a text can be read to its end, even when it begins with the mark. -/
theorem exists_decodesTo_encode (codecs : Codecs) (text : Text) :
    ∃ read, DecodesTo codecs [] (Utf8.encode text) read := by
  by_cases marked : text.head? = some Text.markCharacter
  · obtain ⟨rest, rfl⟩ := List.head?_eq_some_iff.1 marked
    exact ⟨rest, decodesTo_of_holds .signedUtf8⟩
  · exact ⟨text, decodesTo_of_holds (.plainUtf8 marked)⟩

/-- A content of UTF-8 that makes up one chunk either has a fault before anything is read of it, or
holds a text, behind the mark or without it, and bytes that wait. -/
theorem text_eq_nil_or_exists_parts {content : List UInt8} (small : content.length ≤ Chunks.size)
    (narrow : ∀ mark ∈ Encoding.wideMarks, ¬ mark <+: content) :
    ((Encoding.detect content).decode content).text = [] ∨
      ∃ text broken, (Utf8.BeginsForm broken ∨ Utf8.BeginsSurrogate broken) ∧
        (content = 0xEF :: 0xBB :: 0xBF :: (Utf8.encode text ++ broken) ∨
          text.head? ≠ some Text.markCharacter ∧ content = Utf8.encode text ++ broken) := by
  have parts : ∀ {mark body}, mark + body.length ≤ Chunks.size →
      (Encoding.utf8Decoder.runBehind mark 0 body).text = [] ∨
        ∃ text broken, (Utf8.BeginsForm broken ∨ Utf8.BeginsSurrogate broken) ∧
          body = Utf8.encode text ++ broken := by
    intro mark body fits
    cases read : Encoding.utf8Decoder.decode 0 body with
    | error fault =>
      rw [Decoder.runBehind_of_error Encoding.lawful_utf8Decoder fits read]
      exact .inl rfl
    | ok inner =>
      exact .inr ⟨inner.text, inner.pending, Utf8.beginsForm_or_beginsSurrogate read,
        Utf8.eq_encode_append_of_decodeFrom read⟩
  by_cases signed : [0xEF, 0xBB, 0xBF] <+: content
  · obtain ⟨body, rfl⟩ := signed
    have fits : 3 + body.length ≤ Chunks.size := by
      rwa [List.length_append] at small
    rcases parts fits with nothing | ⟨text, broken, waits, rfl⟩
    · exact .inl nothing
    · exact .inr ⟨text, broken, waits, .inl rfl⟩
  · have unmarked : ∀ mark ∈ Encoding.marks, ¬ mark <+: content := by
      intro mark member
      rcases List.mem_cons.1 member with rfl | wide
      · exact signed
      · exact narrow mark wide
    rw [Encoding.detect_of_unmarked unmarked]
    have fits : 0 + content.length ≤ Chunks.size := by rwa [Nat.zero_add]
    rcases parts fits with nothing | ⟨text, broken, waits, rfl⟩
    · exact .inl nothing
    · refine .inr ⟨text, broken, waits, .inr ⟨fun marked => signed ?_, rfl⟩⟩
      obtain ⟨rest, begins⟩ := List.head?_eq_some_iff.1 marked
      rw [begins, encode_markCharacter]
      exact ⟨Utf8.encode rest ++ broken, rfl⟩

/-- Where no content goes on from some bytes of one chunk and can be read to its end, no line of these
bytes is delivered, unless they break off in a surrogate. -/
theorem items_eq_nil_of_stuck {content : List UInt8} (small : content.length ≤ Chunks.size)
    (narrow : ∀ mark ∈ Encoding.wideMarks, ¬ mark <+: content)
    (stuck : ∀ more text, ¬ DecodesTo codecs [] (content ++ more) text)
    (whole : ∀ text, ¬ BreaksOffInSurrogate text content) :
    (linesOfBytes codecs [] content).items = [] := by
  rcases text_eq_nil_or_exists_parts small narrow with nothing | ⟨text, broken, waits, parts⟩
  · have failed : (linesOfBytes codecs [] content).failure ≠ none := by
      rw [ne_eq, failure_linesOfBytes_eq_none_iff]
      rintro ⟨text, decodes⟩
      exact stuck [] text ((List.append_nil content).symm ▸ decodes)
    rw [linesOfBytes_detected, items_linesOf_of_fault (fault_of_failure failed), nothing]
    rfl
  · exfalso
    rcases waits with ⟨behind, c, form⟩ | surrogate
    · have longer : Utf8.encode text ++ broken ++ behind = Utf8.encode (text ++ [c]) := by
        simp only [Utf8.encode, List.flatMap_append, List.flatMap_singleton, ← form,
          List.append_assoc]
      rcases parts with rfl | ⟨_, rfl⟩
      · refine stuck behind (text ++ [c]) ?_
        have held : DecodesTo codecs [] _ (text ++ [c]) := decodesTo_of_holds .signedUtf8
        rw [← longer] at held
        exact held
      · obtain ⟨read, decodes⟩ := exists_decodesTo_encode codecs (text ++ [c])
        rw [← longer] at decodes
        exact stuck behind read decodes
    · rcases parts with rfl | ⟨unmarked, rfl⟩
      · exact whole _ (.signed surrogate)
      · exact whole _ (.plain surrogate unmarked)

/-- Lines that are delivered in front of a fault are never taken back.

When a content cannot be read to its end, the numbered lines that are delivered of it come first in
every content that goes on from there and is read to its end. When moreover it is read in one chunk, as
every content of at most 4096 bytes is, it begins with no mark of UTF-16, and no content that goes on
from there is read to its end, no line is delivered, unless it breaks off in a surrogate. The decoder
waits for a third byte then, and the lines that are known to be ended in front of the two bytes are
delivered. -/
theorem delivered_lines_stay {tree : FileTree} {source : Path} {content : List UInt8}
    (read : tree.read source = .ok content)
    (failed : (lines codecs tree [] source).failure ≠ none) :
    (∀ other twin more, other.read twin = .ok (content ++ more) →
      (lines codecs other [] twin).failure = none →
        (lines codecs tree [] source).items <+: (lines codecs other [] twin).items) ∧
    (content.length ≤ Chunks.size → (∀ mark ∈ Encoding.wideMarks, ¬ mark <+: content) →
      (∀ other twin more, other.read twin = .ok (content ++ more) →
        (lines codecs other [] twin).failure ≠ none) →
      (∀ text, ¬ BreaksOffInSurrogate text content) →
        (lines codecs tree [] source).items = []) ∧
    ∀ text, BreaksOffInSurrogate text content →
      (lines codecs tree [] source).items =
        number 1 (Lines.ofText (Lines.settled text)).complete := by
  have items : (lines codecs tree [] source).items = (linesOfBytes codecs [] content).items := by
    simp only [lines, read]
  have failedBytes : (linesOfBytes codecs [] content).failure ≠ none := by
    simpa only [lines, read, ne_eq, Option.map_eq_none_iff] using failed
  rw [items]
  refine ⟨?_, ?_, ?_⟩
  · intro other twin more readTwin completed
    simp only [lines, readTwin, Option.map_eq_none_iff] at completed ⊢
    exact items_prefix_of_failure failedBytes completed
  · intro small narrow stuck whole
    refine items_eq_nil_of_stuck small narrow (fun more text decodes => ?_) whole
    let other : FileTree := ⟨[([['a']], .file (content ++ more))], []⟩
    have readTwin : other.read ⟨.current, [['a']]⟩ = .ok (content ++ more) := rfl
    exact stuck other _ more readTwin ((failure_lines_eq_none_iff readTwin []).2 ⟨text, decodes⟩)
  · intro text breaks
    rw [linesOfBytes_detected, decode_of_breaksOff breaks]
    exact numbered_endedPieces _

/-- A content that breaks off in a surrogate: nothing that goes on from it can be read, and still a line
of it is delivered. -/
theorem surrogate_delivers_line :
    let content : List UInt8 := [0x61, 0x0A, 0xED, 0xA0]
    let tree : FileTree := ⟨[(["doc.txt".toList], .file content)], []⟩
    let source : Path := Path.ofText "doc.txt".toList
    tree.read source = .ok content ∧ content.length ≤ 4096 ∧
      (lines .plain tree [] source).failure ≠ none ∧
      (∀ mark ∈ Encoding.wideMarks, ¬ mark <+: content) ∧
      (∀ other twin more, FileTree.read other twin = .ok (content ++ more) →
        (lines .plain other [] twin).failure ≠ none) ∧
      (lines .plain tree [] source).items = [(1, ['a'])] := by
  intro content tree source
  refine ⟨rfl, by decide, by decide, by decide, ?_, by decide⟩
  intro other twin more read
  rw [ne_eq, failure_lines_eq_none_iff read]
  rintro ⟨text, codec, named, decoded⟩
  cases named
  obtain ⟨pending, whole, _⟩ :=
    (Encoding.lawful_utf8Decoder.runBehind_eq_iff 0 text).1 decoded
  cases more with
  | nil =>
    cases whole
    cases decoded
  | cons byte rest => cases whole

/-- A content that is cut off within a character, the same one as a whole, and one with a byte that no
character has. -/
theorem delivered_lines_stay_cut :
    let cut : List UInt8 := [0x61, 0x0A, 0xC3]
    let whole : List UInt8 := [0x61, 0x0A, 0xC3, 0xA9]
    let broken : List UInt8 := [0x61, 0x0A, 0xFF]
    let tree : FileTree := ⟨[(["cut.txt".toList], .file cut), (["whole.txt".toList], .file whole),
      (["broken.txt".toList], .file broken)], []⟩
    let cutSource : Path := Path.ofText "cut.txt".toList
    let wholeSource : Path := Path.ofText "whole.txt".toList
    let brokenSource : Path := Path.ofText "broken.txt".toList
    tree.read cutSource = .ok cut ∧ tree.read wholeSource = .ok (cut ++ [0xA9]) ∧
      tree.read brokenSource = .ok broken ∧
      (lines .plain tree [] cutSource).failure ≠ none ∧
      (lines .plain tree [] brokenSource).failure ≠ none ∧
      (lines .plain tree [] cutSource).items <+: (lines .plain tree [] wholeSource).items ∧
      (lines .plain tree [] brokenSource).items = [] := by
  intro cut whole broken tree cutSource wholeSource brokenSource
  have readCut : tree.read cutSource = .ok cut := rfl
  have readWhole : tree.read wholeSource = .ok (cut ++ [0xA9]) := rfl
  have readBroken : tree.read brokenSource = .ok broken := rfl
  have failedCut : (lines .plain tree [] cutSource).failure ≠ none := by decide
  have failedBroken : (lines .plain tree [] brokenSource).failure ≠ none := by decide
  refine ⟨readCut, readWhole, readBroken, failedCut, failedBroken, ?_, ?_⟩
  · exact (delivered_lines_stay readCut failedCut).1 tree wholeSource _ readWhole (by decide)
  · refine (delivered_lines_stay readBroken failedBroken).2.1 (by decide) (by decide) ?_ ?_
    · intro other twin more read
      rw [ne_eq, failure_lines_eq_none_iff read]
      rintro ⟨text, codec, named, decoded⟩
      cases named
      obtain ⟨pending, whole, _⟩ :=
        (Encoding.lawful_utf8Decoder.runBehind_eq_iff 0 text).1 decoded
      cases whole
    · intro text breaks
      have decoded := decode_of_breaksOff breaks
      cases decoded

end Source

end PhraseAudit
