import PhraseAudit.Proofs.Text.Lines
import PhraseAudit.Source

/-!
# Reading a source

A source that was found can be read. Its lines are numbered from one on, whether or not they are all
there, and they are all there exactly when its content is decoded to the end. When its encoding is
detected, every fault of its content is reported. None of this depends on which codecs a host has.
-/

namespace PhraseAudit

/-- A regular file can be read. -/
theorem FileTree.exists_read_of_isFile {tree : FileTree} {path : Path}
    (regular : tree.isFile path = .ok true) : ∃ content, tree.read path = .ok content := by
  unfold isFile whether at regular
  unfold read
  cases found : tree.find path with
  | error fault =>
    rw [found] at regular
    cases fault <;> cases regular
  | ok entry =>
    rw [found] at regular
    cases entry with
    | folder => cases regular
    | file content => exact ⟨content, rfl⟩

namespace Source

/-- What a path was found to mean is a regular file. -/
theorem isFile_of_locate {homes : Homes} {tree : FileTree} {path : Text} {source : Path}
    (located : locate homes tree path = .ok source) : tree.isFile source = .ok true := by
  unfold locate at located
  cases expanded : homes.expand (Path.ofText path) with
  | error error =>
    rw [expanded] at located
    cases located
  | ok found =>
    simp only [expanded] at located
    cases answer : tree.isFile found with
    | error error =>
      rw [answer] at located
      cases located
    | ok regular =>
      rw [answer] at located
      cases regular with
      | false => cases located
      | true =>
        cases located
        exact answer

/-- Numbers begin with the given one. -/
theorem le_of_mem_number {first : Int} {texts : List Text} {pair : Int × Text}
    (member : pair ∈ number first texts) : first ≤ pair.1 := by
  induction texts generalizing first with
  | nil => cases member
  | cons text rest ih =>
    rcases List.mem_cons.1 member with rfl | later
    · exact Int.le_refl _
    · have above := ih later
      omega

/-- Numbers end before the given one and the count of the texts together. -/
theorem lt_of_mem_number {first : Int} {texts : List Text} {pair : Int × Text}
    (member : pair ∈ number first texts) : pair.1 < first + texts.length := by
  induction texts generalizing first with
  | nil => cases member
  | cons text rest ih =>
    rw [List.length_cons]
    rcases List.mem_cons.1 member with rfl | later
    · simp only
      omega
    · have below := ih later
      omega

/-- Every text gets one number. -/
theorem length_number (first : Int) (texts : List Text) :
    (number first texts).length = texts.length := by
  induction texts generalizing first with
  | nil => rfl
  | cons text rest ih => rw [number, List.length_cons, List.length_cons, ih]

/-- Numbers stand for the places of the texts. -/
theorem map_fst_number (first : Int) (texts : List Text) :
    (number first texts).map (·.1) = (List.range texts.length).map fun index : Nat => index + first := by
  induction texts generalizing first with
  | nil => rfl
  | cons text rest ih =>
    rw [number, List.map_cons, ih, List.length_cons, List.range_succ_eq_map, List.map_cons,
      List.map_map]
    congr 1
    · exact (Int.zero_add first).symm
    · refine List.map_congr_left fun index _ => ?_
      simp only [Function.comp_apply]
      omega

/-- Numbering leaves the texts as they are. -/
theorem map_snd_number (first : Int) (texts : List Text) :
    (number first texts).map (·.2) = texts := by
  induction texts generalizing first with
  | nil => rfl
  | cons text rest ih => rw [number, List.map_cons, ih]

/-- Numbers increase from line to line. -/
theorem number_increases (first : Int) (texts : List Text) :
    (number first texts).Pairwise fun earlier later => earlier.1 < later.1 := by
  induction texts generalizing first with
  | nil => exact List.Pairwise.nil
  | cons text rest ih =>
    refine List.pairwise_cons.2 ⟨?_, ih (first + 1)⟩
    intro pair later
    have above := le_of_mem_number later
    exact show first < pair.1 by omega

/-- The lines of a text are numbered without their ends. -/
theorem numbered_pieces (text : Text) :
    numbered (Lines.ofText text).pieces = number 1 (Lines.ofText text).all :=
  congrArg (number 1) (Lines.exact_ofText text).map_withoutEnd_pieces

/-- The ended lines of a text are numbered without their ends. -/
theorem numbered_endedPieces (text : Text) :
    numbered (Lines.ofText text).endedPieces = number 1 (Lines.ofText text).complete :=
  congrArg (number 1) (Lines.exact_ofText text).map_withoutEnd_endedPieces

section

variable (codecs : Codecs)

/-- The lines of some bytes are numbered from the first on. -/
theorem exists_number_linesOfBytes (requested : Text) (content : List UInt8) :
    ∃ texts, (linesOfBytes codecs requested content).items = number 1 texts := by
  unfold linesOfBytes
  split
  · exact ⟨[], rfl⟩
  · unfold linesOf
    split
    · exact ⟨_, rfl⟩
    · exact ⟨_, rfl⟩

/-- The lines of a source are numbered from the first on. -/
theorem exists_number_lines (tree : FileTree) (requested : Text) (source : Path) :
    ∃ texts, (lines codecs tree requested source).items = number 1 texts := by
  unfold lines
  split
  · exact ⟨[], rfl⟩
  · exact exists_number_linesOfBytes codecs requested _

/-- The lines of a source increase. -/
theorem lines_increase (tree : FileTree) (requested : Text) (source : Path) :
    (lines codecs tree requested source).items.Pairwise fun earlier later =>
      earlier.1 < later.1 := by
  obtain ⟨texts, numbered⟩ := exists_number_lines codecs tree requested source
  rw [numbered]
  exact number_increases 1 texts

end

variable {codecs : Codecs}

/-- The number of a line is at most the count of the lines. -/
theorem bounds_of_mem_lines {tree : FileTree} {requested : Text} {source : Path}
    {pair : Int × Text} (member : pair ∈ (lines codecs tree requested source).items) :
    1 ≤ pair.1 ∧ pair.1 ≤ (lines codecs tree requested source).items.length := by
  obtain ⟨texts, numbered⟩ := exists_number_lines codecs tree requested source
  rw [numbered] at member ⊢
  have above := lt_of_mem_number member
  rw [length_number]
  exact ⟨le_of_mem_number member, by omega⟩

/-- A content stands for a text when it is decoded to its end, with the codec that is asked for or
that of the detected encoding, and the text is what it yields. -/
def DecodesTo (codecs : Codecs) (requested : Text) (content : List UInt8) (text : Text) : Prop :=
  ∃ codec, codecOf codecs requested content = .ok codec ∧ codec content = ⟨text, none⟩

/-- A content that stands for a text is read as the lines of the text. -/
theorem linesOfBytes_of_decodesTo {requested : Text} {content : List UInt8} {text : Text}
    (decoded : DecodesTo codecs requested content text) :
    linesOfBytes codecs requested content = ⟨number 1 (Lines.ofText text).all, none⟩ := by
  obtain ⟨codec, named, decoded⟩ := decoded
  simp only [linesOfBytes, named, decoded, linesOf, numbered_pieces]

/-- A content is read to its end exactly when it stands for a text. -/
theorem failure_linesOfBytes_eq_none_iff (requested : Text) (content : List UInt8) :
    (linesOfBytes codecs requested content).failure = none ↔
      ∃ text, DecodesTo codecs requested content text := by
  constructor
  · intro completed
    unfold linesOfBytes at completed
    cases named : codecOf codecs requested content with
    | error error =>
      rw [named] at completed
      cases completed
    | ok codec =>
      simp only [named] at completed
      cases decoded : codec content with
      | mk text fault =>
        cases fault with
        | none => exact ⟨text, codec, named, decoded⟩
        | some fault =>
          rw [decoded] at completed
          cases completed
  · rintro ⟨text, decoded⟩
    rw [linesOfBytes_of_decodesTo decoded]

/-- A file whose content stands for a text is read as the lines of the text. -/
theorem lines_of_decodesTo {tree : FileTree} {requested : Text} {source : Path}
    {content : List UInt8} {text : Text} (read : tree.read source = .ok content)
    (decoded : DecodesTo codecs requested content text) :
    lines codecs tree requested source = ⟨number 1 (Lines.ofText text).all, none⟩ := by
  simp only [lines, read, linesOfBytes_of_decodesTo decoded, Option.map_none]

/-- A file is read to its end exactly when its content stands for a text. -/
theorem failure_lines_eq_none_iff {tree : FileTree} {source : Path} {content : List UInt8}
    (read : tree.read source = .ok content) (requested : Text) :
    (lines codecs tree requested source).failure = none ↔
      ∃ text, DecodesTo codecs requested content text := by
  simp only [lines, read, Option.map_eq_none_iff, failure_linesOfBytes_eq_none_iff]

/-- When the encoding is detected, the codec is that of the encoding that the first bytes show. -/
theorem codecOf_detected (content : List UInt8) :
    codecOf codecs [] content = .ok (Encoding.detect content).decode :=
  if_pos rfl

/-- The lines of a content in the encoding that it shows. -/
theorem linesOfBytes_detected (content : List UInt8) :
    linesOfBytes codecs [] content = linesOf ((Encoding.detect content).decode content) :=
  rfl

/-- When the encoding is detected, a fault of the content is reported. -/
theorem isReported_of_detected {content : List UInt8} {cause : ReadCause}
    (failed : (linesOfBytes codecs [] content).failure = some cause) :
    cause.isReported = true := by
  rw [linesOfBytes_detected, linesOf] at failed
  split at failed
  · cases failed
  · cases failed
    rfl

end Source

end PhraseAudit
