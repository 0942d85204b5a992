import PhraseAudit.Proofs.Source.Forms
import PhraseAudit.Proofs.Text.Lines

/-!
# Line ends of a source

The lines of a file that is decoded to its end are those of the text it stands for, told apart in the
one way there is. How the terminators are written changes neither the lines nor their numbers, however
many ways are mixed.
-/

namespace PhraseAudit.Source

/-- A file that is decoded to its end is read as the lines of the text it stands for, numbered from
one on without a gap, in whatever encoding it is. No line holds a character that ends lines, and the
lines with their terminators are the text, where a carriage return before a line feed does not end a
line by itself: there is only one way to split the text like this. A last line without a terminator
counts unless it is empty. With all terminators written in one way, a file with this text is read as
the same lines. -/
theorem lines_told_apart {codecs : Codecs} {tree : FileTree} {requested : Text} {source : Path}
    {content : List UInt8} {text : Text} (read : tree.read source = .ok content)
    (decoded : DecodesTo codecs requested content text) :
    ∃ split : Lines, split.Exact ∧ split.toText = text ∧
      (∀ other : Lines, other.Exact → other.toText = text → other = split) ∧
      (lines codecs tree requested source).failure = none ∧
      (lines codecs tree requested source).items.map (·.2) = split.all ∧
      (lines codecs tree requested source).items.map (·.1) =
        (List.range split.all.length).map (fun index : Nat => (index : Int) + 1) ∧
      (∀ pair ∈ (lines codecs tree requested source).items, Lines.Plain pair.2) ∧
      (lines codecs tree requested source).items.length =
        split.ended.length + (if split.rest = [] then 0 else 1) ∧
      ∀ (terminator : Terminator) (others : Codecs) (elsewhere : FileTree) (name : Text)
        (twin : Path) (rewritten : List UInt8), elsewhere.read twin = .ok rewritten →
        DecodesTo others name rewritten (split.endedBy terminator).toText →
        lines others elsewhere name twin = lines codecs tree requested source := by
  have exact := Lines.exact_ofText text
  have delivered := lines_of_decodesTo read decoded
  have texts := map_snd_number 1 (Lines.ofText text).all
  refine ⟨Lines.ofText text, exact, Lines.toText_ofText text, ?_, ?_, ?_, ?_, ?_, ?_, ?_⟩
  · rintro other told rfl
    exact told.ofText_toText.symm
  · rw [delivered]
  · rw [delivered, texts]
  · rw [delivered, map_fst_number]
  · intro pair member
    rw [delivered] at member
    have listed : pair.2 ∈ (number 1 (Lines.ofText text).all).map (·.2) :=
      List.mem_map_of_mem member
    rw [texts] at listed
    exact exact.plain_of_mem_all listed
  · rw [delivered, length_number, Lines.length_all]
  · intro terminator others elsewhere name twin rewritten readAlso decodedAlso
    -- The rewritten lines are still told apart, so that their text is split into just these.
    rw [lines_of_decodesTo readAlso decodedAlso, (exact.endedBy terminator).ofText_toText,
      Lines.all_endedBy, delivered]

/-- Runs of terminators of all kinds, with a carriage return at the end, and the same lines with line
feeds in another file, which is in UTF-16. -/
theorem lines_told_apart_mixed :
    let text : Text := "a\r\r\nb\n\r\nc\r".toList
    let plain : Text := "a\n\nb\n\nc\n".toList
    let content := Utf8.encode text
    let rewritten := 0xFF :: 0xFE :: Utf16.encode .little plain
    let tree : FileTree := ⟨[(["doc.txt".toList], .file content),
      (["twin.txt".toList], .file rewritten)], []⟩
    let source : Path := Path.ofText "doc.txt".toList
    let twin : Path := Path.ofText "twin.txt".toList
    tree.read source = .ok content ∧ DecodesTo .plain [] content text ∧
      tree.read twin = .ok rewritten ∧ DecodesTo .plain [] rewritten plain ∧
      (lines .plain tree [] source).items.length = 5 ∧
      lines .plain tree [] twin = lines .plain tree [] source := by
  intro text plain content rewritten tree source twin
  have read : tree.read source = .ok content := rfl
  have readAlso : tree.read twin = .ok rewritten := rfl
  have decoded : DecodesTo .plain [] content text := decodesTo_of_holds (.plainUtf8 (by decide))
  have decodedAlso : DecodesTo .plain [] rewritten plain := decodesTo_of_holds .utf16Little
  obtain ⟨split, _, _, unique, _, _, _, _, count, alike⟩ := lines_told_apart read decoded
  obtain rfl := unique (Lines.ofText text) (Lines.exact_ofText text) (Lines.toText_ofText text)
  exact ⟨read, decoded, readAlso, decodedAlso, count,
    alike .lineFeed .plain tree [] twin rewritten readAlso decodedAlso⟩

end PhraseAudit.Source
