import PhraseAudit.Proofs.Scan.Outside
import PhraseAudit.Proofs.Search.Exact

/-!
# What a search without tag blanking says of the lines as they are written

The search looks at a line from which the markers were removed, so that what stood in front of a
marker and what stood behind it are neighbours. A phrase is therefore recorded when it can be read
from the characters outside the markers, and the stretch it is read from may run across a marker; a
word character on the far side of a marker closes a phrase off as well. Away from the markers this
is the occurrence in the line itself. Both ways in which a marker makes a difference are shown on
one pair of lines.
-/

namespace PhraseAudit

namespace Phrase

/-- The phrase can be read from the characters of a line that stand outside its markers, at the
given positions, and the nearest such characters in front and behind are no word characters. -/
def OccursOutside (phrase : Phrase) (line : Text) (positions : List Nat) : Prop :=
  ∃ front read behind, MarkerBlock.pattern.outside line = front ++ (read ++ behind) ∧
    read.map (·.2) = positions ∧ Text.SameUpToCase phrase.text (read.map (·.1)) ∧
    isOpen (front.getLast?.map (·.1)) = true ∧ isOpen (behind.head?.map (·.1)) = true

/-- A stretch of a line is apart from the markers when none of them overlaps it or touches it. -/
def Apart (phrase : Phrase) (line : Text) (start : Nat) : Prop :=
  ∀ span ∈ MarkerBlock.pattern.scan line,
    span.stop < start ∨ start + phrase.text.length < span.start

/-- A phrase occurs in what is left of a line exactly when it can be read outside the markers. -/
theorem occurs_remove_iff (phrase : Phrase) (line : Text) :
    phrase.Occurs (Marker.remove line) ↔ ∃ positions, phrase.OccursOutside line positions := by
  rw [Marker.remove_eq, ← Pattern.map_outside]
  constructor
  · rintro ⟨start, front, read, behind, whole, _, same, openFront, openBehind⟩
    rw [List.append_assoc] at whole
    obtain ⟨first, others, split, rfl, inner⟩ := List.map_eq_append_iff.1 whole
    obtain ⟨middle, last, rfl, rfl, rfl⟩ := List.map_eq_append_iff.1 inner
    rw [List.getLast?_map] at openFront
    rw [List.head?_map] at openBehind
    exact ⟨_, first, middle, last, split, rfl, same, openFront, openBehind⟩
  · rintro ⟨positions, front, read, behind, whole, _, same, openFront, openBehind⟩
    refine ⟨_, front.map (·.1), read.map (·.1), behind.map (·.1), ?_, rfl, same, ?_, ?_⟩
    · rw [whole, List.map_append, List.map_append, List.append_assoc]
    · rw [List.getLast?_map]
      exact openFront
    · rw [List.head?_map]
      exact openBehind

/-- The last uncovered character in front of a place is the last character there, if nothing covers
the position of that one. -/
theorem getLast?_uncovered {spans : List (Found MarkerBlock)} (front : Text)
    (free : ∀ span ∈ spans, ∀ position, position + 1 = front.length → ¬ span.Covers position) :
    (uncovered spans front.zipIdx).getLast?.map (·.1) = front.getLast? := by
  rcases List.eq_nil_or_concat' front with rfl | ⟨others, c, rfl⟩
  · rfl
  · have kept : uncovered spans [(c, others.length)] = [(c, others.length)] := by
      apply uncovered_eq_self
      intro pair member span inside
      rw [List.mem_singleton.1 member]
      exact free span inside others.length (by simp)
    rw [List.zipIdx_append, uncovered_append, Nat.zero_add, List.zipIdx_singleton, kept]
    simp

/-- The first uncovered character behind a place is the first character there, if nothing covers
the position of that one. -/
theorem head?_uncovered {spans : List (Found MarkerBlock)} (behind : Text) (position : Nat)
    (free : ∀ span ∈ spans, ¬ span.Covers position) :
    (uncovered spans (behind.zipIdx position)).head?.map (·.1) = behind.head? := by
  cases behind with
  | nil => rfl
  | cons c others =>
    have kept : uncovered spans [(c, position)] = [(c, position)] := by
      apply uncovered_eq_self
      intro pair member span inside
      rw [List.mem_singleton.1 member]
      exact free span inside
    rw [List.zipIdx_cons, ← List.singleton_append, uncovered_append, kept]
    rfl

/-- Beside a stretch that is apart from the markers stand the characters of the line itself: the
stretch is uncovered, and so are its two neighbours. -/
theorem outside_of_apart {phrase : Phrase} {line front read behind : Text}
    (whole : line = front ++ (read ++ behind)) (length : read.length = phrase.text.length)
    (apart : phrase.Apart line front.length) :
    ∃ first last, MarkerBlock.pattern.outside line = first ++ (read.zipIdx front.length ++ last) ∧
      first.getLast?.map (·.1) = front.getLast? ∧ last.head?.map (·.1) = behind.head? ∧
      ∀ pair ∈ first, pair.2 < front.length := by
  let spans := MarkerBlock.pattern.scan line
  -- The markers keep away from every position that the stretch or a neighbour of it takes.
  have free : ∀ position, front.length ≤ position + 1 →
      position ≤ front.length + phrase.text.length → ∀ span ∈ spans, ¬ span.Covers position := by
    intro position lower upper span inside covers
    have away := apart span inside
    obtain ⟨begins, ends⟩ := covers
    omega
  have middle : uncovered spans (read.zipIdx front.length) = read.zipIdx front.length := by
    apply uncovered_eq_self
    intro pair member
    have lower := List.le_snd_of_mem_zipIdx member
    have upper := List.snd_lt_add_of_mem_zipIdx member
    exact free pair.2 (by omega) (by omega)
  have split : MarkerBlock.pattern.outside line = uncovered spans front.zipIdx ++
      (read.zipIdx front.length ++
        uncovered spans (behind.zipIdx (front.length + read.length))) := by
    change uncovered spans line.zipIdx = _
    rw [whole, List.zipIdx_append, List.zipIdx_append, Nat.zero_add, uncovered_append,
      uncovered_append, middle]
  refine ⟨_, _, split, getLast?_uncovered front ?_, head?_uncovered behind _ ?_, ?_⟩
  · intro span inside position last
    exact free position (by omega) (by omega) span inside
  · exact free _ (by omega) (by omega)
  · intro pair member
    have upper := List.snd_lt_add_of_mem_zipIdx (List.mem_of_mem_filter member)
    omega

/-- In a list of characters whose positions increase, a stretch is determined by its positions. -/
theorem stretch_unique {front read behind first middle last : List (Char × Nat)} {start : Nat}
    (increasing : (front ++ (read ++ behind)).Pairwise fun one two => one.2 < two.2)
    (same : front ++ (read ++ behind) = first ++ (middle ++ last))
    (begins : read.head?.map (·.2) = some start) (alike : middle.head?.map (·.2) = some start)
    (widths : read.length = middle.length) (before : ∀ pair ∈ first, pair.2 < start) :
    front = first ∧ read = middle ∧ behind = last := by
  have below : ∀ pair ∈ front, pair.2 < start := by
    intro pair member
    obtain ⟨leading, found, rfl⟩ := Option.map_eq_some_iff.1 begins
    have inside : leading ∈ read ++ behind :=
      List.mem_append_left _ (List.mem_of_head? found)
    exact (List.pairwise_append.1 increasing).2.2 pair member leading inside
  have stops : ∀ (part rest : List (Char × Nat)), part.head?.map (·.2) = some start →
      (part ++ rest).takeWhile (fun pair => pair.2 < start) = [] := by
    intro part rest found
    cases part with
    | nil => cases found
    | cons pair others =>
      have here : pair.2 = start := by simpa using found
      simp [here]
  have fronts : front = first := by
    have taken := congrArg (List.takeWhile fun pair => decide (pair.2 < start)) same
    rw [List.takeWhile_append_of_pos (by simpa using below), stops read behind begins,
      List.takeWhile_append_of_pos (by simpa using before), stops middle last alike,
      List.append_nil, List.append_nil] at taken
    exact taken
  subst fronts
  have inner := List.append_cancel_left same
  obtain ⟨reads, behinds⟩ := List.append_inj inner widths
  exact ⟨rfl, reads, behinds⟩

/-- Apart from the markers, reading outside them is reading in the line itself. -/
theorem occursAt_iff_of_apart {phrase : Phrase} {line : Text} {start : Nat}
    (apart : phrase.Apart line start) :
    phrase.OccursAt line start ↔
      phrase.OccursOutside line (List.range' start phrase.text.length) := by
  have positive := List.length_pos_iff.2 phrase.nonempty
  constructor
  · rintro ⟨front, read, behind, rfl, rfl, same, openFront, openBehind⟩
    have length : read.length = phrase.text.length := same.length_eq.symm
    obtain ⟨first, last, split, atFront, atBehind, _⟩ :=
      outside_of_apart (List.append_assoc front read behind) length apart
    refine ⟨first, _, last, split, ?_, ?_, ?_, ?_⟩
    · rw [← length]
      exact List.zipIdx_map_snd _ read
    · rw [show (read.zipIdx front.length).map (fun pair => pair.1) = read from
        List.zipIdx_map_fst _ read]
      exact same
    · rw [atFront]
      exact openFront
    · rw [atBehind]
      exact openBehind
  · rintro ⟨front, read, behind, whole, positions, same, openFront, openBehind⟩
    have width : read.length = phrase.text.length := by
      have sameLength := congrArg List.length positions
      simpa using sameLength
    have fits : start + phrase.text.length ≤ line.length := by
      have final : start + (phrase.text.length - 1) ∈ read.map (·.2) := by
        rw [positions, List.mem_range'_1]
        omega
      obtain ⟨pair, inside, same⟩ := List.mem_map.1 final
      have member : pair ∈ MarkerBlock.pattern.outside line := by
        rw [whole]
        exact List.mem_append_right _ (List.mem_append_left _ inside)
      have upper := List.snd_lt_add_of_mem_zipIdx (List.mem_of_mem_filter member)
      omega
    -- The line is cut at the same stretch, and the two cuts are compared.
    let before := line.take start
    let stretch := (line.drop start).take phrase.text.length
    let after := (line.drop start).drop phrase.text.length
    have cut : line = before ++ (stretch ++ after) := by
      simp only [before, stretch, after, List.take_append_drop]
    have beforeLength : before.length = start := List.length_take_of_le (by omega)
    have stretchLength : stretch.length = phrase.text.length :=
      List.length_take_of_le (by rw [List.length_drop]; omega)
    obtain ⟨first, last, split, atFront, atBehind, firstBelow⟩ :=
      outside_of_apart cut stretchLength (beforeLength.symm ▸ apart)
    rw [whole] at split
    have increasing := MarkerBlock.pattern.outside_increasing line
    rw [whole] at increasing
    have headRead : read.head?.map (·.2) = some start := by
      rw [← List.head?_map, positions, List.head?_range', if_neg (by omega)]
    have headStretch : (stretch.zipIdx before.length).head?.map (·.2) = some start := by
      rw [← List.head?_map, show (stretch.zipIdx before.length).map (fun pair => pair.2) =
        List.range' before.length stretch.length from List.zipIdx_map_snd _ stretch,
        List.head?_range', if_neg (by omega), beforeLength]
    obtain ⟨rfl, rfl, rfl⟩ := stretch_unique increasing split headRead headStretch
      (by rw [List.length_zipIdx, stretchLength, width])
      (fun pair member => beforeLength ▸ firstBelow pair member)
    rw [show (stretch.zipIdx before.length).map (fun pair => pair.1) = stretch from
      List.zipIdx_map_fst _ stretch] at same
    exact ⟨before, stretch, after, cut.trans (List.append_assoc _ _ _).symm, beforeLength, same,
      atFront ▸ openFront, atBehind ▸ openBehind⟩

end Phrase

namespace Search

/-- A line is in the row of a known phrase exactly when the phrase occurs on it. Numbers that
increase tell the lines apart. -/
theorem mem_lines_iff {stripTags : Bool} {known : PhraseSet} {lines : List (Int × Text)}
    (increasing : lines.Pairwise fun earlier later => earlier.1 < later.1) {ledger : Ledger}
    (rows : ledger.rows = known.toList.map (rowAfter stripTags lines)) {phrase : Phrase}
    (member : phrase.text ∈ known) {pair : Int × Text} (inside : pair ∈ lines) :
    (∃ row ∈ ledger.used, row.phrase = phrase.text ∧ pair.1 ∈ row.lines) ↔
      phrase.Occurs (Line.searchable stripTags pair.2) := by
  have numbers := lines_rowAfter stripTags phrase lines
  constructor
  · rintro ⟨row, used, about, recorded⟩
    obtain ⟨other, _, rfl⟩ := phrase_of_mem_used rows used
    have sameText : other.text = phrase.text := about
    rw [sameText, numbers] at recorded
    obtain ⟨found, kept, same⟩ := List.mem_map.1 recorded
    obtain ⟨there, occurs⟩ := List.mem_filter.1 kept
    have distinct : (lines.map (·.1)).Nodup :=
      List.pairwise_map.2 (increasing.imp fun below => Int.ne_of_lt below)
    obtain rfl : found = pair := List.inj_on_of_nodup_map distinct there inside same
    exact of_decide_eq_true occurs
  · intro occurs
    refine ⟨_, (mem_used_rowAfter_iff rows member).2 ⟨pair, inside, occurs⟩, rfl, ?_⟩
    rw [numbers]
    exact List.mem_map.2 ⟨pair, List.mem_filter.2 ⟨inside, decide_eq_true occurs⟩, rfl⟩

/-- What a search without tag blanking records of a line can be read off the line as it is written:
a phrase is recorded exactly when it can be read from the characters outside the markers, and on
every stretch that no marker overlaps or touches this is an occurrence in the line itself. So the
markers create or hide an occurrence only where one of them stands inside it or next to it.

Proof: the characters outside the markers are what the removal leaves, with their positions. Next to
a stretch that is apart from the markers stand its neighbours in the line. -/
theorem recorded_iff_occursOutside (auditor : Auditor) (known : PhraseSet)
    (lines : List (Int × Text))
    (increasing : lines.Pairwise fun earlier later => earlier.1 < later.1) :
    ∃ ledger, ({ auditor with stripTags := false }.search ⟨lines, none⟩ known).result =
        .ok ledger ∧
      ∀ phrase : Phrase, phrase.text ∈ known → ∀ pair ∈ lines,
        ((∃ row ∈ ledger.used, row.phrase = phrase.text ∧ pair.1 ∈ row.lines) ↔
          ∃ positions, phrase.OccursOutside pair.2 positions) ∧
        ∀ start, phrase.Apart pair.2 start →
          (phrase.OccursAt pair.2 start ↔
            phrase.OccursOutside pair.2 (List.range' start phrase.text.length)) := by
  obtain ⟨ledger, success, rows⟩ :=
    search_rows { auditor with stripTags := false } known lines increasing
  refine ⟨ledger, success, ?_⟩
  intro phrase member pair inside
  refine ⟨?_, fun start apart => Phrase.occursAt_iff_of_apart apart⟩
  rw [mem_lines_iff increasing rows member inside]
  exact phrase.occurs_remove_iff pair.2

/-- Two lines: on the first the phrase runs across a marker, on the second it stands alone and the
marker keeps its distance. -/
theorem recorded_across_marker :
    let york : Phrase := ⟨"New York".toList, by decide⟩
    let lines : List (Int × Text) :=
      [(1, "Ne@[static#x]w York".toList), (4, "New York, @[static#x]".toList)]
    let known := PhraseSet.ofList [york.text]
    (lines.Pairwise fun earlier later => earlier.1 < later.1) ∧ york.text ∈ known ∧
      york.Apart "New York, @[static#x]".toList 0 ∧
      york.OccursOutside "New York, @[static#x]".toList (List.range' 0 8) ∧
      ∃ ledger, ((Auditor.new false []).search ⟨lines, none⟩ known).result = .ok ledger ∧
        ∃ row ∈ ledger.used, row.phrase = york.text ∧ 1 ∈ row.lines := by
  intro york lines known
  have increasing : lines.Pairwise fun earlier later => earlier.1 < later.1 := by decide
  have member : york.text ∈ known := (PhraseSet.mem_ofList _ _).2 List.mem_cons_self
  have apart : york.Apart "New York, @[static#x]".toList 0 := by
    unfold Phrase.Apart
    decide
  obtain ⟨ledger, success, told⟩ :=
    recorded_iff_occursOutside (Auditor.new false []) known lines increasing
  have first := told york member (1, "Ne@[static#x]w York".toList) List.mem_cons_self
  have second := told york member (4, "New York, @[static#x]".toList) (by simp [lines])
  refine ⟨increasing, member, apart, ?_, ledger, success, first.1.2 ?_⟩
  · have last : york.OccursAt "New York, @[static#x]".toList 0 := by
      set_option maxRecDepth 2000 in decide
    exact (second.2 0 apart).1 last
  · exact (york.occurs_remove_iff _).1 (by decide)

/-- A marker can make an occurrence that is not in the line, and hide one that is. The first line
holds `Ne` and `w York` on either side of a marker, and is recorded although the phrase occurs
nowhere in it. The second holds the whole phrase, behind a marker that it does not overlap and with
no word character next to it, and is not recorded. -/
theorem marker_joins_and_hides :
    let york : Phrase := ⟨"New York".toList, by decide⟩
    let joined := "Ne@[static#x]w York".toList
    let hidden := "x@[static#y]New York".toList
    let known := PhraseSet.ofList [york.text]
    (∃ ledger, ((Auditor.new false []).search ⟨[(1, joined), (2, hidden)], none⟩ known).result =
        .ok ledger ∧
      (∃ row ∈ ledger.used, row.phrase = york.text ∧ 1 ∈ row.lines) ∧
      ¬ ∃ row ∈ ledger.used, row.phrase = york.text ∧ 2 ∈ row.lines) ∧
    (¬ ∃ start, york.OccursAt joined start) ∧
    york.OccursAt hidden 12 ∧
    ∀ span ∈ MarkerBlock.pattern.scan hidden,
      span.stop ≤ 12 ∨ 12 + york.text.length ≤ span.start := by
  intro york joined hidden known
  let lines : List (Int × Text) := [(1, joined), (2, hidden)]
  have increasing : lines.Pairwise fun earlier later => earlier.1 < later.1 := by decide
  have member : york.text ∈ known := (PhraseSet.mem_ofList _ _).2 List.mem_cons_self
  obtain ⟨ledger, success, rows⟩ := search_rows (Auditor.new false []) known lines increasing
  have joinedInside : ((1, joined) : Int × Text) ∈ lines := List.mem_cons_self
  have hiddenInside : ((2, hidden) : Int × Text) ∈ lines := by simp [lines]
  have first := mem_lines_iff increasing rows member joinedInside
  have second := mem_lines_iff increasing rows member hiddenInside
  refine ⟨⟨ledger, success, first.2 (by decide), ?_⟩, ?_, ?_, ?_⟩
  · intro recorded
    exact absurd (second.1 recorded) (by decide)
  · exact show ¬ york.Occurs joined by decide
  · set_option maxRecDepth 2000 in decide
  · decide

end Search

end PhraseAudit
