import PhraseAudit.Line
import PhraseAudit.Proofs.Text.Stripped

/-!
# The length of snippets

A snippet keeps to its limit when the limit has room for the ellipsis, or when nothing has to be cut.
A limit below three makes the bound of the cut reach back from the end of the line, and with the
ellipsis the snippet is longer than the limit, and may be longer than the line. With room for the
ellipsis a snippet that is cut fills its limit, has no white space at its ends, and is its own snippet.
-/

namespace PhraseAudit

/-- How much of a text stands before a bound. -/
theorem Text.length_before (text : Text) (bound : Int) :
    ((text.before bound).length : Int) =
      if 0 ≤ bound then min bound text.length else max 0 (text.length + bound) := by
  unfold before
  split
  · rw [List.length_take]
    omega
  · rw [List.length_take]
    omega

namespace Line

/-- The ellipsis takes three characters. -/
theorem length_ellipsis : ellipsis.length = 3 :=
  rfl

/-- No white space stands at the ends of the ellipsis. -/
theorem trimmed_ellipsis : Text.Trimmed ellipsis := by
  have dots : ∀ c ∈ ellipsis, isBlank c = false := by
    intro c member
    obtain rfl : c = '.' := by simpa [ellipsis] using member
    decide
  refine ⟨fun c rest begins => dots c ?_, fun front c ends => dots c ?_⟩
  · exact begins ▸ List.mem_cons_self
  · exact ends ▸ List.mem_append_right _ List.mem_cons_self

section Limits

variable {line : Text} {limit : Int}

/-- A line that fits is shown as a whole. -/
theorem snippet_of_fits (fits : (line.strip.length : Int) ≤ limit) :
    snippet line limit = line.strip := by
  rw [snippet, if_pos fits]

/-- A line that does not fit is cut, and the ellipsis stands for what is cut off. -/
theorem snippet_of_exceeds (exceeds : limit < line.strip.length) :
    snippet line limit = line.strip.before (limit - 3) ++ ellipsis := by
  rw [snippet, if_neg (Int.not_le.2 exceeds)]

/-- With room for the ellipsis the cut leaves that many characters less. -/
theorem snippet_of_room (room : 3 ≤ limit) (exceeds : limit < line.strip.length) :
    snippet line limit = line.strip.take (limit - 3).toNat ++ ellipsis := by
  rw [snippet_of_exceeds exceeds, Text.before, if_pos (Int.sub_nonneg.2 room)]

/-- The length of a snippet that is cut. Without room for the ellipsis, what the bound leaves is
counted from the end of the line. -/
theorem length_of_exceeds (exceeds : limit < line.strip.length) :
    ((snippet line limit).length : Int) =
      if 3 ≤ limit then limit else max 3 (line.strip.length + limit) := by
  have kept := Text.length_before line.strip (limit - 3)
  rw [snippet_of_exceeds exceeds, List.length_append, length_ellipsis]
  split at kept
  · split <;> omega
  · split <;> omega

/-- With a limit of two the snippet is longer than the line. -/
example : snippet " abcd ".toList 2 = "abc...".toList := by
  decide

/-- A snippet keeps to its limit exactly when there is room for the ellipsis or nothing is cut. -/
theorem length_snippet_le_iff (line : Text) (limit : Int) :
    ((snippet line limit).length : Int) ≤ limit ↔
      3 ≤ limit ∨ (line.strip.length : Int) ≤ limit := by
  rcases Int.lt_or_le limit line.strip.length with exceeds | fits
  · have length := length_of_exceeds exceeds
    split at length <;> omega
  · rw [snippet_of_fits fits]
    exact ⟨fun kept => .inr kept, fun _ => fits⟩

/-- With room for the ellipsis no white space stands at the ends of a snippet. A snippet that is cut
begins as the line does, unless only the ellipsis is left, and ends with a dot. -/
theorem trimmed_snippet (line : Text) (room : 3 ≤ limit) : Text.Trimmed (snippet line limit) := by
  have trimmed := (Text.stripsTo_strip line).trimmed
  rcases Int.lt_or_le limit line.strip.length with exceeds | fits
  · rw [snippet_of_room room exceeds]
    exact trimmed.take_append trimmed_ellipsis (List.cons_ne_nil _ _) _
  · rw [snippet_of_fits fits]
    exact trimmed

/-- A snippet of a snippet, with the same limit, is the same once more. -/
theorem snippet_snippet (line : Text) (room : 3 ≤ limit) :
    snippet (snippet line limit) limit = snippet line limit := by
  have stripped := (trimmed_snippet line room).strip_eq_self
  have fits : ((snippet line limit).strip.length : Int) ≤ limit := by
    rw [stripped]
    exact (length_snippet_le_iff line limit).2 (.inl room)
  rw [snippet_of_fits fits, stripped]

end Limits

/-- How long a snippet is, and what it is where its limit has room for the ellipsis.

A line strips to one text. The snippet keeps to its limit exactly when the limit is three or more, or
this text fits. From three on the snippet is its own snippet with the same limit, and no white space
stands at its ends. It is the whole text when this fits. Otherwise it is the first characters of the
text, three less than the limit, with the ellipsis behind them, and fills the limit.

Proof: the length of a snippet that is cut follows from what the bound leaves, counted from the head of
the text or from its end. A snippet with room for the ellipsis is trimmed and fits, so that its own
snippet shows all of it. -/
theorem snippet_keeps_limit (line : Text) (limit : Int) :
    let shown := line.strip
    let result := snippet line limit
    (∀ inner, Text.StripsTo line inner ↔ inner = shown) ∧
    ((result.length : Int) ≤ limit ↔ 3 ≤ limit ∨ (shown.length : Int) ≤ limit) ∧
    (3 ≤ limit →
      snippet result limit = result ∧
      Text.Trimmed result ∧
      ((shown.length : Int) ≤ limit ∧ result = shown ∨
        limit < shown.length ∧ (result.length : Int) = limit ∧
          result = shown.take (limit - 3).toNat ++ "...".toList)) := by
  intro shown result
  refine ⟨fun inner => Text.stripsTo_iff, length_snippet_le_iff line limit, fun room => ?_⟩
  refine ⟨snippet_snippet line room, trimmed_snippet line room, ?_⟩
  rcases Int.lt_or_le limit shown.length with exceeds | fits
  · refine .inr ⟨exceeds, ?_, snippet_of_room room exceeds⟩
    rw [length_of_exceeds exceeds, if_pos room]
  · exact .inl ⟨fits, snippet_of_fits fits⟩

/-- A line with white space around it, cut behind a space. -/
theorem snippet_keeps_limit_spaced :
    let line := "\t ab cdefg \n".toList
    (3 : Int) ≤ 6 ∧ snippet line 6 = "ab ...".toList ∧
      snippet (snippet line 6) 6 = snippet line 6 := by
  intro line
  have room : (3 : Int) ≤ 6 := by decide
  exact ⟨room, by decide, ((snippet_keeps_limit line 6).2.2 room).1⟩

end Line

end PhraseAudit
