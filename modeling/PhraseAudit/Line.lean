import PhraseAudit.Marker
import PhraseAudit.Tag

/-!
# Lines

What of a line is searched for phrases, and what of it is shown in a report.
-/

namespace PhraseAudit.Line

/-- The part of a line that is searched: first the markers are removed, since one of them may
stand inside a tag, and then, unless tags are kept, the tags are blanked out. -/
def searchable (stripTags : Bool) (line : Text) : Text :=
  if stripTags then Tag.blank (Marker.remove line) else Marker.remove line

/-- The mark that stands for the cut part of a snippet. -/
def ellipsis : Text :=
  "...".toList

/-- A line as a snippet: without white space at its ends, and cut to the given length when it is
longer. The cut leaves room for the ellipsis; a limit below three reaches back from the end. -/
def snippet (line : Text) (limit : Int) : Text :=
  let shown := line.strip
  if (shown.length : Int) ≤ limit then shown else shown.before (limit - 3) ++ ellipsis

/-- The length of the snippets in a report. -/
def snippetLimit : Int :=
  240

end PhraseAudit.Line
