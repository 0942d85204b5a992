import PhraseAudit.Text.Lowercase
import PhraseAudit.Text.Quoted

/-!
# Kinds of marker

There are two kinds of marker, each with a keyword of its own. A kind is looked up by the small
letters of a whole keyword.
-/

namespace PhraseAudit

/-- The kinds of marker. -/
inductive MarkerKind where
  | static
  | header
deriving Repr, DecidableEq

/-- The keyword of a kind, in its small letters. -/
def MarkerKind.keyword : MarkerKind → Text
  | .static => "static".toList
  | .header => "static-header".toList

/-- Why a marker could not be read: the small letters of its keyword name no kind. -/
inductive MarkerError where
  | unknownKind (keyword : Text)
deriving Repr, DecidableEq

/-- The wording of a marker error. -/
def MarkerError.message : MarkerError → String
  | .unknownKind keyword => s!"{keyword.quotedString} is not a valid AnnotationKind"

/-- The kind that a keyword names, after it is put into small letters. -/
def MarkerKind.ofText (written : Text) : Except MarkerError MarkerKind :=
  let small := written.lowercase
  if small = MarkerKind.static.keyword then .ok .static
  else if small = MarkerKind.header.keyword then .ok .header
  else .error (.unknownKind small)

end PhraseAudit
