import PhraseAudit.Encoding.Name
import PhraseAudit.Files.Home

/-!
# Hosts

What a run takes from its surroundings besides the files.
-/

namespace PhraseAudit

/-- A host: where its home folders are, and which codecs it has. -/
structure Host where
  homes : Homes
  codecs : Codecs

end PhraseAudit
