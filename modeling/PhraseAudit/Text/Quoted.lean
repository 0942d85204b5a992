import PhraseAudit.Text.Numeral
import PhraseAudit.Unicode.Hidden

/-!
# Quoted texts

A text inside a message stands between quotes and on one line. Single quotes are used, unless the
text holds a single quote and no double one. The quote in use and the backslash are escaped, and a
hidden character is shown by its code point.
-/

namespace PhraseAudit.Text

/-- The quote around a text: double only if that saves escaping a single quote. -/
def quoteFor (text : Text) : Char :=
  if '\'' ∈ text ∧ '"' ∉ text then '"' else '\''

/-- A code point as an escape of the shortest kind that holds it. -/
def escapeCode (code : Nat) : Text :=
  if code < 0x100 then '\\' :: 'x' :: hexDigits 2 code
  else if code < 0x10000 then '\\' :: 'u' :: hexDigits 4 code
  else '\\' :: 'U' :: hexDigits 8 code

/-- How one character appears between the given quotes. -/
def escapeChar (quote c : Char) : Text :=
  if c = quote ∨ c = '\\' then ['\\', c]
  else if c = '\n' then ['\\', 'n']
  else if c = '\r' then ['\\', 'r']
  else if c = '\t' then ['\\', 't']
  else if Unicode.isHidden c then escapeCode c.toNat
  else [c]

/-- The text between quotes, with its special characters escaped. -/
def quoted (text : Text) : Text :=
  let quote := quoteFor text
  quote :: text.flatMap (escapeChar quote) ++ [quote]

/-- The quoted text as a string, for use in messages. -/
def quotedString (text : Text) : String :=
  String.ofList text.quoted

end PhraseAudit.Text
