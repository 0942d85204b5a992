import PhraseAudit.CommandLine.Flag
import PhraseAudit.Unicode.Digit

/-!
# Arguments

The arguments are told apart, each on its own: options by their spelling, or by any beginning of a
long spelling that belongs to one option only, and everything else that does not look like an
option. Behind two dashes there are no options any more.
-/

namespace PhraseAudit.CommandLine

/-- An argument, told apart from the others. A short option may carry further letters, and any
option a value that is written into the same argument. -/
inductive Argument where
  | plain (text : Text)
  | separator
  | option (flag : Flag) (isShort : Bool) (attached : Option Text)
  | unknown (text : Text)
deriving Repr, DecidableEq

namespace Argument

/-- The argument behind which there are no options. -/
def separatorText : Text :=
  ['-', '-']

/-- Splits an argument at its first equals sign. -/
def splitEquals (text : Text) : Text × Option Text :=
  match text.dropWhile (· != '=') with
  | [] => (text, none)
  | _ :: value => (text.takeWhile (· != '='), some value)

/-- A text without the line feed that may stand at its end. -/
def withoutLineFeed (text : Text) : Text :=
  if text.getLast? = some '\n' then text.dropLast else text

/-- At least one digit and nothing else. -/
def isNumeral (text : Text) : Bool :=
  !text.isEmpty && text.all Unicode.isDigit

/-- A negative number, whole or with a decimal point, is no option. -/
def isNegativeNumber : Text → Bool
  | '-' :: rest =>
    let body := withoutLineFeed rest
    isNumeral body ||
      match body.dropWhile Unicode.isDigit with
      | '.' :: fraction => isNumeral fraction
      | _ => false
  | _ => false

/-- Whether an option is spelled with a single dash. -/
def isShortSpelling (spelling : Text) : Bool :=
  !separatorText.isPrefixOf spelling

/-- The options that an argument can mean by a beginning of their long spelling, or by a short
spelling with more letters behind it; each with its spelling. -/
def candidates (text : Text) : List (Text × Argument) :=
  if separatorText.isPrefixOf text then
    let (start, value) := splitEquals text
    (Flag.spellings.filter fun pair => start.isPrefixOf pair.1).map fun (spelling, flag) =>
      (spelling, .option flag false value)
  else
    (Flag.spellings.filter fun pair => pair.1 = text.take 2).map fun (spelling, flag) =>
      (spelling, .option flag true (some (text.drop 2)))

/-- Tells an argument apart that begins with a dash and is no exact spelling. -/
def ofDashed (text : Text) : Except UsageError Argument :=
  match candidates text with
  | [] =>
    if isNegativeNumber text || text.contains ' ' then .ok (.plain text) else .ok (.unknown text)
  | [(_, argument)] => .ok argument
  | several => .error (.ambiguous text (several.map (·.1)))

/-- Tells an argument apart. -/
def ofText (text : Text) : Except UsageError Argument :=
  match text with
  | '-' :: _ :: _ =>
    match Flag.ofSpelling? text with
    | some flag => .ok (.option flag (isShortSpelling text) none)
    | none =>
      match splitEquals text with
      | (spelling, some value) =>
        match Flag.ofSpelling? spelling with
        | some flag => .ok (.option flag (isShortSpelling spelling) (some value))
        | none => ofDashed text
      | (_, none) => ofDashed text
  | _ => .ok (.plain text)

/-- Tells arguments apart. -/
def ofTexts : List Text → Except UsageError (List Argument)
  | [] => .ok []
  | text :: rest =>
    if text = separatorText then .ok (.separator :: rest.map .plain)
    else do
      let argument ← ofText text
      let others ← ofTexts rest
      return argument :: others

end Argument

end PhraseAudit.CommandLine
