import PhraseAudit.Text.Quoted

/-!
# Options

The options of the command line with their spellings, and what can be wrong with the arguments.
-/

namespace PhraseAudit.CommandLine

/-- The options of the command line. -/
inductive Flag where
  | help
  | json
  | output
  | keepTags
  | encoding
  | failOnUnwrapped
  | verbose
deriving Repr, DecidableEq

namespace Flag

/-- All spellings of the options, in the order in which they are looked through. -/
def spellings : List (Text × Flag) := [
  ("-h".toList, .help),
  ("--help".toList, .help),
  ("--json".toList, .json),
  ("--output".toList, .output),
  ("--keep-tags".toList, .keepTags),
  ("--encoding".toList, .encoding),
  ("--fail-on-unwrapped".toList, .failOnUnwrapped),
  ("-v".toList, .verbose),
  ("--verbose".toList, .verbose)]

/-- The option with the given spelling. -/
def ofSpelling? (spelling : Text) : Option Flag :=
  spellings.lookup spelling

/-- How an option is named in a complaint. -/
def name (flag : Flag) : String :=
  "/".intercalate ((spellings.filter (·.2 = flag)).map fun pair => String.ofList pair.1)

/-- Whether an option takes a value. -/
def takesValue : Flag → Bool
  | .output | .encoding => true
  | .help | .json | .keepTags | .failOnUnwrapped | .verbose => false

end Flag

/-- What can be wrong with the arguments. -/
inductive UsageError where
  | ambiguous (argument : Text) (spellings : List Text)
  | missingValue (flag : Flag)
  | unusedValue (flag : Flag) (value : Text)
  | missingPath
  | unrecognized (arguments : List Text)
deriving Repr, DecidableEq

/-- The wording of a usage error. -/
def UsageError.message : UsageError → String
  | .ambiguous argument spellings =>
    s!"ambiguous option: {String.ofList argument} could match " ++
      ", ".intercalate (spellings.map String.ofList)
  | .missingValue flag => s!"argument {flag.name}: expected one argument"
  | .unusedValue flag value =>
    s!"argument {flag.name}: ignored explicit argument {value.quotedString}"
  | .missingPath => "the following arguments are required: path"
  | .unrecognized arguments =>
    "unrecognized arguments: " ++ " ".intercalate (arguments.map String.ofList)

end PhraseAudit.CommandLine
