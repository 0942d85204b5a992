import PhraseAudit.CommandLine.Argument

/-!
# Settings

The settings of a run are taken from its arguments from left to right. The first argument that is no
option names the source, a later option replaces an earlier one, and a call for help ends the
reading at once. What nobody takes is complained about in the end.

The rules are those of the option parser in the early 3.11 releases. Later releases differ in two
points: a letter behind a short option that stands for no option is taken there as an argument of its
own that nobody knows, and two dashes behind an equals sign are a value like any other.
-/

namespace PhraseAudit.CommandLine

/-- The settings of a run. An empty output or encoding asks for none. -/
structure Settings where
  path : Text
  json : Bool
  output : Text
  keepTags : Bool
  encoding : Text
  failOnUnwrapped : Bool
  verbose : Bool
deriving Repr, DecidableEq

/-- What the arguments ask for. -/
inductive Request where
  | help
  | run (settings : Settings)
deriving Repr, DecidableEq

/-- What is known after some arguments: the settings, whether the source was named, and the
arguments that were not recognized. -/
structure Progress where
  settings : Settings
  named : Bool
  extras : List Text
deriving Repr, DecidableEq

namespace Progress

/-- Before the first argument. -/
def start : Progress :=
  ⟨⟨[], false, [], false, [], false, false⟩, false, []⟩

/-- Takes an argument that is no option: the first one names the source. -/
def takePlain (progress : Progress) (text : Text) : Progress :=
  if progress.named then { progress with extras := progress.extras ++ [text] }
  else { progress with settings := { progress.settings with path := text }, named := true }

/-- Takes an argument that nobody knows. -/
def takeUnknown (progress : Progress) (text : Text) : Progress :=
  { progress with extras := progress.extras ++ [text] }

/-- Takes an option without a value; help ends the run. -/
def takeSwitch (progress : Progress) : Flag → Option Progress
  | .help => none
  | .json => some { progress with settings := { progress.settings with json := true } }
  | .keepTags => some { progress with settings := { progress.settings with keepTags := true } }
  | .failOnUnwrapped =>
    some { progress with settings := { progress.settings with failOnUnwrapped := true } }
  | .verbose => some { progress with settings := { progress.settings with verbose := true } }
  | .output | .encoding => some progress

/-- Takes options without values, one after the other. -/
def takeSwitches (progress : Progress) : List Flag → Option Progress
  | [] => some progress
  | flag :: rest =>
    match progress.takeSwitch flag with
    | none => none
    | some next => next.takeSwitches rest

/-- Takes the value of an option. -/
def takeValue (progress : Progress) (flag : Flag) (value : Text) : Progress :=
  match flag with
  | .output => { progress with settings := { progress.settings with output := value } }
  | .encoding => { progress with settings := { progress.settings with encoding := value } }
  | .help | .json | .keepTags | .failOnUnwrapped | .verbose => progress

end Progress

/-- The options that the letters behind a short option stand for, that option first. A letter that
stands for none spoils the argument, as in the early 3.11 releases. -/
def cluster (flag : Flag) : Text → Except UsageError (List Flag)
  | [] => .ok [flag]
  | letter :: rest =>
    match Flag.ofSpelling? ['-', letter] with
    | none => .error (.unusedValue flag (letter :: rest))
    | some next => (cluster next rest).map (flag :: ·)

/-- The options that an argument stands for which carries a text its option has no use for. -/
def spread (flag : Flag) (isShort : Bool) (attached : Text) : Except UsageError (List Flag) :=
  if isShort && !attached.isEmpty then cluster flag attached
  else .error (.unusedValue flag attached)

/-- A value that is written into the same argument. Two dashes there count as no value, as in the
early 3.11 releases. -/
def attachedValue (value : Text) : Text :=
  if value = Argument.separatorText then [] else value

/-- Takes arguments from left to right, up to a call for help. -/
def takeAll (progress : Progress) : List Argument → Except UsageError (Option Progress)
  | [] => .ok (some progress)
  | .unknown text :: rest => takeAll (progress.takeUnknown text) rest
  | .plain text :: .separator :: rest =>
    if progress.named then takeAll (progress.takePlain text) (.separator :: rest)
    else takeAll (progress.takePlain text) rest
  | .plain text :: rest => takeAll (progress.takePlain text) rest
  | .separator :: rest =>
    if progress.named || rest.isEmpty then
      takeAll (progress.takeUnknown Argument.separatorText) rest
    else takeAll progress rest
  | .option flag isShort (some attached) :: rest =>
    if flag.takesValue then takeAll (progress.takeValue flag (attachedValue attached)) rest
    else
      match spread flag isShort attached with
      | .error error => .error error
      | .ok flags =>
        match progress.takeSwitches flags with
        | none => .ok none
        | some next => takeAll next rest
  | .option flag _ none :: rest =>
    if flag.takesValue then
      match rest with
      | .plain value :: rest => takeAll (progress.takeValue flag value) rest
      | _ => .error (.missingValue flag)
    else
      match progress.takeSwitch flag with
      | none => .ok none
      | some next => takeAll next rest

/-- Reads the arguments of a run. -/
def parse (arguments : List Text) : Except UsageError Request := do
  let told ← Argument.ofTexts arguments
  match ← takeAll Progress.start told with
  | none => return .help
  | some progress =>
    if !progress.named then .error .missingPath
    else if !progress.extras.isEmpty then .error (.unrecognized progress.extras)
    else return .run progress.settings

end PhraseAudit.CommandLine
