import PhraseAudit.Files.Path
import PhraseAudit.Marker

/-!
# Notices

What a run tells its user on the way, each with its level and its wording.
-/

namespace PhraseAudit

/-- How important a notice is. -/
inductive Level where
  | info
  | warning
  | error
  | debug
  | done
deriving Repr, DecidableEq

namespace Level

/-- The tag in front of a notice, five characters wide. -/
def tag : Level → String
  | .info => "INFO "
  | .warning => "WARN "
  | .error => "ERROR"
  | .debug => "DEBUG"
  | .done => "DONE "

/-- The style in which the tag is shown. -/
def style : Level → String
  | .info => "bold green"
  | .warning => "bold yellow"
  | .error => "bold red"
  | .debug => "bold blue"
  | .done => "bold cyan"

end Level

/-- The things a run has to tell. -/
inductive Notice where
  /-- The source was found, and its reading begins. -/
  | opened (source : Path)
  /-- The first pass begins. -/
  | collecting
  /-- A marker wraps the empty text. -/
  | emptyPhrase (kind : MarkerKind) (line : Int)
  /-- The first pass has ended with so many phrases. -/
  | collected (count : Nat)
  /-- The phrases that the first pass found. -/
  | known (phrases : List Text)
  /-- There is no phrase to search for. -/
  | nothingToSearch
  /-- The second pass begins. -/
  | searching (stripTags : Bool)
  /-- So many texts of the set are no phrases and are not searched for. -/
  | skipped (count : Nat)
  /-- The report was written. -/
  | written (target : Path)
  /-- The run ends because of the error with the given text. -/
  | failed (message : String)
deriving Repr, DecidableEq

namespace Notice

/-- The level of a notice. -/
def level : Notice → Level
  | .opened _ | .collecting | .collected _ | .nothingToSearch | .searching _ => .info
  | .emptyPhrase _ _ => .warning
  | .known _ | .skipped _ => .debug
  | .written _ => .done
  | .failed _ => .error

/-- The wording of a notice. -/
def message : Notice → String
  | .opened source => s!"Searching for unwrapped phrases in: '{source.toString}'"
  | .collecting => "Pass 1: Collecting phrases from wrapped patterns..."
  | .emptyPhrase kind line =>
    s!"Empty {String.ofList kind.keyword} annotation on line {String.ofList (Text.ofInt line)}"
  | .collected count =>
    s!"Found {String.ofList (Text.ofNat count)} unique phrases in wrapped patterns."
  | .known phrases => "Known phrases: " ++ ", ".intercalate (phrases.map Text.quotedString)
  | .nothingToSearch => "No wrapped phrases found to monitor for unwrapped instances."
  | .searching true =>
    "Pass 2: Searching for unwrapped instances (ignoring HTML tags)..."
  | .searching false =>
    "Pass 2: Searching for unwrapped instances (including HTML tags)..."
  | .skipped count => s!"Skipping {String.ofList (Text.ofNat count)} empty phrase(s)"
  | .written target => s!"Results written to: {target.toString}"
  | .failed message => message

end Notice

end PhraseAudit
