import PhraseAudit.Encoding.Name
import PhraseAudit.Files.Home
import PhraseAudit.Files.Change
import PhraseAudit.Text.Lines

/-!
# Sources

A source is a regular file that is read line by line. It may fail in the middle: then the lines
before the fault have been delivered, and the fault is known besides.
-/

namespace PhraseAudit

/-- What a reader delivers: some items, and why it stopped early, if it did. -/
structure Feed (ε α : Type) where
  items : List α
  failure : Option ε

/-- Why a source could not be read to its end. -/
inductive ReadCause where
  | file (error : FileError)
  | name (error : EncodingNameError)
  | content (error : DecodeError)
deriving Repr, DecidableEq

/-- The wording of a cause. -/
def ReadCause.message : ReadCause → String
  | .file error => error.message
  | .name error => error.message
  | .content error => error.message

/-- A cause is reported as a fault of the source, unless it is a null character in a path or in the
name of an encoding: that is a fault of the request. -/
def ReadCause.isReported : ReadCause → Bool
  | .file error => error.fault != .nullByte
  | .name error => error != .nullCharacter
  | .content _ => true

/-- The failure of reading a source. -/
structure ReadError where
  source : Path
  cause : ReadCause
deriving Repr, DecidableEq

/-- The wording of a failure. -/
def ReadError.message (error : ReadError) : String :=
  if error.cause.isReported then
    s!"An unexpected error occurred while processing '{error.source.toString}': " ++
      error.cause.message
  else error.cause.message

/-- Why a path does not lead to a source. -/
inductive SourceError where
  | notFound (source : Path)
  | home (error : HomeError)
  | file (error : FileError)
deriving Repr, DecidableEq

/-- The wording of a source error. -/
def SourceError.message : SourceError → String
  | .notFound source =>
    s!"The file at '{source.toString}' does not exist or is not a regular file."
  | .home error => error.message
  | .file error => error.message

namespace Source

/-- Finds the source that a path means, which has to be a regular file. -/
def locate (homes : Homes) (tree : FileTree) (path : Text) : Except SourceError Path :=
  match homes.expand (Path.ofText path) with
  | .error error => .error (.home error)
  | .ok source =>
    match tree.isFile source with
    | .error error => .error (.file error)
    | .ok true => .ok source
    | .ok false => .error (.notFound source)

/-- Numbers lines from the given number on. -/
def number (first : Int) : List Text → List (Int × Text)
  | [] => []
  | line :: rest => (first, line) :: number (first + 1) rest

/-- The codec for a source: the one that is asked for, or else that of the encoding that its first
bytes show. An empty name asks for none. -/
def codecOf (codecs : Codecs) (requested : Text) (content : List UInt8) :
    Except EncodingNameError Codec :=
  if requested = [] then .ok (Encoding.detect content).decode else codecs.find requested

/-- Numbers lines from one on, each as it stands in the text, and takes off what ends it. -/
def numbered (pieces : List Text) : List (Int × Text) :=
  number 1 (pieces.map Lines.withoutEnd)

/-- The lines of a decoded source. When the source breaks off with a fault, only the lines before it
that are certainly ended are delivered. -/
def linesOf (decoding : Decoding) : Feed ReadCause (Int × Text) :=
  match decoding.fault with
  | none => ⟨numbered (Lines.ofText decoding.text).pieces, none⟩
  | some fault =>
    ⟨numbered (Lines.ofText (Lines.settled decoding.text)).endedPieces, some (.content fault)⟩

/-- The numbered lines of some bytes. -/
def linesOfBytes (codecs : Codecs) (requested : Text) (content : List UInt8) :
    Feed ReadCause (Int × Text) :=
  match codecOf codecs requested content with
  | .error error => ⟨[], some (.name error)⟩
  | .ok codec => linesOf (codec content)

/-- The numbered lines of the source at a path. -/
def lines (codecs : Codecs) (tree : FileTree) (requested : Text) (source : Path) :
    Feed ReadError (Int × Text) :=
  match tree.read source with
  | .error error => ⟨[], some ⟨source, .file error⟩⟩
  | .ok content =>
    let feed := linesOfBytes codecs requested content
    ⟨feed.items, feed.failure.map fun cause => ⟨source, cause⟩⟩

end Source

end PhraseAudit
