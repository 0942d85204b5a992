import PhraseAudit.Console
import PhraseAudit.Encoding.Utf8
import PhraseAudit.Files.Change

/-!
# Writing the report file

The document is first written to a temporary file next to its target and then moved over it, so that
the target holds either its old content or the whole document. The temporary file is opened before
the document is put into words, which fails for a number of too many digits. It does not stay,
whatever happens.
-/

namespace PhraseAudit

/-- Why a report file was not written. -/
inductive WriteError where
  | notAFile (target : Path)
  | file (error : FileError)
  | number (error : NumberError)
deriving Repr, DecidableEq

/-- The wording of a write error. -/
def WriteError.message : WriteError → String
  | .notAFile target => s!"Output path is not a file: {target.toString}"
  | .file error => error.message
  | .number error => error.message

namespace Report

/-- The temporary file for a target with the given last name. -/
def temporaryPath (target : Path) (name : Text) : Path :=
  target.withName (name ++ ".tmp".toList)

/-- Removes the temporary file if it is there. -/
def removeTemporary (tree : FileTree) (temporary : Path) : Except FileError FileTree :=
  match tree.isThere temporary with
  | .error error => .error error
  | .ok false => .ok tree
  | .ok true => tree.remove temporary

/-- Writes a temporary file and moves it over its target, as far as that succeeds. The file is opened,
and is empty then, before it shows whether there is a content. -/
def writeAndMove (tree : FileTree) (temporary target : Path)
    (content : Except NumberError (List UInt8)) : Except WriteError Unit × FileTree :=
  match tree.write temporary [] with
  | .error error => (.error (.file error), tree)
  | .ok opened =>
    match content with
    | .error error => (.error (.number error), opened)
    | .ok bytes =>
      match opened.write temporary bytes with
      | .error error => (.error (.file error), opened)
      | .ok written =>
        match written.move temporary target with
        | .error error => (.error (.file error), written)
        | .ok moved => (.ok (), moved)

/-- Replaces a target by way of a temporary file, which is removed in the end. A failure to remove
it comes before the failure that made it necessary. -/
def replaceFile (tree : FileTree) (temporary target : Path)
    (content : Except NumberError (List UInt8)) : Except WriteError Unit × FileTree :=
  let (outcome, written) := writeAndMove tree temporary target content
  match removeTemporary written temporary with
  | .error error => (.error (.file error), written)
  | .ok cleared => (outcome, cleared)

/-- Writes a content to a target that has the given last name, after making the missing folders
above it. -/
def writeInto (tree : FileTree) (target : Path) (name : Text)
    (content : Except NumberError (List UInt8)) : Except WriteError Unit × FileTree :=
  match tree.ensureFolders target.parent with
  | (.error error, made) => (.error (.file error), made)
  | (.ok (), made) => replaceFile made (temporaryPath target name) target content

/-- Writes a content to a target, which must not be a folder. -/
def writeContent (tree : FileTree) (target : Path) (content : Except NumberError (List UInt8)) :
    Except WriteError Unit × FileTree :=
  match target.name? with
  | none => (.error (.notAFile target), tree)
  | some name =>
    match tree.isFolder target with
    | .error error => (.error (.file error), tree)
    | .ok true => (.error (.notAFile target), tree)
    | .ok false => writeInto tree target name content

/-- The content of a report file, unless some number in the document cannot be written. -/
def fileContent (limit : DigitLimit) (document : Document) : Except NumberError (List UInt8) :=
  (limit.check document.toJson.numbers).map fun _ => Utf8.encode document.toJson.print

/-- Writes a document to a file as JSON, and tells when it is done. -/
def writeDocument (limit : DigitLimit) (tree : FileTree) (target : Path) (document : Document) :
    Except WriteError (List Notice) × FileTree :=
  let (outcome, written) := writeContent tree target (fileContent limit document)
  (outcome.map fun _ => [.written target], written)

/-- Writes the JSON document about a ledger to a file, and tells when it is done. -/
def writeJson (limit : DigitLimit) (tree : FileTree) (target : Path) (ledger : Ledger)
    (summary : Option Summary) : Except WriteError (List Notice) × FileTree :=
  writeDocument limit tree target (Document.ofLedger ledger summary)

end Report

end PhraseAudit
