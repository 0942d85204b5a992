import PhraseAudit.Files.Path
import PhraseAudit.Text.Numeral
import PhraseAudit.Text.Quoted

/-!
# Faults of file operations

What can go wrong with a path, and how it is worded.
-/

namespace PhraseAudit

/-- What can be wrong with a path. -/
inductive PathFault where
  | nullByte
  | notFound
  | busy
  | taken
  | notFolder
  | isFolder
  | nameTooLong
deriving Repr, DecidableEq

/-- The number and the wording of a fault; a path with a null byte is refused without a number. -/
def PathFault.description : PathFault → Option (Nat × String)
  | .nullByte => none
  | .notFound => some (2, "No such file or directory")
  | .busy => some (16, "Device or resource busy")
  | .taken => some (17, "File exists")
  | .notFolder => some (20, "Not a directory")
  | .isFolder => some (21, "Is a directory")
  | .nameTooLong => some (36, "File name too long")

/-- A fault together with the path that it was met on and, when a file was moved, its target. -/
structure FileError where
  fault : PathFault
  path : Path
  target : Option Path
deriving Repr, DecidableEq

/-- The wording of a file error. -/
def FileError.message (error : FileError) : String :=
  match error.fault.description with
  | none => "embedded null byte"
  | some (number, wording) =>
    let source := error.path.toText.quotedString
    let onto := match error.target with
      | none => ""
      | some target => " -> " ++ target.toText.quotedString
    s!"[Errno {String.ofList (Text.ofNat number)}] {wording}: " ++ source ++ onto

end PhraseAudit
