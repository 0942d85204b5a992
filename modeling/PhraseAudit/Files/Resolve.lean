import PhraseAudit.Files.Fault
import PhraseAudit.Files.Tree
import PhraseAudit.Text.Bytes

/-!
# Resolving paths

A path is resolved name by name from the current folder or from the root: every name but the last
has to lead to a folder, and two dots lead back to the folder above. The fault that is met first is
the answer.
-/

namespace PhraseAudit

/-- The longest name that a folder can hold, in bytes. -/
def nameLimit : Nat :=
  255

/-- The length that a whole path must not reach, in bytes. -/
def pathLimit : Nat :=
  4096

/-- The name that leads to the folder above. -/
def parentName : Text :=
  ['.', '.']

namespace FileTree

/-- Goes on from a place by one name after the other, to something that exists. -/
def walk (tree : FileTree) (place : Place) : List Text → Except PathFault Place
  | [] => .ok place
  | name :: names =>
    match tree.get? place with
    | none => .error .notFound
    | some (.file _) => .error .notFolder
    | some .folder =>
      if name = parentName then tree.walk place.dropLast names
      else if nameLimit < name.byteSize then .error .nameTooLong
      else match tree.get? (place ++ [name]) with
        | none => .error .notFound
        | some _ => tree.walk (place ++ [name]) names

/-- The place at which a path begins. -/
def startOf (tree : FileTree) (path : Path) : Place :=
  match path.start with
  | .current => tree.current
  | .root | .doubleRoot => []

/-- Refuses a path that cannot be a path at all. -/
def checkPath (path : Path) : Except PathFault Unit :=
  if '\x00' ∈ path.toText then .error .nullByte
  else if pathLimit ≤ path.toText.byteSize then .error .nameTooLong
  else .ok ()

/-- The place of a path that leads to something that exists. -/
def resolve (tree : FileTree) (path : Path) : Except PathFault Place := do
  checkPath path
  tree.walk (tree.startOf path) path.names

/-- What a path leads to. -/
def find (tree : FileTree) (path : Path) : Except PathFault Entry := do
  let place ← tree.resolve path
  match tree.get? place with
  | some entry => .ok entry
  | none => .error .notFound

/-- Where a path would put a new entry: at a free or taken place of an existing folder, or, for a
path that ends in no proper name, nowhere. -/
def slot (tree : FileTree) (path : Path) : Except PathFault (Option Place) := do
  checkPath path
  match path.names.getLast? with
  | none => .ok none
  | some name =>
    let folder ← tree.walk (tree.startOf path) path.names.dropLast
    match tree.get? folder with
    | none => .error .notFound
    | some (.file _) => .error .notFolder
    | some .folder =>
      if name = parentName then .ok none
      else if nameLimit < name.byteSize then .error .nameTooLong
      else .ok (some (folder ++ [name]))

/-! ## Questions -/

/-- The answer about a path that may lead nowhere: only a name that is too long is an error. -/
def whether (path : Path) (holds : Entry → Bool) : Except PathFault Entry → Except FileError Bool
  | .ok entry => .ok (holds entry)
  | .error .nameTooLong => .error ⟨.nameTooLong, path, none⟩
  | .error _ => .ok false

/-- Whether a path leads to a regular file. -/
def isFile (tree : FileTree) (path : Path) : Except FileError Bool :=
  whether path Entry.isFile (tree.find path)

/-- Whether a path leads to a folder. -/
def isFolder (tree : FileTree) (path : Path) : Except FileError Bool :=
  whether path (fun entry => !Entry.isFile entry) (tree.find path)

/-- Whether a path leads to anything. -/
def isThere (tree : FileTree) (path : Path) : Except FileError Bool :=
  whether path (fun _ => true) (tree.find path)

end FileTree

end PhraseAudit
