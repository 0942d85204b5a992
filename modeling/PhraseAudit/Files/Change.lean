import PhraseAudit.Files.Resolve

/-!
# Reading and changing files

The operations on files and folders. Each answers with the fault that it met, and an operation that
fails leaves the tree as it was; only the making of several folders may stop halfway.
-/

namespace PhraseAudit

namespace FileTree

/-- The content of a regular file. -/
def read (tree : FileTree) (path : Path) : Except FileError (List UInt8) :=
  match tree.find path with
  | .ok (.file content) => .ok content
  | .ok .folder => .error ⟨.isFolder, path, none⟩
  | .error fault => .error ⟨fault, path, none⟩

/-- Makes a folder at a free place. -/
def makeFolder (tree : FileTree) (path : Path) : Except FileError FileTree :=
  match tree.slot path with
  | .error fault => .error ⟨fault, path, none⟩
  | .ok none => .error ⟨.taken, path, none⟩
  | .ok (some place) =>
    match tree.get? place with
    | some _ => .error ⟨.taken, path, none⟩
    | none => .ok (tree.insert place .folder)

/-- Writes a file, new or in place of an old one. -/
def write (tree : FileTree) (path : Path) (content : List UInt8) : Except FileError FileTree :=
  match tree.slot path with
  | .error fault => .error ⟨fault, path, none⟩
  | .ok none => .error ⟨.isFolder, path, none⟩
  | .ok (some place) =>
    match tree.get? place with
    | some .folder => .error ⟨.isFolder, path, none⟩
    | some (.file _) | none => .ok (tree.insert place (.file content))

/-- Moves a regular file to another place, over the regular file that may stand there. -/
def move (tree : FileTree) (path target : Path) : Except FileError FileTree :=
  let failure (fault : PathFault) : Except FileError FileTree := .error ⟨fault, path, some target⟩
  match tree.slot path, tree.slot target with
  | .error fault, _ => failure fault
  | .ok _, .error fault => failure fault
  | .ok none, .ok _ | .ok (some _), .ok none => failure .busy
  | .ok (some source), .ok (some goal) =>
    match tree.get? source, tree.get? goal with
    | none, _ => failure .notFound
    | some .folder, _ => failure .isFolder
    | some (.file _), some .folder => failure .isFolder
    | some (.file content), _ => .ok ((tree.erase source).insert goal (.file content))

/-- Removes a regular file. -/
def remove (tree : FileTree) (path : Path) : Except FileError FileTree :=
  match tree.slot path with
  | .error fault => .error ⟨fault, path, none⟩
  | .ok none => .error ⟨.isFolder, path, none⟩
  | .ok (some place) =>
    match tree.get? place with
    | none => .error ⟨.notFound, path, none⟩
    | some .folder => .error ⟨.isFolder, path, none⟩
    | some (.file _) => .ok (tree.erase place)

/-- Lets a failed attempt to make a folder pass when the folder is there already. -/
def acceptFolder (tree : FileTree) (path : Path) (error : FileError) : Except FileError Unit :=
  if error.fault = .nullByte then .error error
  else match tree.isFolder path with
    | .ok true => .ok ()
    | .ok false => .error error
    | .error other => .error other

/-- Makes a folder in an existing one, unless it is there already. -/
def ensureFolder (tree : FileTree) (path : Path) : Except FileError Unit × FileTree :=
  match tree.makeFolder path with
  | .ok made => (.ok (), made)
  | .error error =>
    if error.fault = .notFound then (.error error, tree) else (tree.acceptFolder path error, tree)

/-- Makes a folder and the missing ones above it, unless it is there already. The names of its path
are given from the last one on. The tree shows the folders that were made, also after a failure. -/
def ensureAbove (tree : FileTree) (start : PathStart) : (reversed : List Text) →
    Except FileError Unit × FileTree
  | [] => tree.ensureFolder ⟨start, []⟩
  | name :: above =>
    let path : Path := ⟨start, (name :: above).reverse⟩
    match tree.makeFolder path with
    | .ok made => (.ok (), made)
    | .error error =>
      if error.fault = .notFound then
        match tree.ensureAbove start above with
        | (.ok (), made) => made.ensureFolder path
        | (.error other, made) => (.error other, made)
      else (tree.acceptFolder path error, tree)

/-- Makes a folder and the missing ones above it, unless it is there already. -/
def ensureFolders (tree : FileTree) (path : Path) : Except FileError Unit × FileTree :=
  tree.ensureAbove path.start path.names.reverse

end FileTree

end PhraseAudit
