import PhraseAudit.Text.Basic

/-!
# Paths

A path names a place in a file tree by a list of names, counted from the current folder or from the
root. Reading a path drops empty names and single dots; two dots are kept, since what they mean
depends on the tree.
-/

namespace PhraseAudit

/-- Where a path begins. Exactly two leading slashes are kept apart from one, although both mean
the root. -/
inductive PathStart where
  | current
  | root
  | doubleRoot
deriving Repr, DecidableEq

/-- How the beginning of a path is written. -/
def PathStart.toText : PathStart → Text
  | .current => []
  | .root => ['/']
  | .doubleRoot => ['/', '/']

/-- A path: where it begins, and the names on it. -/
structure Path where
  start : PathStart
  names : List Text
deriving Repr, DecidableEq

namespace Path

/-- A piece that names something: neither empty nor a single dot. -/
def isName (piece : Text) : Bool :=
  piece != [] && piece != ['.']

/-- The beginning of a path, from the number of its leading slashes. -/
def startOf (text : Text) : PathStart :=
  match (text.takeWhile (· == '/')).length with
  | 0 => .current
  | 2 => .doubleRoot
  | _ => .root

/-- Reads a path. -/
def ofText (text : Text) : Path :=
  ⟨startOf text, (text.splitOn '/').filter isName⟩

/-- Writes a path; a path without names from the current folder is a single dot. -/
def toText (path : Path) : Text :=
  if path.start = .current ∧ path.names = [] then ['.']
  else path.start.toText ++ ['/'].intercalate path.names

/-- The last name of a path, if it has one. -/
def name? (path : Path) : Option Text :=
  path.names.getLast?

/-- The path without its last name. -/
def parent (path : Path) : Path :=
  { path with names := path.names.dropLast }

/-- The path with another last name. -/
def withName (path : Path) (name : Text) : Path :=
  { path with names := path.names.dropLast ++ [name] }

/-- The path as a string, for use in messages. -/
def toString (path : Path) : String :=
  String.ofList path.toText

end Path

end PhraseAudit
