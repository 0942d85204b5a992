import PhraseAudit.Files.Path

/-!
# Home folders

A path that begins with a tilde leads to a home folder: of the user who runs the program, or of the
user whose name follows the tilde.
-/

namespace PhraseAudit

/-- What is known about home folders: that of the user, and those of the accounts by name. -/
structure Homes where
  own : Text
  accounts : List (Text × Text)
deriving Repr, DecidableEq

/-- Why a home folder could not be found. -/
inductive HomeError where
  | undetermined
  | nullByte
deriving Repr, DecidableEq

/-- The wording of a home error. -/
def HomeError.message : HomeError → String
  | .undetermined => "Could not determine home directory."
  | .nullByte => "embedded null byte"

namespace Homes

/-- The home folder that is meant by what follows a tilde. -/
def folderOf (homes : Homes) (user : Text) : Except HomeError Text :=
  if user = [] then .ok homes.own
  else if '\x00' ∈ user then .error .nullByte
  else match homes.accounts.lookup user with
    | some folder => .ok folder
    | none => .error .undetermined

/-- The path to a home folder. Slashes at its end do not count, so that nothing but slashes leads to
the root. What begins with a tilde again is no home folder. -/
def pathTo (folder : Text) : Except HomeError Path :=
  if folder.all (· == '/') then .ok ⟨.root, []⟩
  else if folder.head? = some '~' then .error .undetermined
  else .ok (Path.ofText folder)

/-- Puts the home folder in place of a tilde at the beginning of a path. -/
def expand (homes : Homes) (path : Path) : Except HomeError Path :=
  match path.start, path.names with
  | .current, ('~' :: user) :: names => do
    let home ← pathTo (← homes.folderOf user)
    return { home with names := home.names ++ names }
  | _, _ => .ok path

end Homes

end PhraseAudit
