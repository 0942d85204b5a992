import PhraseAudit.Proofs.CommandLine.Course
import PhraseAudit.Proofs.Files.Lengths

/-!
# Paths that lead to no source

A path is given as a text, and any text can be given. Home folders are put in first, and then the
path has to lead to a regular file. That it does not is told as one error. Two things are not told
and end the run: a home folder that is not known, and a path or a name on it that is too long.
-/

namespace PhraseAudit

namespace Homes

/-- What is known as the home folder of a user, who is named unless it is the one who runs the
program. -/
inductive IsHome (homes : Homes) : Text → Text → Prop where
  | own : IsHome homes [] homes.own
  | account {user folder : Text} (named : user ≠ []) (clean : '\x00' ∉ user)
      (listed : homes.accounts.lookup user = some folder) : IsHome homes user folder

/-- A path asks for a home that is not there: a tilde and perhaps a user come first on it, and nothing
is known as the home folder of this user, or only what begins with a tilde again. -/
def Lacks (homes : Homes) (path : Path) : Prop :=
  path.start = .current ∧ ∃ user names, path.names = ('~' :: user) :: names ∧
    ∀ folder, homes.IsHome user folder → folder.head? = some '~'

/-- The home folder that is looked up is the one that is known. -/
theorem folderOf_eq_ok_iff (homes : Homes) (user folder : Text) :
    homes.folderOf user = .ok folder ↔ homes.IsHome user folder := by
  unfold folderOf
  constructor
  · intro found
    split at found
    · rename_i own
      cases found
      exact own ▸ .own
    · rename_i named
      split at found
      · cases found
      · rename_i clean
        split at found
        · rename_i listed
          cases found
          exact .account named clean listed
        · cases found
  · intro known
    cases known with
    | own => exact if_pos rfl
    | account named clean listed => simp only [if_neg named, if_neg clean, listed]

/-- Only what begins with a tilde leads to no home folder. -/
theorem exists_pathTo_eq_error_iff (folder : Text) :
    (∃ error, pathTo folder = .error error) ↔ folder.head? = some '~' := by
  unfold pathTo
  cases folder with
  | nil => simp
  | cons c rest =>
    by_cases tilde : c = '~'
    · simp [tilde]
    · split <;> simp [tilde]

/-- A path that does not begin with a tilde is left as it is. -/
theorem expand_eq_self (homes : Homes) {path : Path}
    (plain : ¬ (path.start = .current ∧ ∃ user names, path.names = ('~' :: user) :: names)) :
    homes.expand path = .ok path := by
  unfold expand
  split
  · rename_i user names current first
    exact absurd ⟨current, user, names, first⟩ plain
  · rfl

/-- A home folder can be put in for a tilde unless the path asks for one that is not there. -/
theorem exists_expand_eq_error_iff (homes : Homes) (path : Path) :
    (∃ error, homes.expand path = .error error) ↔ homes.Lacks path := by
  by_cases tilde : path.start = .current ∧ ∃ user names, path.names = ('~' :: user) :: names
  · obtain ⟨start, names⟩ := path
    obtain ⟨rfl, user, others, rfl⟩ := tilde
    have asks : homes.Lacks ⟨.current, ('~' :: user) :: others⟩ ↔
        ∀ folder, homes.folderOf user = .ok folder → folder.head? = some '~' := by
      simp [Lacks, folderOf_eq_ok_iff]
    rw [asks]
    cases found : homes.folderOf user with
    | error error => simp [expand, found, bind, Except.bind]
    | ok folder =>
      have leads := exists_pathTo_eq_error_iff folder
      simp only [Except.ok.injEq, forall_eq', ← leads]
      cases known : pathTo folder <;>
        simp [expand, found, known, bind, Except.bind, pure, Except.pure]
  · rw [homes.expand_eq_self tilde]
    refine iff_of_false (by simp) ?_
    rintro ⟨current, user, names, first, _⟩
    exact tilde ⟨current, user, names, first⟩

end Homes

namespace Source

variable (homes : Homes) (tree : FileTree) (path : Text)

/-- How a source is looked for behind its home folder. -/
theorem locate_of_expand {source : Path} (led : homes.expand (Path.ofText path) = .ok source) :
    locate homes tree path = match tree.isFile source with
      | .error error => .error (.file error)
      | .ok true => .ok source
      | .ok false => .error (.notFound source) := by
  unfold locate
  generalize homes.expand (Path.ofText path) = answer at led ⊢
  subst led
  rfl

/-- A source is found exactly when its path, with the home folder put in, leads to a regular file. -/
theorem locate_eq_ok_iff (source : Path) :
    locate homes tree path = .ok source ↔ homes.expand (Path.ofText path) = .ok source ∧
      ∃ content, tree.find source = .ok (.file content) := by
  cases led : homes.expand (Path.ofText path) with
  | error error => simp [locate, led]
  | ok found =>
    rw [locate_of_expand homes tree path led, Except.ok.injEq, ← tree.isFile_eq_true_iff]
    constructor
    · intro located
      split at located
      · cases located
      · rename_i regular
        obtain rfl := Except.ok.inj located
        exact ⟨rfl, regular⟩
      · cases located
    · rintro ⟨rfl, regular⟩
      rw [regular]

/-- A source is told not to be found exactly when its path leads to no regular file and is not too
long for this to be seen. -/
theorem locate_eq_notFound_iff (source : Path) :
    locate homes tree path = .error (.notFound source) ↔
      homes.expand (Path.ofText path) = .ok source ∧ ¬ tree.TooLong source ∧
        ¬ ∃ content, tree.find source = .ok (.file content) := by
  cases led : homes.expand (Path.ofText path) with
  | error error => simp [locate, led]
  | ok found =>
    rw [locate_of_expand homes tree path led, Except.ok.injEq, ← tree.isFile_eq_true_iff,
      ← tree.exists_isFile_eq_error_iff]
    constructor
    · intro located
      split at located
      · cases located
      · cases located
      · rename_i answered
        obtain rfl := SourceError.notFound.inj (Except.error.inj located)
        simp [answered]
    · rintro ⟨rfl, short, absent⟩
      cases answered : tree.isFile found with
      | error error => exact absurd ⟨error, answered⟩ short
      | ok regular =>
        cases regular with
        | false => rfl
        | true => exact absurd answered absent

/-- Looking for a source fails in another way exactly when the path asks for a home that is not there,
or is too long. -/
theorem exists_locate_eq_error_iff :
    (∃ error, locate homes tree path = .error error ∧ ∀ source, error ≠ .notFound source) ↔
      homes.Lacks (Path.ofText path) ∨
        ∃ source, homes.expand (Path.ofText path) = .ok source ∧ tree.TooLong source := by
  rw [← homes.exists_expand_eq_error_iff]
  cases led : homes.expand (Path.ofText path) with
  | error error => simp [locate, led]
  | ok found =>
    simp only [locate_of_expand homes tree path led, ← tree.exists_isFile_eq_error_iff]
    cases answered : tree.isFile found with
    | error error => simp [answered]
    | ok regular => cases regular <;> simp [answered]

end Source

namespace CommandLine

/-- An audit leaves no error of its source path behind. -/
theorem runOn_ending_ne (codecs : Codecs) (tree : FileTree) (settings : Settings) (source : Path)
    (error : SourceError) : (runOn codecs tree settings source).ending ≠ .crash (.source error) := by
  unfold runOn
  dsimp only
  split
  · split <;> simp [Run.ofEvents]
  · simp [Run.ofEvents]

/-- A run is ended by the error of its source path exactly when this error is not that nothing was
found. -/
theorem runWith_crash_iff (host : Host) (tree : FileTree) (settings : Settings)
    (error : SourceError) :
    (runWith host tree settings).ending = .crash (.source error) ↔
      Source.locate host.homes tree settings.path = .error error ∧
        ∀ source, error ≠ .notFound source := by
  unfold runWith
  cases Source.locate host.homes tree settings.path with
  | ok source => simp [runOn_ending_ne]
  | error met =>
    cases met with
    | notFound source =>
      refine iff_of_false (by simp [Run.ofEvents]) ?_
      rintro ⟨same, other⟩
      exact other source (Except.error.inj same).symm
    | home met =>
      simp only [Run.ofEvents, Ending.crash.injEq, Crash.source.injEq, Except.error.injEq]
      exact (and_iff_left_of_imp (by rintro rfl _ ⟨⟩)).symm
    | file met =>
      simp only [Run.ofEvents, Ending.crash.injEq, Crash.source.injEq, Except.error.injEq]
      exact (and_iff_left_of_imp (by rintro rfl _ ⟨⟩)).symm

/-- A path that leads to no source is told as one error, unless a home folder is not known or
something is too long.

Any text can be given as a path. With its home folder put in, it leads to the source exactly when a
regular file is there. Otherwise the source is told not to be found, except if the path asks for a
home that is not there or is too long. A run on a path that leads to no source ends with a failure
and this one error, and touches no file; in the excepted cases nobody deals with the error, so that
it ends the run. -/
theorem lost_source_told (host : Host) (tree : FileTree) (path : Text) :
    let located := Source.locate host.homes tree path
    let refused := host.homes.Lacks (Path.ofText path) ∨
      ∃ source, host.homes.expand (Path.ofText path) = .ok source ∧ tree.TooLong source
    (∀ source, located = .ok source ↔ host.homes.expand (Path.ofText path) = .ok source ∧
      ∃ content, tree.find source = .ok (.file content)) ∧
    (∀ source, located = .error (.notFound source) ↔
      host.homes.expand (Path.ofText path) = .ok source ∧ ¬ tree.TooLong source ∧
        ¬ ∃ content, tree.find source = .ok (.file content)) ∧
    ((∃ error, located = .error error ∧ ∀ source, error ≠ .notFound source) ↔ refused) ∧
    ∀ arguments settings, parse arguments = .ok (.run settings) → settings.path = path →
      (∀ source, located = .error (.notFound source) → run host tree arguments =
        .ofEvents tree (.status statusFailure)
          [⟨.error, .notice (.failed (SourceError.notFound source).message)⟩]) ∧
      ((∃ error, (run host tree arguments).ending = .crash (.source error)) ↔ refused) := by
  intro located refused
  have otherwise := Source.exists_locate_eq_error_iff host.homes tree path
  refine ⟨Source.locate_eq_ok_iff host.homes tree path,
    Source.locate_eq_notFound_iff host.homes tree path, otherwise, ?_⟩
  rintro arguments settings parsed rfl
  have result : run host tree arguments = runWith host tree settings := by
    simp only [run, parsed]
  rw [result]
  constructor
  · intro source told
    have failed : Source.locate host.homes tree settings.path = .error (.notFound source) := told
    simp only [runWith, failed, Console.notices_failed]
  · simp only [runWith_crash_iff]
    exact otherwise

set_option maxRecDepth 4000 in
/-- A path into the home of a user who is not known, one with a name that is too long for the folder
it is looked for in, and one to a file that is missing. -/
theorem lost_source_told_or_crashes :
    let host : Host := ⟨⟨"/home".toList, []⟩, .plain⟩
    let tree : FileTree := ⟨[], []⟩
    let long : Text := List.replicate 256 'a'
    let missing : Path := ⟨.current, ["doc.txt".toList]⟩
    (∃ error, (run host tree ["~nobody/doc.txt".toList]).ending = .crash (.source error)) ∧
      (∃ error, Source.locate host.homes tree long = .error error ∧ ∀ source, error ≠ .notFound source) ∧
      run host tree ["doc.txt".toList] = .ofEvents tree (.status statusFailure)
        [⟨.error, .notice (.failed (SourceError.notFound missing).message)⟩] := by
  intro host tree long missing
  refine ⟨?_, ?_, ?_⟩
  · obtain ⟨_, _, _, told⟩ := lost_source_told host tree "~nobody/doc.txt".toList
    refine (told _ ⟨"~nobody/doc.txt".toList, false, [], false, [], false, false⟩ rfl rfl).2.2
      (.inl ⟨by decide, "nobody".toList, ["doc.txt".toList], by decide, ?_⟩)
    intro folder known
    cases known with
    | account _ _ listed => cases listed
  · obtain ⟨_, _, refused, _⟩ := lost_source_told host tree long
    have names : Path.ofText long = ⟨.current, [long]⟩ := by decide
    refine refused.2 (.inr ⟨⟨.current, [long]⟩, ?_, by decide, .inr ?_⟩)
    · rw [names, host.homes.expand_eq_self (by simp [long])]
    · exact ⟨[], long, [], [], rfl, by decide, rfl, rfl⟩
  · obtain ⟨_, _, _, told⟩ := lost_source_told host tree "doc.txt".toList
    exact (told _ ⟨"doc.txt".toList, false, [], false, [], false, false⟩ rfl rfl).1 missing rfl

end CommandLine

end PhraseAudit
