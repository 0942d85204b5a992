import PhraseAudit.CommandLine.Run

/-!
# The program

The outermost layer: it takes a picture of the files that a run can touch, runs the command line on
the picture, carries out what changed in it, and prints what the run put on its streams.
-/

namespace PhraseAudit.Program

/-- The places that are passed on the way along some names. -/
def placesAlong (place : Place) : List Text → List Place
  | [] => [place]
  | name :: names =>
    place :: placesAlong (if name = parentName then place.dropLast else place ++ [name]) names

/-- The paths that a run with the given arguments can touch. -/
def touchedPaths (homes : Homes) (arguments : List Text) : List Path :=
  match CommandLine.parse arguments with
  | .ok (.run settings) =>
    let source := (homes.expand (Path.ofText settings.path)).toOption.toList
    let target := Path.ofText settings.output
    let temporary := target.name?.toList.map (Report.temporaryPath target)
    source ++ target :: temporary
  | .ok .help | .error _ => []

/-- How a place is written for the system. -/
def location (place : Place) : String :=
  String.ofList ('/' :: ['/'].intercalate place)

/-- What the system has at a place. -/
def entryAt (place : Place) : IO (Option Entry) := do
  try
    let content ← IO.FS.readBinFile (location place)
    return some (.file content.toList)
  catch
    | .inappropriateType .. => return some .folder
    | _ => return none

/-- A picture of the files that the given paths lead along. -/
def snapshot (current : Place) (paths : List Path) : IO FileTree := do
  let places := paths.flatMap fun path =>
    placesAlong (FileTree.startOf ⟨[], current⟩ path) path.names
  let mut tree : FileTree := ⟨[], current⟩
  for place in places.eraseDups do
    if let some entry ← entryAt place then
      tree := tree.insert place entry
  return tree

/-- Carries out what changed from one picture to the next: files that are gone first, then new
folders from the root on and new files, each file by way of a temporary one. -/
def carryOut (before after : FileTree) : IO Unit := do
  for (place, _) in before.entries do
    if (after.get? place).isNone then
      IO.FS.removeFile (location place)
  for (place, entry) in after.entries.reverse do
    if before.get? place ≠ some entry then
      match entry with
      | .folder => IO.FS.createDir (location place)
      | .file content =>
        let temporary := location place ++ ".tmp"
        IO.FS.writeBinFile temporary (ByteArray.mk content.toArray)
        IO.FS.rename temporary (location place)

/-- How an output is printed. -/
def textOf : Output → String
  | .notice notice => notice.level.tag ++ " " ++ notice.message ++ "\n"
  | .line text => text ++ "\n"
  | .json text => String.ofList text
  | .table rows =>
    let header := "\t".intercalate (Report.tableColumns.map (·.header))
    let lines := rows.map fun row =>
      "\t".intercalate ([row.phrase, row.lines, row.hits].map String.ofList)
    "\n".intercalate (Report.tableTitle :: header :: lines) ++ "\n"

/-- Prints an event on its stream. -/
def printEvent (event : Event) : IO Unit :=
  match event.stream with
  | .standard => IO.print (textOf event.output)
  | .error => IO.eprint (textOf event.output)

/-- Ends a run: the status, or the message of an error that no part of the run dealt with. -/
def conclude : CommandLine.Ending → IO UInt32
  | .status code => return code.toUInt32
  | .crash error => do
    IO.eprintln error.message
    return 1

end PhraseAudit.Program

open PhraseAudit PhraseAudit.Program in
/-- Runs the program on its arguments. -/
def main (arguments : List String) : IO UInt32 := do
  let texts := arguments.map String.toList
  let homes : Homes := ⟨((← IO.getEnv "HOME").getD "/").toList, []⟩
  let current := (Path.ofText (← IO.currentDir).toString.toList).names
  let before ← snapshot current (touchedPaths homes texts)
  let run := CommandLine.run ⟨homes, .plain⟩ before texts
  carryOut before run.tree
  IO.print run.usageOutput
  IO.eprint run.usageError
  for event in run.events do
    printEvent event
  conclude run.ending
