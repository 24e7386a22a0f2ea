import GameNight.Launch

namespace GameNight
namespace CommandLine

open Files

/-!
# The command line

The outer layer of the program: it hands the arguments, the environment, the
files that are asked for and the lines of the user to the program, and carries
out what comes back.  Files are taken into the store before they are needed
and put back after each turn.  This layer has no connection to the web, so
that an address is answered with a failure.
-/

variable [Machine]

/-- Take what stands at a path into the store. -/
def takeIn (store : Store) (path : Path) : IO Store := do
  let place := (← IO.currentDir) / path.text
  if ← place.isDir then return (store.makeDirectories path).2
  try
    let bytes ← IO.FS.readBinFile place
    let prepared := (store.makeDirectories path.parent).2
    return (prepared.write path bytes).toOption.getD prepared
  catch _ => return store

/-- How a location is called outside the store. -/
def locationText (location : Location) : String :=
  let names := Text.joinWith "/" location.names
  match location.anchor with
  | .top => "/" ++ names
  | .above levels => String.join (List.replicate levels "../") ++ names

def wasHeld (before : Store) (held : Location × Entry) : Bool :=
  match before.entry? held.1, held.2 with
  | some .directory, .directory => true
  | some (.file old), .file new => old.data == new.data
  | _, _ => false

/-- Put back what has changed in the store. -/
def putBack (before after : Store) : IO Unit := do
  for held in after.entries do
    unless wasHeld before held do
      match held.2 with
      | .directory => IO.FS.createDirAll (locationText held.1)
      | .file bytes => IO.FS.writeBinFile (locationText held.1) bytes

/-- The variables of the environment that the program knows. -/
def environment : IO (List (String × String)) := do
  let names :=
    ["BGPLANNER_GAMES_SOURCE", "BGPLANNER_LIST_FILE", "BGPLANNER_LANGUAGE", "BGPLANNER_LOG_LEVEL"]
  let mut held := []
  for name in names do
    if let some value ← IO.getEnv name then held := (name, value) :: held
  return held

def print (text : String) : IO Unit := do
  let output ← IO.getStdout
  output.putStr text
  output.flush

/-- Answer the user's lines until the session ends. -/
partial def converse (journal : Journal) (desk : Console.Desk) : IO Console.Turn := do
  print Console.prompt
  let line ← (← IO.getStdin).getLine
  let turn := Console.answer desk (if line.isEmpty then none else some line)
  print turn.value.output
  IO.eprint (Launch.report journal "" turn.value.desk.files turn.records)
  putBack desk.files turn.value.desk.files
  if turn.value.ends then return turn.value else converse journal turn.value.desk

/-- Report a fault that ends the program. -/
def giveUp (message : String) : IO UInt32 := do
  IO.eprintln message
  return 1

def runConsole (opening : Launch.Opening) : IO UInt32 := do
  IO.eprint opening.errors
  print (opening.output ++ Console.printed [Console.welcome])
  let last ← converse opening.journal opening.desk
  let closing := Launch.closing ⟨last.desk, "", last.fault, ""⟩
  IO.eprint (Launch.report opening.journal "" last.desk.files closing)
  match last.fault with
  | none => return 0
  | some fault => giveUp fault.message

/-- End a program whose console was never opened. -/
def finish (ending : Ending) : IO UInt32 := do
  IO.eprint ending.errors
  print ending.output
  match ending.code with
  | .ok code => return UInt32.ofNat code
  | .error fault => giveUp fault.message

/-- The files that the program starts with: the settings file is among them,
and the catalogue joins it. -/
def withCatalogue (files : Store) (wish : Catalogue.Wish) : IO Store :=
  match wish.source with
  | .ok (.file path) => takeIn files path
  | _ => return files

/-- Run the program with its data in a directory. -/
def run (arguments : List String) (dataDirectory : Path) : IO UInt32 := do
  let files ← takeIn .empty (dataDirectory.followedBy ⟨.working, ["settings.json"]⟩)
  let settings := Settings.load files (← environment) dataDirectory none .initial
  match settings.value with
  | .error fault => giveUp fault.message
  | .ok chosen =>
    let files ← withCatalogue files (Launch.wishOf arguments chosen.choices)
    let surroundings := ⟨files, fun _ => .failed "no connection to the web"⟩
    match Launch.prepare arguments chosen settings.records surroundings with
    | .error ending => finish ending
    | .ok opening => runConsole opening

end CommandLine
end GameNight

/-- Run the program on its arguments; its data lies in the user's home. -/
def main (arguments : List String) : IO UInt32 := do
  let home := (← IO.getEnv "HOME").getD "."
  have : GameNight.Machine := .usual
  GameNight.CommandLine.run arguments (.ofString (home ++ "/.bgplanner"))
