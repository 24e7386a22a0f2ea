import GameNight.Console
import GameNight.Journal
import GameNight.Settings

namespace GameNight

open Text Number Journal Files Messages

/-!
# Launching the program

The program chooses the language of its messages, sets up its journal, loads
a catalogue, and runs the console on it.  The arguments may name a catalogue,
in place of the one from the settings, and may ask for debugging records.

A catalogue that cannot be loaded ends the program with a report and the code
one.  Records that are kept before the journal is set up reach the console in
their bare words, if they are warnings or worse.
-/

/-- Why the program ended without a code. -/
inductive LaunchFault where
  | messages (fault : Messages.LoadingFault)
  | catalogue (fault : Catalogue.LoadingFault)
  | console (fault : Console.Fault)

variable [Machine]

def LaunchFault.message : LaunchFault → String
  | .messages fault => fault.message
  | .catalogue fault => fault.message
  | .console fault => fault.message

/-- How the program ended: its code, what it printed and reported, the
requests that it made, and the files that it left. -/
structure Ending where
  code : Except LaunchFault Nat
  output : String
  errors : String
  requests : List Catalogue.Request
  files : Store

namespace Launch

/-- The argument that asks for debugging records. -/
def debugFlag : String := "--debug"

/-- The catalogue that is asked for: the first argument that is not the flag,
or the one from the settings. -/
def wishOf (arguments : List String) (choices : Choices) : Catalogue.Wish :=
  match arguments.filter fun argument => argument != debugFlag with
  | source :: _ => .named (.text source)
  | [] => choices.gamesSource

def journalLevel (arguments : List String) (choices : Choices) : Level :=
  if arguments.contains debugFlag then .debug else levelOfSetting choices.logLevel .info

/-- A record that the program itself keeps. -/
def note (level : Level) (message : String) : Record :=
  ⟨level, programSpeaker, message⟩

def starting (source : String) : List Record :=
  [note .info <|
      announce "logs.main.starting"
        [("app", .text programName), ("version", .text programVersion)],
    note .info (announce "logs.main.games_source" [("source", .text source)])]

/-- Whether a fault is a report about the catalogue, after which the program
ends in order. -/
def isReport : Catalogue.LoadingFault → Bool
  | .malformed _ => false
  | .embeddedNul => false
  | .notAPath _ => false
  | _ => true

def loadingFailed (fault : Catalogue.LoadingFault) : Record :=
  note .error (announce "logs.main.load_failed" [("error", .text fault.message)])

def finished (count : Nat) : Record :=
  note .info (announce "logs.main.finished" [("count", .number count)])

def openDesk (games : List Game) (files : Store) (choices : Choices) : Logged Console.Desk :=
  (Planner.create games).andThen fun planner =>
    .quiet ⟨planner, .empty, files, choices.listFile⟩

/-- The program with its catalogue loaded and its console ready: what it has
printed and reported so far, and the requests that it made. -/
structure Opening where
  journal : Journal
  desk : Console.Desk
  output : String
  errors : String
  requests : List Catalogue.Request

def report (journal : Journal) (errors : String) (files : Store) (records : List Record) : String :=
  (journal.emitAll ⟨errors, files⟩ records).console

/-- The console for a catalogue that has been loaded. -/
def opened (journal : Journal) (errors : String) (requests : List Catalogue.Request)
    (games : List Game) (files : Store) (choices : Choices) : Opening :=
  let desk := openDesk games files choices
  let count := desk.value.planner.games.length
  { journal
    desk := desk.value
    output := Console.printed [announce "cli.loaded" [("count", .number count)]]
    errors := report journal errors files desk.records
    requests }

/-- The end of a program whose catalogue could not be loaded. -/
def unopened (journal : Journal) (errors : String) (requests : List Catalogue.Request)
    (files : Store) (fault : Catalogue.LoadingFault) : Ending :=
  if isReport fault then
    { code := .ok 1
      output := ""
      errors :=
        report journal errors files [loadingFailed fault] ++
          Console.printed [announce "cli.load_error" [("error", .text fault.message)]]
      requests
      files }
  else ⟨.error (.catalogue fault), "", errors, requests, files⟩

/-- Load the catalogue, with a journal that has been set up. -/
def openWith (journal : Journal) (errors : String) (arguments : List String) (choices : Choices)
    (surroundings : Catalogue.Surroundings) : Except Ending Opening :=
  let files := surroundings.files
  let wish := wishOf arguments choices
  let loaded := Catalogue.loadFor surroundings wish choices.timeout
  let errors := report journal errors files (starting wish.display ++ loaded.records)
  match loaded.value.games with
  | .error fault => .error (unopened journal errors loaded.value.requests files fault)
  | .ok games => .ok (opened journal errors loaded.value.requests games files choices)

/-- Choose the language, set the journal up, and load the catalogue.  The
records are those that were kept when the settings were chosen. -/
def prepare (arguments : List String) (settings : Settings) (records : List Record)
    (surroundings : Catalogue.Surroundings) : Except Ending Opening :=
  let files := surroundings.files
  let choices := settings.choices
  let language := Messages.chooseFor choices.language
  let bare : Journal := {}
  let errors := report bare "" files (records ++ language.records)
  match language.value with
  | .error fault => .error ⟨.error (.messages fault), "", errors, [], files⟩
  | .ok _ =>
    let journal := (bare.setUp (journalLevel arguments choices) none files).2.1
    openWith journal errors arguments choices surroundings

/-- The records with which the program finishes, unless it ends with a fault. -/
def closing (visit : Console.Visit) : List Record :=
  match visit.fault with
  | none => [finished visit.desk.shortlist.count]
  | some _ => []

/-- The end of a program whose console was run. -/
def Opening.close (opening : Opening) (visited : Logged Console.Visit) : Ending :=
  let visit := visited.value
  { code :=
      match visit.fault with
      | none => .ok 0
      | some fault => .error (.console fault)
    output := opening.output ++ visit.output
    errors :=
      report opening.journal opening.errors visit.desk.files (visited.records ++ closing visit)
    requests := opening.requests
    files := visit.desk.files }

end Launch

/-- Run the program on its arguments and its input. -/
def launch (arguments : List String) (settings : Settings) (records : List Record)
    (surroundings : Catalogue.Surroundings) (input : String) : Ending :=
  match Launch.prepare arguments settings records surroundings with
  | .error ending => ending
  | .ok opening => opening.close (Console.run opening.desk input)

end GameNight
