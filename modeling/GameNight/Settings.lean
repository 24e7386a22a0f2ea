import GameNight.Catalogue
import GameNight.Json
import GameNight.Program
import GameNight.Text.Line

namespace GameNight

open Text Number Journal Files

/-!
# Settings

Settings are chosen in three steps: values that are given at the start, a
settings file in JSON, and variables of the environment.  Each step overrides
the one before it.  A value from the settings file is kept as the JSON value
that it is.

A settings file that is missing changes nothing.  One that cannot be opened,
is no JSON text or holds something else than an object is reported and changes
nothing.  A time limit that is no number is reported, and the limit stays as
it was.  Reading settings fails where the file is not UTF-8, where it holds a
whole number with too many digits or lists and objects too deep inside one
another, and where its time limit is too large.
-/

/-- The values that can be chosen. -/
structure Choices where
  gamesSource : Catalogue.Wish
  listFile : Json
  language : Json
  logLevel : Json
  timeout : Catalogue.Timeout

/-- The values before anything has been chosen. -/
def Choices.initial : Choices where
  gamesSource := .named (.text "")
  listFile := .text "games_list.txt"
  language := .text "en"
  logLevel := .text "INFO"
  timeout := .exact (.nearest false 10 1)

/-- Settings: the directory of the program's data, the settings file, and the
values that were chosen. -/
structure Settings where
  dataDirectory : Path
  settingsFile : Path
  choices : Choices

/-- Why settings could not be read. -/
inductive SettingsFault where
  | notUtf8 (fault : Utf8Fault)
  | tooManyDigits (digits : Nat)
  | tooDeep (container : Json.Container)
  | timeoutTooLarge (fault : TooLarge)
  | refused (refusal : Refusal) (path : Path)

def SettingsFault.message : SettingsFault → String
  | .notUtf8 fault => fault.message
  | .tooManyDigits digits => (IntegerFault.tooLong digits).message []
  | .tooDeep container => container.tooDeepMessage
  | .timeoutTooLarge fault => fault.message
  | .refused refusal path => refusal.message path

/-- Why a value is no time limit. -/
inductive TimeoutFault where
  | notANumber
  | tooLarge (fault : TooLarge)
  deriving DecidableEq, Repr

def wholeTimeout (seconds : Int) : Except TimeoutFault Double :=
  (Double.ofInteger? seconds).elim (.error (.tooLarge .forDouble)) .ok

def timeoutOf : Json → Except TimeoutFault Double
  | .integer seconds => wholeTimeout seconds
  | .bool value => wholeTimeout (if value then 1 else 0)
  | .double seconds => .ok seconds
  | .text text =>
    match readDouble? text.toList with
    | some seconds => .ok seconds
    | none => .error .notANumber
  | _ => .error .notANumber

/-- The level that a setting names; a number is a level itself. -/
def levelOfSetting (setting : Json) (fallback : Level) : Level :=
  match setting with
  | .integer level => level
  | .bool value => if value then 1 else 0
  | value => levelOfName value.display fallback

namespace Catalogue
namespace Timeout

def toDouble : Timeout → Except TimeoutFault Double
  | .whole seconds => wholeTimeout seconds
  | .exact seconds => .ok seconds

/-- A time limit as it is shown in records. -/
def text : Timeout → String
  | .whole seconds => integerText seconds
  | .exact seconds => shortestText seconds

end Timeout
end Catalogue

namespace Settings

def speaker : String := "bgplanner.config"

/-- The report of a settings file that changes nothing. -/
def unusable (message : String) : Logged (Except SettingsFault (Option Json.Members)) :=
  ⟨.ok none, [⟨.error, speaker, message⟩]⟩

def notLoaded (path : Path) (reason : String) : String :=
  "Could not load settings from " ++ path.text ++ ": " ++ reason

variable [Machine]

def membersOf (path : Path) (chars : List Char) :
    Logged (Except SettingsFault (Option Json.Members)) :=
  match Json.read chars with
  | .ok (.object members) => .quiet (.ok (some members))
  | .ok _ => unusable ("Ignoring settings file " ++ path.text ++ ": expected a JSON object")
  | .error (.syntaxAt fault position) =>
    unusable (notLoaded path (fault.messageAt position chars))
  | .error (.tooManyDigits digits) => .quiet (.error (.tooManyDigits digits))
  | .error (.tooDeep container) => .quiet (.error (.tooDeep container))

def readFile (files : Store) (path : Path) : Logged (Except SettingsFault (Option Json.Members)) :=
  match files.status path with
  | .error refusal => .quiet (.error (.refused refusal path))
  | .ok none => .quiet (.ok none)
  | .ok (some _) =>
    match files.read path with
    | .error (.refused refusal) => unusable (notLoaded path (refusal.message path))
    | .error .embeddedNul => unusable (notLoaded path embeddedNulMessage)
    | .ok bytes =>
      match decode (Messages.byteList bytes) with
      | .error fault => .quiet (.error (.notUtf8 fault))
      | .ok chars => membersOf path (foldNewlines chars)

def chosenTimeout (members : Json.Members) (timeout : Catalogue.Timeout) :
    Except TimeoutFault Double :=
  match Json.member? members "http_timeout" with
  | some value => timeoutOf value
  | none => timeout.toDouble

/-- Let the members of a settings file override what has been chosen. -/
def applyMembers (path : Path) (members : Json.Members) (choices : Choices) :
    Logged (Except SettingsFault Choices) :=
  let source := (Json.member? members "games_source").getD .null
  let chosen : Choices :=
    { choices with
      gamesSource := if source.isGiven then .named source else choices.gamesSource
      listFile := (Json.member? members "list_file").getD choices.listFile
      language := (Json.member? members "ui_language").getD choices.language
      logLevel := (Json.member? members "log_level").getD choices.logLevel }
  match chosenTimeout members choices.timeout with
  | .ok seconds => .quiet (.ok { chosen with timeout := .exact seconds })
  | .error (.tooLarge fault) => .quiet (.error (.timeoutTooLarge fault))
  | .error .notANumber =>
    ⟨.ok chosen,
      [⟨.warning, speaker,
        "Invalid http_timeout in " ++ path.text ++ ", keeping " ++ choices.timeout.text⟩]⟩

def environmentValue? (environment : List (String × String)) (name : String) : Option Json :=
  match environment.lookup name with
  | some value => if value.isEmpty then none else some (.text value)
  | none => none

/-- Let the environment override what has been chosen. -/
def applyEnvironment (environment : List (String × String)) (choices : Choices) : Choices :=
  { choices with
    gamesSource :=
      ((environmentValue? environment "BGPLANNER_GAMES_SOURCE").map .named).getD choices.gamesSource
    listFile := (environmentValue? environment "BGPLANNER_LIST_FILE").getD choices.listFile
    language := (environmentValue? environment "BGPLANNER_LANGUAGE").getD choices.language
    logLevel := (environmentValue? environment "BGPLANNER_LOG_LEVEL").getD choices.logLevel }

/-- The choices with the catalogue that comes with the program, if no other
one is given. -/
def withSample (choices : Choices) : Choices :=
  match choices.gamesSource with
  | .sample => choices
  | .named setting => if setting.isGiven then choices else { choices with gamesSource := .sample }

/-- Choose settings: from given values, the settings file and the environment.
Unless another one is named, the settings file lies in the data directory. -/
def load (files : Store) (environment : List (String × String)) (dataDirectory : Path)
    (settingsFile : Option Path) (given : Choices) : Logged (Except SettingsFault Settings) :=
  let path := settingsFile.getD (dataDirectory.followedBy ⟨.working, ["settings.json"]⟩)
  let chosen := withSample given
  let finish (choices : Choices) : Settings :=
    ⟨dataDirectory, path, applyEnvironment environment choices⟩
  (readFile files path).andThen fun
    | .error fault => .quiet (.error fault)
    | .ok none => .quiet (.ok (finish chosen))
    | .ok (some members) =>
      (applyMembers path members chosen).andThen fun applied => .quiet (applied.map finish)

end Settings
end GameNight
