import GameNight.Game
import GameNight.Messages.Catalogue
import GameNight.Number.Decimal
import GameNight.Program
import GameNight.Table

namespace GameNight
namespace Catalogue

open Text Number Journal Files Messages

/-!
# Catalogues

A catalogue is a table with a game in every row.  It is read row by row, and rows that
make no game do not keep the others from being read.
-/

/-!
## Rows of a catalogue

The first record of a catalogue holds its headings, and every other record is
a row with one cell under each heading.  Columns are found by their headings,
in any order, and columns that no field is read from are passed over.  Where
a heading occurs more than once its last column counts.

A row makes a game when it has a name and every number can be read.  The
fields are read in the order of `Field.all`, and the first one that cannot be
read says why there is no game.
-/

/-- Why a row makes no game. -/
inductive RowFault where
  | missing (field : Field)
  | emptyName
  | notWhole (fault : IntegerFault) (text : List Char)
  | notANumber (text : List Char)
  deriving DecidableEq, Repr

def RowFault.message : RowFault → String
  | .missing field => "missing value for " ++ field.column
  | .emptyName => "empty name"
  | .notWhole fault text => fault.message text
  | .notANumber text => notADouble text

/-- The headings of a catalogue, without the blanks around them. -/
def headingsOf (cells : List String) : List String :=
  cells.map strip

/-- The columns that a catalogue must have and these headings lack. -/
def missingColumns (headings : List String) : List String :=
  (Field.all.map Field.column).filter fun column => !headings.contains column

/-- What stands under a heading in a row: nothing if there is no such heading
or the row is too short for it. -/
def cellUnder (column : String) : List String → List String → Option String
  | [], _ => none
  | heading :: headings, cells =>
    if headings.contains column then cellUnder column headings cells.tail
    else if heading = column then cells.head?
    else none

/-- A row: the headings and the cells. -/
structure Row where
  headings : List String
  cells : List String

namespace Row

def text (row : Row) (field : Field) : Except RowFault (List Char) :=
  match cellUnder field.column row.headings row.cells with
  | none => .error (.missing field)
  | some cell => .ok (trim cell.toList)

def name (row : Row) : Except RowFault String :=
  match row.text .name with
  | .error fault => .error fault
  | .ok chars => if chars.isEmpty then .error .emptyName else .ok (String.ofList chars)

def integer (row : Row) (field : IntegerField) : Except RowFault Int :=
  match row.text (.numeric (.integer field)) with
  | .error fault => .error fault
  | .ok chars => (readInteger chars).mapError fun fault => .notWhole fault chars

def score (row : Row) (field : ScoreField) : Except RowFault Double :=
  match row.text (.numeric (.score field)) with
  | .error fault => .error fault
  | .ok chars =>
    match readDouble? chars with
    | some value => .ok value
    | none => .error (.notANumber chars)

/-- The game that a row makes; a given object holds its scores. -/
def game (row : Row) (object : Nat) : Except RowFault Game := do
  let name ← row.name
  let id ← row.integer .id
  let rating ← row.score .rating
  let difficulty ← row.score .difficulty
  let rank ← row.integer .rank
  let minPlayers ← row.integer .minPlayers
  let maxPlayers ← row.integer .maxPlayers
  let minTime ← row.integer .minTime
  let maxTime ← row.integer .maxTime
  let year ← row.integer .year
  return {
    name, id, minPlayers, maxPlayers, minTime, maxTime,
    difficulty := ⟨difficulty, object⟩, rank, rating := ⟨rating, object⟩, year }

end Row

/-!
## The catalogue that comes with the program

The program brings a small catalogue, which is used when no other is asked
for.  It has no file that could be named, so that messages call it by
`sampleName`.
-/

/-- What messages call the catalogue that comes with the program. -/
def sampleName : String := "<sample>"

/-- The text of the catalogue that comes with the program. -/
def sampleText : String :=
  "objectname,objectid,average,avgweight,minplayers,maxplayers,minplaytime,maxplaytime,yearpublished,rank\n" ++
  "Gloomhaven,174430,8.61,3.86,1,4,60,120,2017,3\n" ++
  "Pandemic Legacy: Season 1,161936,8.52,2.83,2,4,60,60,2015,2\n" ++
  "Brass: Birmingham,224517,8.60,3.87,2,4,60,120,2018,1\n" ++
  "Terraforming Mars,167791,8.37,3.26,1,5,120,120,2016,7\n" ++
  "Twilight Imperium: Fourth Edition,233078,8.60,4.31,3,6,240,480,2017,6\n" ++
  "Spirit Island,162886,8.34,4.07,1,4,90,120,2017,12\n" ++
  "Scythe,169786,8.15,3.44,1,5,90,115,2016,21\n" ++
  "7 Wonders Duel,173346,8.09,2.22,2,2,30,30,2015,20\n" ++
  "Azul,230802,7.73,1.76,2,4,30,45,2017,64\n" ++
  "Wingspan,266192,8.04,2.47,1,5,40,70,2019,30\n" ++
  "Catan,13,7.09,2.29,3,4,60,120,1995,490\n" ++
  "Carcassonne,822,7.41,1.90,2,5,30,45,2000,226\n" ++
  "Ticket to Ride,9209,7.38,1.83,2,5,30,60,2004,246\n" ++
  "Codenames,178900,7.56,1.27,2,8,15,15,2015,134\n" ++
  "Pandemic,30549,7.58,2.39,2,4,45,45,2008,136\n" ++
  "Dominion,36218,7.59,2.35,2,4,30,30,2008,125\n" ++
  "Chess,171,7.21,3.70,2,2,60,60,1475,419\n" ++
  "Go,188,7.62,3.95,2,2,30,180,-2200,258\n" ++
  "Monopoly,1406,4.41,1.65,2,8,60,180,1935,22000\n" ++
  "The Crew: The Quest for Planet Nine,284083,7.80,2.01,2,5,20,20,2019,60\n"

/-!
## Loading a catalogue

A catalogue is loaded from a file, from the web, or from the text that comes
with the program.  Rows that make no game are reported with the number of
their last line and left out.  A catalogue without all columns is refused, and
so is one that cannot be fetched.

Some faults are not reports about the catalogue's source and are kept apart: a
table that breaks the rules of its format, a path that no file system accepts,
and a source that is not a text.
-/

/-- How long a server may take: whole seconds, or any number of them. -/
inductive Timeout where
  | whole (seconds : Int)
  | exact (seconds : Double)
  deriving DecidableEq

/-- A request to a server. -/
structure Request where
  url : String
  agent : String
  timeout : Timeout

/-- What comes of a request: an answer with its status, or a failure. -/
inductive WebReply where
  | answered (status : Int) (text : String)
  | failed (reason : String)
  deriving DecidableEq, Repr

/-- What a catalogue can be loaded from. -/
structure Surroundings where
  files : Store
  web : Request → WebReply

/-- Where a catalogue comes from. -/
inductive Source where
  | sample
  | web (url : String)
  | file (path : Path)
  deriving DecidableEq, Repr

/-- Why a catalogue could not be loaded. -/
inductive LoadingFault where
  | missingColumns (source : String) (columns : List String)
  | unreadable (source reason : String)
  | undelivered (url reason : String)
  | unexpectedStatus (url : String) (status : Int)
  | malformed (fault : Table.Fault)
  | embeddedNul
  | notAPath (kind : String)
  deriving DecidableEq, Repr

variable [Machine]

def LoadingFault.message : LoadingFault → String
  | .missingColumns source columns =>
    announce "logs.loader.missing_columns"
      [("source", .text source), ("columns", .text (joinWith ", " columns))]
  | .unreadable source reason =>
    announce "logs.loader.read_error" [("source", .text source), ("error", .text reason)]
  | .undelivered url reason =>
    announce "logs.loader.download_error" [("url", .text url), ("error", .text reason)]
  | .unexpectedStatus url status =>
    announce "logs.loader.http_status" [("url", .text url), ("status", .number status)]
  | .malformed fault => fault.message
  | .embeddedNul => embeddedNulMessage
  | .notAPath kind => notAPathMessage kind

def speaker : String := "bgplanner.games_loader"

/-- The mark that may stand at the start of a text to tell how it is encoded. -/
def isByteOrderMark (c : Char) : Bool :=
  c.toNat == 0xFEFF

def filledRecords (records : List Table.Record) : List Table.Record :=
  records.filter fun record => !record.cells.isEmpty

/-- The game that a record makes.  Its scores are objects of its own, named for the
line that the record ends on. -/
def gameOf (headings : List String) (record : Table.Record) : Except RowFault Game :=
  (Row.mk headings record.cells).game record.line

def gamesOf (headings : List String) (records : List Table.Record) : List Game :=
  (filledRecords records).filterMap fun record => (gameOf headings record).toOption

/-- The report of a record that makes no game. -/
def skipped (source : String) (line : Nat) (fault : RowFault) : Record :=
  ⟨.warning, speaker,
    announce "logs.loader.bad_row"
      [("source", .text source), ("line", .number line), ("error", .text fault.message)]⟩

/-- The reports of the records that make no game, in order. -/
def skippedRecords (source : String) (headings : List String) (records : List Table.Record) :
    List Record :=
  (filledRecords records).filterMap fun record =>
    match gameOf headings record with
    | .ok _ => none
    | .error fault => some (skipped source record.line fault)

/-- The report of a catalogue that has been loaded. -/
def loaded (source : String) (count : Nat) : Record :=
  ⟨.info, speaker,
    announce "logs.loader.loaded" [("count", .number count), ("source", .text source)]⟩

/-- The games of a table whose first record has been read as headings. -/
def ofTable (source : String) (headings : List String) (records : List Table.Record)
    (fault : Option Table.Fault) : Logged (Except LoadingFault (List Game)) :=
  let columns := missingColumns headings
  if !columns.isEmpty then .quiet (.error (.missingColumns source columns))
  else
    let reports := skippedRecords source headings records
    match fault with
    | some fault => ⟨.error (.malformed fault), reports⟩
    | none =>
      let games := gamesOf headings records
      ⟨.ok games, reports ++ [loaded source games.length]⟩

/-- The games of a catalogue's text. -/
def parse (text source : String) : Logged (Except LoadingFault (List Game)) :=
  let reading := Table.read (text.toList.dropWhile isByteOrderMark)
  match reading.records, reading.fault with
  | [], some fault => .quiet (.error (.malformed fault))
  | [], none => ofTable source [] [] none
  | header :: records, fault => ofTable source (headingsOf header.cells) records fault

/-- Whether a source is an address on the web; its letters may be of any size. -/
def isAddress (source : String) : Bool :=
  let small := lowerChars source.toList
  "http://".toList.isPrefixOf small || "https://".toList.isPrefixOf small

/-- The source that a text names.  No text names the catalogue that comes with
the program. -/
def Source.ofString (text : String) : Source :=
  if isAddress text then .web text else .file (.ofString text)

def fileText (files : Store) (path : Path) : Except LoadingFault String :=
  match files.read path with
  | .error (.refused refusal) => .error (.unreadable path.text (refusal.message path))
  | .error .embeddedNul => .error .embeddedNul
  | .ok bytes =>
    match decodeSigned (byteList bytes) with
    | .error fault => .error (.unreadable path.text fault.message)
    | .ok chars => .ok (String.ofList chars)

def webText (url : String) : WebReply → Except LoadingFault String
  | .failed reason => .error (.undelivered url reason)
  | .answered status text =>
    if status = 200 then .ok text else .error (.unexpectedStatus url status)

/-- The text of a catalogue, what messages call it, and the requests that were
made for it. -/
def fetch (surroundings : Surroundings) (timeout : Timeout) :
    Source → Except LoadingFault String × String × List Request
  | .sample => (.ok sampleText, sampleName, [])
  | .file path => (fileText surroundings.files path, path.text, [])
  | .web url =>
    let request : Request := ⟨url, programAgent, timeout⟩
    (webText url (surroundings.web request), url, [request])

/-- The outcome of loading a catalogue, and the requests that were made for it. -/
structure Loaded where
  games : Except LoadingFault (List Game)
  requests : List Request

/-- Load a catalogue. -/
def load (surroundings : Surroundings) (source : Source) (timeout : Timeout) : Logged Loaded :=
  let (text, name, requests) := fetch surroundings timeout source
  match text with
  | .error fault => .quiet ⟨.error fault, requests⟩
  | .ok text => (parse text name).andThen fun games => .quiet ⟨games, requests⟩

/-- A catalogue as it is asked for: the one that comes with the program, or
one that a setting names. -/
inductive Wish where
  | sample
  | named (setting : Json)

namespace Wish

/-- What messages call a catalogue that is asked for. -/
def display : Wish → String
  | .sample => sampleName
  | .named setting => setting.display

/-- The source of a catalogue that is asked for; of settings, only a text
names one. -/
def source : Wish → Except LoadingFault Source
  | .sample => .ok .sample
  | .named (.text name) => .ok (.ofString name)
  | .named value => .error (.notAPath value.kindWord)

end Wish

/-- Load the catalogue that is asked for. -/
def loadFor (surroundings : Surroundings) (wish : Wish) (timeout : Timeout) : Logged Loaded :=
  match wish.source with
  | .ok source => load surroundings source timeout
  | .error fault => .quiet ⟨.error fault, []⟩

end Catalogue
end GameNight
