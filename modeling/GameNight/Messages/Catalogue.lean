import GameNight.Files
import GameNight.Json
import GameNight.Messages.Template
import GameNight.Program
import GameNight.Text.Line

namespace GameNight

open Text Journal Files

/-!
# Messages of a locale

The messages of a locale are merged from several message files.
-/

namespace Messages

/-!
## Merging message trees

Messages are kept in JSON objects.  Laying one object over another keeps the
members of both; where both have a member of one name, objects are merged
again and anything else is replaced.  The order of the members is that of the
lower object, followed by what the upper one adds.

`valueAt?` is the view of a tree: the value that a path of names leads to.
-/

mutual

def overlay (lower : Option Json) : Json → Json
  | .object upper =>
    match lower with
    | some (.object members) => .object (merge members upper)
    | _ => .object upper
  | value => value

def merge (lower : Json.Members) : List (String × Json) → Json.Members
  | [] => lower
  | (name, value) :: rest =>
    merge (Json.putMember lower name (overlay (Json.member? lower name) value)) rest

end

def valueAt? (members : Json.Members) : List String → Option Json
  | [] => some (.object members)
  | name :: rest =>
    match Json.member? members name with
    | none => none
    | some value =>
      match rest, value with
      | [], _ => some value
      | _ :: _, .object inside => valueAt? inside rest
      | _ :: _, _ => none

/-- Nothing laid over an object changes nothing. -/
@[simp] theorem merge_nil (lower : Json.Members) : merge lower [] = lower := by
  simp [merge]

end Messages

/-!
## Message catalogues

A catalogue is a directory with message files.  The files at its top are
shared, and each locale has a directory of its own.  A locale's messages are
laid over the English ones, and these over the shared ones, so that a message
missing from the locale is given in English.

A file that cannot be opened or is no JSON text is reported and left out.  A
file that is not UTF-8, goes beyond what can be read, or holds something else
than an object stops the loading, and so does a locale whose name is not a
text.
-/

/-- The messages of one locale. -/
structure Messages where
  tree : Json.Members

namespace Messages

/-- Why loading stopped. -/
inductive LoadingFault where
  | notUtf8 (fault : Utf8Fault)
  | tooManyDigits (digits : Nat)
  | tooDeep (container : Json.Container)
  | notAnObject (kind : String)
  | refused (refusal : Refusal) (path : Path)
  | notAName (kind : String)

def LoadingFault.message : LoadingFault → String
  | .notUtf8 fault => fault.message
  | .tooManyDigits digits => (Number.IntegerFault.tooLong digits).message []
  | .tooDeep container => container.tooDeepMessage
  | .notAnObject kind => "'" ++ kind ++ "' object has no attribute 'items'"
  | .refused refusal path => refusal.message path
  | .notAName kind => "unsupported operand type(s) for /: 'PosixPath' and '" ++ kind ++ "'"

def speaker : String := "bgplanner.i18n"

/-- The locale that stands behind all others. -/
def english : String := "en"

def byteList (bytes : ByteArray) : List Nat :=
  bytes.toList.map UInt8.toNat

def isMessageFile (name : String) : Bool :=
  ".json".toList.isSuffixOf name.toList

def leftOut (name wording : String) : Logged (Except LoadingFault Json.Members) :=
  ⟨.ok [], [⟨.error, speaker, "Error loading i18n file " ++ name ++ ": " ++ wording⟩]⟩

variable [Machine]

/-- The members that a message file holds.  A file that is left out has none. -/
def readFile (store : Store) (directory : Path) (name : String) :
    Logged (Except LoadingFault Json.Members) :=
  let path : Path := { directory with parts := directory.parts ++ [name] }
  match store.read path with
  | .error (.refused refusal) => leftOut name (refusal.message path)
  | .error .embeddedNul => leftOut name embeddedNulMessage
  | .ok bytes =>
    match decode (byteList bytes) with
    | .error fault => .quiet (.error (.notUtf8 fault))
    | .ok decoded =>
      let chars := foldNewlines decoded
      match Json.read chars with
      | .error (.syntaxAt fault position) => leftOut name (fault.messageAt position chars)
      | .error (.tooManyDigits digits) => .quiet (.error (.tooManyDigits digits))
      | .error (.tooDeep container) => .quiet (.error (.tooDeep container))
      | .ok (.object members) => .quiet (.ok members)
      | .ok value => .quiet (.error (.notAnObject value.kindWord))

def readFiles (store : Store) (directory : Path) (tree : Json.Members) :
    List String → Logged (Except LoadingFault Json.Members)
  | [] => .quiet (.ok tree)
  | name :: rest =>
    (readFile store directory name).andThen fun
      | .error fault => .quiet (.error fault)
      | .ok members => readFiles store directory (merge tree members) rest

def messageFiles (store : Store) (directory : Path) : List String :=
  match store.locate directory with
  | .error _ => []
  | .ok location =>
    ((store.namesIn location).filter isMessageFile).mergeSort fun a b => decide (a ≤ b)

/-- The messages of a directory; a directory that is missing has none. -/
def readDirectory (store : Store) (directory : Path) : Logged (Except LoadingFault Json.Members) :=
  match store.isDirectory directory with
  | .error refusal => .quiet (.error (.refused refusal directory))
  | .ok false => .quiet (.ok [])
  | .ok true => readFiles store directory [] (messageFiles store directory)

def localeDirectory (root : Path) (locale : String) : Path :=
  root.followedBy (.ofString locale)

/-- The report of a locale without a directory. -/
def missingLocale (locale : String) : Record :=
  ⟨.warning, speaker, "No catalogue for locale " ++ quoted locale ++ ", using English"⟩

/-- The shared messages with the English ones laid over them. -/
def loadEnglish (store : Store) (root : Path) : Logged (Except LoadingFault Json.Members) :=
  (readDirectory store root).andThen fun
    | .error fault => .quiet (.error fault)
    | .ok shared =>
      (readDirectory store (localeDirectory root english)).andThen fun
        | .error fault => .quiet (.error fault)
        | .ok members => .quiet (.ok (merge shared members))

/-- The messages of a locale, over the English ones. -/
def load (store : Store) (root : Path) (locale : String) : Logged (Except LoadingFault Messages) :=
  (loadEnglish store root).andThen fun
    | .error fault => .quiet (.error fault)
    | .ok fallback =>
      if locale = english then .quiet (.ok ⟨fallback⟩)
      else
        let directory := localeDirectory root locale
        match store.isDirectory directory with
        | .error refusal => .quiet (.error (.refused refusal directory))
        | .ok found =>
          (⟨(), if found then [] else [missingLocale locale]⟩ : Logged Unit).andThen fun _ =>
            (readDirectory store directory).andThen fun
              | .error fault => .quiet (.error fault)
              | .ok members => .quiet (.ok ⟨merge fallback members⟩)

/-- The messages of the locale that a setting names; only a text names one. -/
def loadFor (store : Store) (root : Path) (locale : Json) :
    Logged (Except LoadingFault Messages) :=
  match locale with
  | .text name => load store root name
  | value =>
    (loadEnglish store root).andThen fun
      | .error fault => .quiet (.error fault)
      | .ok _ => .quiet (.error (.notAName value.kindWord))

/-- The names that a key written with points leads through. -/
def keyPath (key : String) : List String :=
  (splitOn '.' key.toList).map String.ofList

def template? (messages : Messages) (key : String) : Option String :=
  match valueAt? messages.tree (keyPath key) with
  | some (.text template) => some template
  | _ => none

/-- The names that arguments cannot have, since the one who asks for a message
is told these himself. -/
def takenNames : List String := ["key", "self"]

def takenName? (arguments : Arguments) : Option String :=
  takenNames.find? fun name => arguments.any fun argument => argument.1 == name

/-- The message under a key, filled with arguments.  A key without a message
is shown between square brackets, and without arguments a template stands for
itself. -/
def say (messages : Messages) (key : String) (arguments : Arguments) :
    Except FillFault String :=
  match takenName? arguments, messages.template? key with
  | some name, _ => .error (.nameTaken "I18n.t" name)
  | none, none => .ok ("[" ++ key ++ "]")
  | none, some template =>
    if arguments.isEmpty then .ok template else fillOrKeep template arguments

/-!
## The messages that come with the program

The program brings shared messages for its journal and English ones for its
console.  No other locale comes with it, so that every locale that is asked
for reads English; one that leads to a directory of the program is not
reported as missing.
-/

def journalMessages : Json.Members :=
  [
   ("logs", .object [
     ("loader", .object [
       ("loaded", .text "Loaded \x7bcount\x7d games from \x7bsource\x7d"),
       ("bad_row", .text "Skipping row \x7bline\x7d of \x7bsource\x7d: \x7berror\x7d"),
       ("missing_columns", .text "\x7bsource\x7d is missing required columns: \x7bcolumns\x7d"),
       ("read_error", .text "Could not read \x7bsource\x7d: \x7berror\x7d"),
       ("download_error", .text "Could not download \x7burl\x7d: \x7berror\x7d"),
       ("http_status", .text "Unexpected HTTP status \x7bstatus\x7d for \x7burl\x7d")]),
     ("main", .object [
       ("starting", .text "Starting \x7bapp\x7d \x7bversion\x7d"),
       ("games_source", .text "Loading catalogue from \x7bsource\x7d"),
       ("load_failed", .text "Catalogue could not be loaded: \x7berror\x7d"),
       ("finished", .text "Session finished with \x7bcount\x7d games in the list")]),
     ("console", .object [
       ("command", .text "Command \x7bcommand!r\x7d with args \x7bargs!r\x7d"),
       ("selection_error", .text "Selection \x7bselection!r\x7d rejected: \x7berror\x7d"),
       ("save_error", .text "Saving to \x7bpath\x7d failed: \x7berror\x7d")])])
  ]

def consoleMessages : Json.Members :=
  [
   ("cli", .object [
     ("welcome", .text "Welcome to \x7bapp\x7d \x7bversion\x7d. Type 'help' for a list of commands."),
     ("prompt", .text "> "),
     ("goodbye", .text "Goodbye!"),
     ("invalid_command", .text "Unknown command: \x7bcommand\x7d. Type 'help' for a list of commands."),
     ("load_error", .text "Could not load games: \x7berror\x7d"),
     ("loaded", .text "Loaded \x7bcount\x7d games."),
     ("invalid_selection", .text "Invalid selection: \x7berror\x7d"),
     ("help", .object [
       ("general", .text (
           "Commands:\n" ++
           "  filter [expression] [sort <field> [asc|desc]]  narrow the games " ++
           "(cumulative)\n" ++
           "  sort <field> [asc|desc]                        sort the current games\n" ++
           "  list                                           show your game list\n" ++
           "  add <selection>                                add games to your list\n" ++
           "  remove <selection>                             remove games from your list\n" ++
           "  clear                                          empty your game list\n" ++
           "  save [file]                                    save your game list\n" ++
           "  help [command]                                 show help\n" ++
           "  exit                                           quit")),
       ("filter", .text (
           "filter <expression> [sort <field> [asc|desc]]\n" ++
           "  Expressions are comma-separated clauses: <field><operator><value>.\n" ++
           "  Operators: == != > < >= <= ~= (contains, name only).\n" ++
           "  Fields: \x7bfields\x7d\n" ++
           "  Filters stack until you type 'filter' on its own, which shows every game " ++
           "again.\n" ++
           "  Example: filter minPlayers>=2, name~=pandemic sort rating desc")),
       ("sort", .text (
           "sort <field> [asc|desc]\n" ++
           "  Sorts the current games without changing the filters.\n" ++
           "  Fields: \x7bfields\x7d")),
       ("list", .text "list\n  Shows the games in your list, numbered alphabetically."),
       ("add", .text (
           "add <selection>\n" ++
           "  Adds games from the current filter result.\n" ++
           "  Numbers are the ones shown by filter and sort (alphabetical position).\n" ++
           "  Selection: all, a number (3), a range (2-5) or a game name.")),
       ("remove", .text (
           "remove <selection>\n" ++
           "  Removes games from your list.\n" ++
           "  Selection: all, a number (3), a range (2-5) or a game name.")),
       ("clear", .text "clear\n  Removes every game from your list."),
       ("save", .text (
           "save [file]\n" ++
           "  Writes your list to a file, one name per line. Default: \x7bdefault\x7d")),
       ("help", .text "help [command]\n  Shows general help or help for one command."),
       ("exit", .text "exit\n  Leaves the planner.")]),
     ("filter", .object [
       ("reset", .text "Filters cleared."),
       ("no_results", .text "No games match the current filters."),
       ("count", .text "\x7bcount\x7d games:"),
       ("invalid_sort", .text "Unknown sort field: \x7bfield\x7d. Fields: \x7bfields\x7d")]),
     ("list", .object [
       ("empty", .text "Your game list is empty."),
       ("header", .text "Your game list (\x7bcount\x7d games):")]),
     ("add", .object [
       ("usage", .text "Usage: add <selection>"),
       ("done", .text "Your game list now has \x7bcount\x7d games.")]),
     ("remove", .object [
       ("usage", .text "Usage: remove <selection>"),
       ("done", .text "Your game list now has \x7bcount\x7d games.")]),
     ("clear", .object [
       ("done", .text "Your game list is now empty.")]),
     ("save", .object [
       ("done", .text "Saved \x7bcount\x7d games to \x7bpath\x7d."),
       ("error", .text "Could not save your game list: \x7berror\x7d")])])
  ]

def bundled : Messages :=
  ⟨merge journalMessages consoleMessages⟩

/-- The directory of the program's own catalogue. -/
def bundledRoot : Path := ⟨.working, ["bgplanner", "resources", "i18n"]⟩

def moduleDirectories : List Path :=
  ["core", "services", "ui", "utils"].map fun name => ⟨.working, ["bgplanner", name]⟩

def testDirectories : List Path :=
  ["core", "services", "ui", "utils"].map fun name => ⟨.working, ["tests", "unit", "test_" ++ name]⟩

/-- The directories that the program comes in. -/
def bundledDirectories : List Path :=
  localeDirectory bundledRoot english :: moduleDirectories ++ testDirectories

/-- The directories of the program as a store. -/
def bundledStore : Store :=
  bundledDirectories.foldl
    (fun store path =>
      (Store.makeDirectoriesFrom path.root store (path.parts.length + 1) path.parts.reverse).2)
    .empty

/-- Choose a locale for the program's own messages.  Any locale reads the same
messages; one without a directory is reported. -/
def choose (locale : String) : Journal.Logged (Except LoadingFault Messages) :=
  if locale = english then .quiet (.ok bundled)
  else
    let directory := localeDirectory bundledRoot locale
    match bundledStore.isDirectory directory with
    | .error refusal => .quiet (.error (.refused refusal directory))
    | .ok found => ⟨.ok bundled, if found then [] else [missingLocale locale]⟩

/-- Choose the locale that a setting names; only a text names one. -/
def chooseFor (locale : Json) : Journal.Logged (Except LoadingFault Messages) :=
  match locale with
  | .text name => choose name
  | value => .quiet (.error (.notAName value.kindWord))

def ask (messages : Messages) (key : String) (arguments : Arguments) : Except FillFault String :=
  if takenName? arguments = some "key" then .error (.nameTaken "t" "key")
  else messages.say key arguments

/-- A message of the program.  Its own templates suit the arguments that they
are used with; the wording of a fault would stand in for the message. -/
def announce (key : String) (arguments : Arguments) : String :=
  match bundled.say key arguments with
  | .ok message => message
  | .error fault => fault.message

end Messages

end GameNight
