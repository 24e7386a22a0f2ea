import GameNight.Messages.Catalogue
import GameNight.Planner
import GameNight.Program
import GameNight.Shortlist
import GameNight.Text.Character
import GameNight.Text.Line

namespace GameNight
namespace Console

open Text Number Journal Files Messages

/-!
# The console

The console answers the lines of a user: it filters, sorts and lists games, keeps a
shortlist and saves it.
-/

/-!
## Sort clauses

The arguments of a filter may end with a sort clause: the word `sort`, the
name of a field, and a direction that may be left out.  The clause is found
from the end, and the longer form goes first: if the third word from the end
is `sort` and the last one is a direction, that is the clause; otherwise it
starts at the second word from the end, if that is `sort`.

These words are read in letters of any size, and a long `ſ` counts as an `s`.
The order is downwards only when the small form of the direction is `desc`.
-/

def readsAs (letter c : Char) : Bool :=
  c.toLower == letter || (letter == 's' && c.toNat == 0x17F)

def isKeyword : List Char → List Char → Bool
  | [], [] => true
  | letter :: keyword, c :: word => readsAs letter c && isKeyword keyword word
  | _, _ => false

/-- The keyword of a sort clause. -/
def sortWord : List Char := ['s', 'o', 'r', 't']

/-- The direction that is followed unless another one is given. -/
def upWord : List Char := ['a', 's', 'c']

/-- The direction that turns the order around. -/
def downWord : List Char := ['d', 'e', 's', 'c']

def isDirection (word : List Char) : Bool :=
  isKeyword upWord word || isKeyword downWord word

/-- What a sort clause leaves of the arguments, the name of the field if there
is a clause, and whether the order goes upwards. -/
structure SortClause where
  expression : String
  field : Option String
  ascending : Bool
  deriving DecidableEq, Repr

namespace SortClause

def behind (expression field : List Char) (ascending : Bool) : SortClause :=
  ⟨String.ofList (trim expression), some (String.ofList field), ascending⟩

/-- The clause that is the last three words of a text. -/
def withDirection? (chars : List Char) : Option SortClause :=
  match lastWord? chars with
  | none => none
  | some (before, direction) =>
    match lastWord? before with
    | none => none
    | some (before, field) =>
      match lastWord? before with
      | none => none
      | some (before, word) =>
        if isKeyword sortWord word && isDirection direction then
          some (behind before field (lowerChars direction != downWord))
        else none

/-- The clause that is the last two words of a text. -/
def withoutDirection? (chars : List Char) : Option SortClause :=
  match lastWord? chars with
  | none => none
  | some (before, field) =>
    match lastWord? before with
    | none => none
    | some (before, word) =>
      if isKeyword sortWord word then some (behind before field true) else none

/-- The arguments of a filter, divided into an expression and a sort clause. -/
def parse (arguments : String) : SortClause :=
  let chars := arguments.toList
  ((withDirection? chars).or (withoutDirection? chars)).getD
    ⟨String.ofList (trim chars), none, true⟩

end SortClause

/-!
## Commands of the console

The console works on a desk: a planner, a shortlist, and the files that lists
are saved to.  A line is a command word and its arguments, and what comes of
it is a turn: the desk after it, what was printed, and whether the session
goes on.

Mistakes of the user are answered in words.  A turn ends with a fault only
where a number is too large, or too long to be read or written, and where a
list cannot be saved for another reason than that its file was refused; what
was printed before that stays printed.
-/

/-- What the console works on.  Lists go to `listFile`, as the settings give
it, unless another file is named. -/
structure Desk where
  planner : Planner
  shortlist : Shortlist
  files : Store
  listFile : Json

/-- Why a command could not be answered. -/
inductive Fault where
  | tooLarge (fault : TooLarge)
  | writing (fault : WritingFault)
  | tooManyDigits (digits : Nat)
  | notSaved (fault : SavingFault)
  deriving DecidableEq, Repr

def Fault.message : Fault → String
  | .tooLarge fault => fault.message
  | .writing fault => fault.message
  | .tooManyDigits digits => (SelectionFault.tooManyDigits digits).message
  | .notSaved fault => fault.message

/-- What comes of a line. -/
structure Turn where
  desk : Desk
  output : String
  fault : Option Fault
  leaves : Bool

/-- The commands of the console. -/
inductive Command where
  | help
  | filter
  | sort
  | list
  | add
  | remove
  | clear
  | save
  | exit
  deriving DecidableEq, Repr

def commandWords : List (String × Command) :=
  [("help", .help), ("?", .help), ("filter", .filter), ("sort", .sort), ("list", .list),
   ("add", .add), ("remove", .remove), ("clear", .clear), ("save", .save), ("exit", .exit)]

def Command.ofWord? (word : String) : Option Command :=
  commandWords.lookup word

def speaker : String := "bgplanner.console"

/-- The tokens of all fields, as they are listed to the user. -/
def fieldTokens : String :=
  joinWith ", " (Field.all.map Field.token)

def printed (lines : List String) : String :=
  String.join (lines.map fun line => line ++ "\n")

variable [Machine]

namespace Desk

def say (desk : Desk) (line : String) : Turn :=
  ⟨desk, printed [line], none, false⟩

def fail (desk : Desk) (fault : Fault) : Turn :=
  ⟨desk, "", some fault, false⟩

/-! ### Help -/

/-- The help on a topic, which is a command; without a topic, the help on all
of them. -/
def helpText (desk : Desk) (topic : String) : String :=
  if topic ∈ ["filter", "sort"] then
    announce ("cli.help." ++ topic) [("fields", .text fieldTokens)]
  else if topic = "save" then announce "cli.help.save" [("default", .text desk.listFile.display)]
  else if topic ∈ ["list", "add", "remove", "clear", "help", "exit"] then
    announce ("cli.help." ++ topic) []
  else announce "cli.help.general" []

def help (desk : Desk) (arguments : String) : Logged Turn :=
  .quiet (desk.say (desk.helpText (lower arguments)))

/-! ### Listing games -/

/-- The number of a game in a list, counted from one. -/
def numberOf (numbered : List Game) (game : Game) : Nat :=
  numbered.findIdx (fun other => other.same game) + 1

/-- The rows of a listing: each game with its number and the value of a field,
as far as the values can be written. -/
def rows (numbered : List Game) (field : Field) : List Game → List String × Option WritingFault
  | [] => ([], none)
  | game :: rest =>
    match game.display field with
    | .error fault => ([], some fault)
    | .ok text =>
      let others := rows numbered field rest
      ((naturalText (numberOf numbered game) ++ ": " ++ text) :: others.1, others.2)

/-- Show games in the order in which they are given.  Each one carries its
number among the games that are left, sorted by name, since that is the
number by which it can be added. -/
def showGames (desk : Desk) (games : List Game) (field : Field) : Turn :=
  if games.isEmpty then desk.say (announce "cli.filter.no_results" [])
  else
    let listed := rows (sortByName desk.planner.current) field games
    let count := announce "cli.filter.count" [("count", .number games.length)]
    ⟨desk, printed (count :: listed.1), listed.2.map .writing, false⟩

/-! ### Filtering and sorting -/

def unknownSortField (desk : Desk) (word : String) : Turn :=
  desk.say <|
    announce "cli.filter.invalid_sort" [("field", .text word), ("fields", .text fieldTokens)]

def narrowAndShow (desk : Desk) (expression : String) (field : Field) (ascending : Bool) :
    Logged Turn :=
  (desk.planner.filter (some expression) (.known field) ascending).andThen fun
    | (.error fault, _) => .quiet (desk.fail (.tooLarge fault))
    | (.ok games, planner) => .quiet ({ desk with planner }.showGames games field)

def after (line : String) (turn : Turn) : Turn :=
  { turn with output := printed [line] ++ turn.output }

/-- The field that a sort clause asks for: the name if it asks for none. -/
def sortField (word : Option String) : Except UnknownField Field :=
  match word with
  | none => .ok .name
  | some word => (FieldName.word word).resolve

/-- Narrow the games, or bring all of them back when nothing is asked for. -/
def filter (desk : Desk) (arguments : String) : Logged Turn :=
  if arguments.isEmpty then
    ({ desk with planner := desk.planner.reset }.narrowAndShow "" .name true).andThen fun turn =>
      .quiet (after (announce "cli.filter.reset" []) turn)
  else
    let clause := SortClause.parse arguments
    match sortField clause.field with
    | .error _ => .quiet (desk.unknownSortField (clause.field.getD ""))
    | .ok field => desk.narrowAndShow clause.expression field clause.ascending

/-- Show the games that are left, sorted by a field. -/
def sort (desk : Desk) (arguments : String) : Logged Turn :=
  if arguments.isEmpty then .quiet (desk.say (desk.helpText "sort"))
  else
    let clause := SortClause.parse ("sort " ++ arguments)
    match clause.field with
    | none => .quiet (desk.say (desk.helpText "sort"))
    | some word =>
      match (FieldName.word word).resolve with
      | .error _ => .quiet (desk.unknownSortField word)
      | .ok field => desk.narrowAndShow "" field clause.ascending

/-! ### The shortlist -/

/-- Names with their numbers, counted on from `number`. -/
def numberedNames (number : Nat) : List String → List String
  | [] => []
  | name :: rest => (naturalText number ++ ": " ++ name) :: numberedNames (number + 1) rest

/-- List the held games. -/
def list (desk : Desk) : Logged Turn :=
  let names := desk.shortlist.names
  if names.isEmpty then .quiet (desk.say (announce "cli.list.empty" []))
  else
    let header := announce "cli.list.header" [("count", .number names.length)]
    .quiet ⟨desk, printed (header :: numberedNames 1 names), none, false⟩

def refuse (desk : Desk) (selection : String) (fault : SelectionFault) : Logged Turn :=
  match fault with
  | .tooManyDigits digits => .quiet (desk.fail (.tooManyDigits digits))
  | _ =>
    ⟨desk.say (announce "cli.invalid_selection" [("error", .text fault.message)]),
      [⟨.debug, speaker,
        announce "logs.console.selection_error"
          [("selection", .text selection), ("error", .text fault.message)]⟩]⟩

/-- Put a changed shortlist on the desk, and say how many games it has. -/
def accept (desk : Desk) (key : String) (shortlist : Shortlist) : Turn :=
  { desk with shortlist }.say (announce key [("count", .number shortlist.count)])

/-- Add games to the shortlist. -/
def add (desk : Desk) (arguments : String) : Logged Turn :=
  if arguments.isEmpty then .quiet (desk.say (announce "cli.add.usage" []))
  else
    (desk.shortlist.add (some arguments) desk.planner.current).andThen fun
      | .error fault => desk.refuse arguments fault
      | .ok shortlist => .quiet (desk.accept "cli.add.done" shortlist)

/-- Remove games from the shortlist. -/
def remove (desk : Desk) (arguments : String) : Logged Turn :=
  if arguments.isEmpty then .quiet (desk.say (announce "cli.remove.usage" []))
  else
    (desk.shortlist.remove (some arguments)).andThen fun
      | .error fault => desk.refuse arguments fault
      | .ok shortlist => .quiet (desk.accept "cli.remove.done" shortlist)

/-- Remove all games from the shortlist. -/
def clear (desk : Desk) : Logged Turn :=
  .quiet ({ desk with shortlist := .empty }.say (announce "cli.clear.done" []))

def save (desk : Desk) (arguments : String) : Logged Turn :=
  let target := if arguments.isEmpty then desk.listFile else .text arguments
  (desk.shortlist.saveTo target desk.files).andThen fun (outcome, files) =>
    let desk := { desk with files }
    match outcome with
    | .ok path =>
      .quiet <| desk.say <|
        announce "cli.save.done"
          [("count", .number desk.shortlist.count), ("path", .text path.text)]
    | .error (.refused path) =>
      let wording := (SavingFault.refused path).message
      ⟨desk.say (announce "cli.save.error" [("error", .text wording)]),
        [⟨.error, speaker,
          announce "logs.console.save_error"
            [("path", .text target.display), ("error", .text wording)]⟩]⟩
    | .error fault => .quiet (desk.fail (.notSaved fault))

/-! ### Lines -/

/-- Carry out a command. -/
def carryOut (desk : Desk) (arguments : String) : Command → Logged Turn
  | .help => desk.help arguments
  | .filter => desk.filter arguments
  | .sort => desk.sort arguments
  | .list => desk.list
  | .add => desk.add arguments
  | .remove => desk.remove arguments
  | .clear => desk.clear
  | .save => desk.save arguments
  | .exit => .quiet ⟨desk, "", none, true⟩

/-- The command word of a line, in small letters, and its arguments.  The word
ends at the first space. -/
def wordAndArguments (line : List Char) : String × String :=
  let word := line.takeWhile fun c => c != ' '
  (String.ofList (lowerChars word), String.ofList (trim (line.drop word.length)))

def received (word arguments : String) : Record :=
  ⟨.debug, speaker,
    announce "logs.console.command" [("command", .text word), ("args", .text arguments)]⟩

/-- Answer a line.  A blank line is passed over. -/
def execute (desk : Desk) (line : String) : Logged Turn :=
  let chars := trim line.toList
  if chars.isEmpty then .quiet ⟨desk, "", none, false⟩
  else
    let (word, arguments) := wordAndArguments chars
    (⟨(), [received word arguments]⟩ : Logged Unit).andThen fun _ =>
      match Command.ofWord? word with
      | none => .quiet (desk.say (announce "cli.invalid_command" [("command", .text word)]))
      | some command => desk.carryOut arguments command

end Desk

/-!
## Sessions of the console

A session greets the user and answers one line after another, each behind a
prompt, until the user leaves or the input ends.  What follows the line that
ends the session is not read.  A turn with a fault ends the session at once.
-/

/-- What comes of a session. -/
structure Visit where
  desk : Desk
  output : String
  fault : Option Fault
  unread : String

def prompt : String := announce "cli.prompt" []

/-- The line that greets the user. -/
def welcome : String :=
  announce "cli.welcome" [("app", .text programName), ("version", .text programVersion)]

/-- The line that takes leave of the user. -/
def goodbye : String := announce "cli.goodbye" []

/-- Put what was printed before in front of what a visit prints. -/
def Visit.behind (output : String) (visit : Visit) : Visit :=
  { visit with output := output ++ visit.output }

/-- Answer the next line, or the end of the input.  The session takes leave of
a user who leaves, and of one whose input has ended. -/
def answer (desk : Desk) : Option String → Logged Turn
  | none => .quiet ⟨desk, printed ["", goodbye], none, true⟩
  | some line =>
    (desk.execute line).andThen fun turn =>
      .quiet (if turn.leaves then { turn with output := turn.output ++ printed [goodbye] } else turn)

def Turn.ends (turn : Turn) : Bool :=
  turn.fault.isSome || turn.leaves

/-- Answer lines until the session ends. -/
def answerLines (desk : Desk) : List (List Char) → Logged Visit
  | [] =>
    (answer desk none).andThen fun turn =>
      .quiet ⟨turn.desk, prompt ++ turn.output, turn.fault, ""⟩
  | line :: rest =>
    (answer desk (some (String.ofList line))).andThen fun turn =>
      let output := prompt ++ turn.output
      if turn.ends then .quiet ⟨turn.desk, output, turn.fault, String.ofList rest.flatten⟩
      else (answerLines turn.desk rest).andThen fun visit => .quiet (visit.behind output)

/-- Run a session on an input. -/
def run (desk : Desk) (input : String) : Logged Visit :=
  (answerLines desk (physicalLines input.toList)).andThen fun visit =>
    .quiet (visit.behind (printed [welcome]))

end Console
end GameNight
