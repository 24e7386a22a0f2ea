import GameNight.Files
import GameNight.Game
import GameNight.Json
import GameNight.Program

namespace GameNight

open Text Number Journal Files

/-!
# Selections and the shortlist

A user picks games from numbered lists by selections, and keeps those that were picked
on a shortlist.
-/

/-!
## Selections

A selection is a text that picks games from a numbered list: `all` of them,
one by its number, a range of numbers, or one by its name.  Numbers start at
one.  Names and the word `all` are compared in small letters.

A selection that picks nothing is refused with the reason.  A number with too
many digits to be read is refused as such.
-/

/-- Why a selection was refused. -/
inductive SelectionFault where
  | empty
  | outOfRange (token : String) (count : Nat)
  | invalidRange (token : String) (count : Nat)
  | notFound (token : String)
  | tooManyDigits (digits : Nat)
  deriving DecidableEq, Repr

def offeredNumbers (count : Nat) : String :=
  "(1-" ++ naturalText count ++ ")"

def SelectionFault.message : SelectionFault → String
  | .empty => "Empty selection"
  | .outOfRange token count => "Index out of range: " ++ token ++ " " ++ offeredNumbers count
  | .invalidRange token count => "Invalid range: " ++ token ++ " " ++ offeredNumbers count
  | .notFound token => "Game not found: " ++ token
  | .tooManyDigits digits => (IntegerFault.tooLong digits).message []

/-- Whether a text is made of decimal digits. -/
def isNumeral (chars : List Char) : Bool :=
  !chars.isEmpty && chars.all isDecimal

/-- The two numerals of a range: digits, a hyphen and digits, with blanks
allowed around the hyphen. -/
def rangeNumerals? (token : List Char) : Option (List Char × List Char) :=
  let first := token.takeWhile isDecimal
  match trimStart (token.dropWhile isDecimal) with
  | '-' :: rest =>
    let last := trimStart rest
    if !first.isEmpty && isNumeral last then some (first, last) else none
  | _ => none

def numeralValue (numeral : List Char) : Except SelectionFault Nat :=
  if digitLimit < numeral.length then .error (.tooManyDigits numeral.length)
  else .ok (valueOfDigits (numeral.filterMap decimalValue?))

def gameNumbered (token : List Char) (candidates : List Game) : Except SelectionFault (List Game) :=
  match numeralValue token with
  | .error fault => .error fault
  | .ok number =>
    if number = 0 then .error (.outOfRange (String.ofList token) candidates.length)
    else
      match candidates[number - 1]? with
      | some game => .ok [game]
      | none => .error (.outOfRange (String.ofList token) candidates.length)

def gamesInRange (token first last : List Char) (candidates : List Game) :
    Except SelectionFault (List Game) :=
  match numeralValue first, numeralValue last with
  | .error fault, _ => .error fault
  | _, .error fault => .error fault
  | .ok start, .ok stop =>
    if stop < start ∨ start < 1 ∨ candidates.length < stop then
      .error (.invalidRange (String.ofList token) candidates.length)
    else .ok ((candidates.take stop).drop (start - 1))

def gameNamed (token : List Char) (candidates : List Game) : Except SelectionFault (List Game) :=
  match candidates.find? fun game => game.sortName == lower (String.ofList token) with
  | some game => .ok [game]
  | none => .error (.notFound (String.ofList token))

/-- The games that a selection picks from a list. -/
def selectGames (selection : Option String) (candidates : List Game) :
    Except SelectionFault (List Game) :=
  let token := trim (selection.getD "").toList
  if token.isEmpty then .error .empty
  else if lowerChars token = ['a', 'l', 'l'] then .ok candidates
  else if isNumeral token then gameNumbered token candidates
  else
    match rangeNumerals? token with
    | some (first, last) => gamesInRange token first last candidates
    | none => gameNamed token candidates

/-!
## The shortlist

A shortlist holds games in the order of their names in small letters, at most
one for each such name.  Games are added and removed by selections; the
numbers of an addition count the offered games by name, and those of a
removal count the held games as they are listed.  A game whose name is held
already changes nothing.

A shortlist is saved as one name per line.
-/

/-- The games that have been picked, in the order of their names. -/
structure Shortlist where
  held : List Game

/-- Put a game at its place in a list that is ordered by name, unless its name
is there already. -/
def insertByName (game : Game) : List Game → List Game
  | [] => [game]
  | held :: rest =>
    if game.sortName < held.sortName then game :: held :: rest
    else if game.sortName = held.sortName then held :: rest
    else held :: insertByName game rest

/-- Why a shortlist could not be saved. -/
inductive SavingFault where
  | refused (path : Path)
  | embeddedNul
  | tooDeep
  | notAPath (kind : String)
  deriving DecidableEq, Repr

def SavingFault.message : SavingFault → String
  | .refused path => "Error writing to file: " ++ path.text
  | .embeddedNul => embeddedNulMessage
  | .tooDeep => TargetFault.tooDeep.message
  | .notAPath kind => notAPathMessage kind

def SavingFault.ofTarget (path : Path) : TargetFault → SavingFault
  | .refused _ _ => .refused path
  | .embeddedNul => .embeddedNul
  | .tooDeep => .tooDeep

namespace Shortlist

def speaker : String := "bgplanner.game_list"

/-- A shortlist without games. -/
def empty : Shortlist := ⟨[]⟩

/-- The names of the held games, in order. -/
def names (shortlist : Shortlist) : List String :=
  shortlist.held.map Game.name

/-- The number of held games. -/
def count (shortlist : Shortlist) : Nat :=
  shortlist.held.length

/-- Add one game, unless its name is held already. -/
def insert (shortlist : Shortlist) (game : Game) : Shortlist :=
  ⟨insertByName game shortlist.held⟩

/-- Add games, one after another. -/
def insertAll (shortlist : Shortlist) (games : List Game) : Shortlist :=
  games.foldl insert shortlist

/-- Remove the game with the name of a given one. -/
def erase (shortlist : Shortlist) (game : Game) : Shortlist :=
  ⟨shortlist.held.filter fun held => held.sortName != game.sortName⟩

/-- Remove games, one after another. -/
def eraseAll (shortlist : Shortlist) (games : List Game) : Shortlist :=
  games.foldl erase shortlist

def shownSelection : Option String → String
  | some selection => quoted selection
  | none => "None"

def selected (deed : String) (count : Nat) (selection : Option String) : Record :=
  ⟨.debug, speaker,
    deed ++ " " ++ naturalText count ++ " game(s) for selection " ++ shownSelection selection⟩

/-- Add the games that a selection picks from those on offer. -/
def add (shortlist : Shortlist) (selection : Option String) (offered : List Game) :
    Logged (Except SelectionFault Shortlist) :=
  match selectGames selection (sortByName offered) with
  | .error fault => .quiet (.error fault)
  | .ok games => ⟨.ok (shortlist.insertAll games), [selected "Added" games.length selection]⟩

/-- Remove the games that a selection picks from those that are held. -/
def remove (shortlist : Shortlist) (selection : Option String) :
    Logged (Except SelectionFault Shortlist) :=
  match selectGames selection shortlist.held with
  | .error fault => .quiet (.error fault)
  | .ok games => ⟨.ok (shortlist.eraseAll games), [selected "Removed" games.length selection]⟩

def savedText (shortlist : Shortlist) : String :=
  String.join (shortlist.names.map fun name => name ++ "\n")

variable [Machine]

/-- Save a shortlist to a file, whose directory is made if it is missing.  The
files are returned also when saving fails, since directories may have been
made before. -/
def save (shortlist : Shortlist) (path : Path) (files : Store) :
    Logged (Except SavingFault Path × Store) :=
  match files.makeDirectories path.parent with
  | (.error fault, partly) => .quiet (.error (.ofTarget path fault), partly)
  | (.ok _, prepared) =>
    match prepared.write path shortlist.savedText.toUTF8 with
    | .error fault => .quiet (.error (.ofTarget path (.ofFault path fault)), prepared)
    | .ok written =>
      ⟨(.ok path, written),
        [⟨.info, speaker,
          "Saved " ++ naturalText shortlist.count ++ " games to " ++ path.text⟩]⟩

/-- Save a shortlist to the file that a setting names; only a text names one. -/
def saveTo (shortlist : Shortlist) (target : Json) (files : Store) :
    Logged (Except SavingFault Path × Store) :=
  match target with
  | .text name => shortlist.save (.ofString name) files
  | value => .quiet (.error (.notAPath value.kindWord), files)

end Shortlist

end GameNight
