import GameNight.Field
import GameNight.Number.Double
import GameNight.Number.Written
import GameNight.Text.Character

namespace GameNight

open Text Number

/-!
# Games and their order

Games can be told apart, asked for the values of their fields, shown, and sorted.
-/

/-!
## Games

A game is one entry of a catalogue.  Two entries are the same game when each
of their fields is.  Names and whole numbers are the same when they are equal,
and so are scores, of which the two zeros are equal.  A score that is no number
equals nothing; it is the same only as the very object that it is, which
several games may share.  So a score is kept together with the object that
holds it, of which no field shows anything.

Games are ordered by their names in small letters.
-/

/-- A score, and the object that holds it. -/
structure Score where
  value : Double
  object : Nat := 0
  deriving DecidableEq

namespace Score

def zero : Score := { value := .zero }

/-- Whether two scores are the same: one object, or equal values. -/
def same (score other : Score) : Bool :=
  score == other || score.value.equals other.value

@[simp] theorem same_self (score : Score) : score.same score = true := by
  simp [same]

end Score

/-- One entry of a catalogue. -/
structure Game where
  name : String
  id : Int := 0
  minPlayers : Int := 0
  maxPlayers : Int := 0
  minTime : Int := 0
  maxTime : Int := 0
  difficulty : Score := .zero
  rank : Int := 0
  rating : Score := .zero
  year : Int := 0
  deriving DecidableEq

/-- A whole number that is too large to be compared as a double. -/
inductive TooLarge where
  | forDouble
  deriving DecidableEq, Repr

def TooLarge.message : TooLarge → String
  | .forDouble => "int too large to convert to float"

/-- Why a game could not be asked for a field. -/
inductive AccessFault where
  | unknown (fault : UnknownField)
  | notNumeric (field : Field)
  | notText (field : Field)
  | tooLarge (fault : TooLarge)
  deriving DecidableEq, Repr

def AccessFault.message : AccessFault → String
  | .unknown fault => fault.message
  | .notNumeric field => "Invalid numeric column: " ++ field.token
  | .notText field => "Invalid string column: " ++ field.token
  | .tooLarge fault => fault.message

namespace Game

def integer (game : Game) : IntegerField → Int
  | .id => game.id
  | .rank => game.rank
  | .minPlayers => game.minPlayers
  | .maxPlayers => game.maxPlayers
  | .minTime => game.minTime
  | .maxTime => game.maxTime
  | .year => game.year

/-- A score with its object. -/
def scored (game : Game) : ScoreField → Score
  | .rating => game.rating
  | .difficulty => game.difficulty

def score (game : Game) (field : ScoreField) : Double :=
  (game.scored field).value

def value (game : Game) : NumericField → Except TooLarge Double
  | .score field => .ok (game.score field)
  | .integer field => (Double.ofInteger? (game.integer field)).elim (.error .forDouble) .ok

/-- The name in small letters, by which games are ordered. -/
def sortName (game : Game) : String :=
  lower game.name

def before (game other : Game) : Bool :=
  decide (game.sortName < other.sortName)

/-- Whether two entries are the same game. -/
def same (game other : Game) : Bool :=
  game.name == other.name && game.id == other.id && game.minPlayers == other.minPlayers &&
    game.maxPlayers == other.maxPlayers && game.minTime == other.minTime &&
    game.maxTime == other.maxTime && game.difficulty.same other.difficulty &&
    game.rank == other.rank && game.rating.same other.rating && game.year == other.year

@[simp] theorem same_self (game : Game) : game.same game = true := by
  simp [same]

def numericValue (game : Game) (name : FieldName) : Except AccessFault Double :=
  match name.resolve with
  | .error fault => .error (.unknown fault)
  | .ok .name => .error (.notNumeric .name)
  | .ok (.numeric field) => (game.value field).mapError .tooLarge

def textValue (game : Game) (name : FieldName) : Except AccessFault String :=
  match name.resolve with
  | .error fault => .error (.unknown fault)
  | .ok .name => .ok game.name
  | .ok (.numeric field) => .error (.notText (.numeric field))

def unit : IntegerField → String
  | .minTime | .maxTime => " min"
  | _ => ""

/-- A game with the value of one field behind its name.  Scores have two
places, times are in minutes, and the name itself has nothing behind it. -/
def display (game : Game) : Field → Except WritingFault String
  | .name => .ok game.name
  | .numeric (.score field) => .ok (game.name ++ " (" ++ fixedText 2 (game.score field) ++ ")")
  | .numeric (.integer field) =>
    (writeInteger (game.integer field)).map fun digits =>
      game.name ++ " (" ++ digits ++ unit field ++ ")"

end Game

/-- Why a game could not be shown with a field. -/
inductive DisplayFault where
  | unknown (fault : UnknownField)
  | writing (fault : WritingFault)
  deriving DecidableEq, Repr

def DisplayFault.message : DisplayFault → String
  | .unknown fault => fault.message
  | .writing fault => fault.message

def Game.displayNamed (game : Game) (name : FieldName) : Except DisplayFault String :=
  match name.resolve with
  | .error fault => .error (.unknown fault)
  | .ok field => (game.display field).mapError .writing

/-!
## Sort orders

Games are sorted by one field, upwards or downwards: names in small letters
and by code points, whole numbers exactly, and scores by their places on the
line.  Games with equal keys keep the order that they had, in both
directions.  A score that is no number has no place and is sorted by the
convention of `Double.sortKey`.
-/

/-- Whether one game may stand before another when games are sorted upwards. -/
def Field.inOrder : Field → Game → Game → Bool
  | .name, a, b => decide (a.sortName ≤ b.sortName)
  | .numeric (.integer field), a, b => decide (a.integer field ≤ b.integer field)
  | .numeric (.score field), a, b => decide ((a.score field).sortKey ≤ (b.score field).sortKey)

/-- Sort games by a field. -/
def sortGames (games : List Game) (field : Field) (ascending : Bool) : List Game :=
  games.mergeSort fun a b => if ascending then field.inOrder a b else field.inOrder b a

def sortByName (games : List Game) : List Game :=
  sortGames games .name true

theorem sortGames_perm (games : List Game) (field : Field) (ascending : Bool) :
    (sortGames games field ascending).Perm games :=
  List.mergeSort_perm _ _

/-- Numbering by name neither adds nor drops games. -/
theorem sortByName_perm (games : List Game) : (sortByName games).Perm games :=
  sortGames_perm games .name true

end GameNight
