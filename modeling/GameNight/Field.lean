import GameNight.Number.Decimal
import GameNight.Text.Character
import GameNight.Text.Quoted

namespace GameNight

open Text Number

/-!
# Fields of a game

A game has a name and nine numeric fields.  Seven of these hold whole numbers
and two hold scores, which are doubles.  Splitting the fields by what they
hold makes every accessor total: a clause or a sort order asks a game only for
what it has.

Every field has a token, under which filters and sort orders know it, and the
heading of the catalogue column that it is read from.  Both are recognised,
letter for letter, with blanks around them ignored.
-/

/-- A field that holds a whole number. -/
inductive IntegerField where
  | id
  | rank
  | minPlayers
  | maxPlayers
  | minTime
  | maxTime
  | year
  deriving DecidableEq, Repr

/-- A field that holds a double. -/
inductive ScoreField where
  | rating
  | difficulty
  deriving DecidableEq, Repr

/-- A field that holds a number. -/
inductive NumericField where
  | integer (field : IntegerField)
  | score (field : ScoreField)
  deriving DecidableEq, Repr

/-- A field of a game. -/
inductive Field where
  | name
  | numeric (field : NumericField)
  deriving DecidableEq, Repr

namespace Field

abbrev id : Field := .numeric (.integer .id)
abbrev rating : Field := .numeric (.score .rating)
abbrev difficulty : Field := .numeric (.score .difficulty)
abbrev rank : Field := .numeric (.integer .rank)
abbrev minPlayers : Field := .numeric (.integer .minPlayers)
abbrev maxPlayers : Field := .numeric (.integer .maxPlayers)
abbrev minTime : Field := .numeric (.integer .minTime)
abbrev maxTime : Field := .numeric (.integer .maxTime)
abbrev year : Field := .numeric (.integer .year)

/-- All fields, in the order in which they are listed to the user and read
from a catalogue. -/
def all : List Field :=
  [name, id, rating, difficulty, rank, minPlayers, maxPlayers, minTime, maxTime, year]

/-- No field is left out. -/
theorem mem_all (field : Field) : field ∈ all := by
  rcases field with _ | ⟨⟨⟩⟩ | ⟨⟨⟩⟩ <;> decide

end Field

def IntegerField.token : IntegerField → String
  | .id => "id"
  | .rank => "rank"
  | .minPlayers => "minPlayers"
  | .maxPlayers => "maxPlayers"
  | .minTime => "minPlayTime"
  | .maxTime => "maxPlayTime"
  | .year => "year"

def ScoreField.token : ScoreField → String
  | .rating => "rating"
  | .difficulty => "difficulty"

def NumericField.token : NumericField → String
  | .integer field => field.token
  | .score field => field.token

def IntegerField.column : IntegerField → String
  | .id => "objectid"
  | .rank => "rank"
  | .minPlayers => "minplayers"
  | .maxPlayers => "maxplayers"
  | .minTime => "minplaytime"
  | .maxTime => "maxplaytime"
  | .year => "yearpublished"

def ScoreField.column : ScoreField → String
  | .rating => "average"
  | .difficulty => "avgweight"

def NumericField.column : NumericField → String
  | .integer field => field.column
  | .score field => field.column

namespace Field

def token : Field → String
  | .name => "name"
  | .numeric field => field.token

def column : Field → String
  | .name => "objectname"
  | .numeric field => field.column

/-- The field with a given token or column heading. -/
def ofWord? (word : String) : Option Field :=
  all.find? fun field => word = field.token || word = field.column

@[simp] theorem ofWord?_token (field : Field) : ofWord? field.token = some field := by
  rcases field with _ | ⟨⟨⟩⟩ | ⟨⟨⟩⟩ <;> decide

@[simp] theorem ofWord?_column (field : Field) : ofWord? field.column = some field := by
  rcases field with _ | ⟨⟨⟩⟩ | ⟨⟨⟩⟩ <;> decide

end Field

/-- How a field is asked for: as itself, by a word, or by something that is no
word and names no field. -/
inductive FieldName where
  | known (field : Field)
  | word (text : String)
  | number (value : Int)
  | nothing
  deriving DecidableEq, Repr

/-- A name that no field has. -/
structure UnknownField where
  name : FieldName
  deriving DecidableEq, Repr

namespace FieldName

def shown : FieldName → String
  | .known field => quoted field.token
  | .word text => quoted text
  | .number value => integerText value
  | .nothing => "None"

def resolve (name : FieldName) : Except UnknownField Field :=
  match name with
  | .known field => .ok field
  | .word text =>
    match Field.ofWord? (strip text) with
    | some field => .ok field
    | none => .error ⟨name⟩
  | _ => .error ⟨name⟩

end FieldName

def UnknownField.message (fault : UnknownField) : String :=
  "No field named " ++ fault.name.shown

end GameNight
