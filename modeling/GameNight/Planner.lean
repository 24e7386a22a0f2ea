import GameNight.Clause
import GameNight.Game

namespace GameNight

open Text Number Journal

/-!
# The planner

A planner holds a catalogue and the games that are left of it.  Filters are
cumulative: each one narrows what the one before it left, until a reset brings
the whole catalogue back.  The games that are left stay in the order of the
catalogue; sorting only arranges the answer.

A filter whose evaluation fails leaves the planner as it was.
-/

/-- A catalogue without repetitions, and the games that are left of it. -/
structure Planner where
  games : List Game
  current : List Game

def distinctGames : List Game → List Game
  | [] => []
  | game :: rest => game :: (distinctGames rest).filter fun other => !game.same other

/-- The games that all clauses let pass; each clause sees what the ones before
it left. -/
def keepAll (games : List Game) : List Clause → Except TooLarge (List Game)
  | [] => .ok games
  | clause :: rest =>
    match clause.keep games with
    | .error fault => .error fault
    | .ok kept => keepAll kept rest

namespace Planner

def speaker : String := "bgplanner.planner"

/-- A planner for a list of games, of which nothing has been filtered out. -/
def ofGames (games : List Game) : Planner :=
  let distinct := distinctGames games
  ⟨distinct, distinct⟩

def creation (planner : Planner) : Record :=
  ⟨.debug, speaker, "Planner created with " ++ naturalText planner.games.length ++ " games"⟩

def create (games : List Game) : Logged Planner :=
  let planner := ofGames games
  ⟨planner, [planner.creation]⟩

def shownExpression : Option String → String
  | some expression => quoted expression
  | none => "None"

def narrowing (expression : Option String) (before after : Nat) : Record :=
  ⟨.debug, speaker,
    "Filter " ++ shownExpression expression ++ " narrowed " ++ naturalText before ++ " -> " ++
      naturalText after ++ " games"⟩

/-- Narrow the games that are left to those that pass an expression. -/
def narrow (planner : Planner) (expression : Option String) : Logged (Except TooLarge Planner) :=
  (clausesOf expression).andThen fun clauses =>
    if clauses.isEmpty then .quiet (.ok planner)
    else
      match keepAll planner.current clauses with
      | .error fault => .quiet (.error fault)
      | .ok kept =>
        ⟨.ok { planner with current := kept },
          [narrowing expression planner.current.length kept.length]⟩

/-- Sort games by a field that is asked for by name.  A name that no field has
leaves them as they are. -/
def arrange (games : List Game) (name : FieldName) (ascending : Bool) : Logged (List Game) :=
  match name.resolve with
  | .ok field => .quiet (sortGames games field ascending)
  | .error fault =>
    ⟨games,
      [⟨.debug, speaker,
        "Unknown sort field " ++ fault.name.shown ++ ", leaving order unchanged"⟩]⟩

/-- Narrow the games that are left, and list them sorted.  The planner that
goes on is the narrowed one, or the same one when narrowing failed. -/
def filter (planner : Planner) (expression : Option String) (name : FieldName) (ascending : Bool) :
    Logged (Except TooLarge (List Game) × Planner) :=
  (planner.narrow expression).andThen fun
    | .error fault => .quiet (.error fault, planner)
    | .ok narrowed =>
      (arrange narrowed.current name ascending).andThen fun listed => .quiet (.ok listed, narrowed)

/-- Bring the whole catalogue back. -/
def reset (planner : Planner) : Planner :=
  { planner with current := planner.games }

end Planner
end GameNight
