import GameNight.Game
import GameNight.Number.Decimal
import GameNight.Number.Double
import GameNight.Program
import GameNight.Text.Character
import GameNight.Text.Line

namespace GameNight

open Text Number Journal

/-!
# Filter clauses

A filter joins clauses, which are read one by one and tested on games.
-/

/-!
## Operators

Six comparisons apply to numbers and to texts, and containment applies to
texts alone.  Texts are compared in small letters, by code points.

The operator of a clause is found by its token, wherever in the clause it
stands.  The longer tokens are looked for first, so that `>` is never found
inside `>=`; among tokens of one length the order of the list decides.
-/

/-- A comparison of two values. -/
inductive Comparison where
  | equals
  | notEquals
  | greater
  | less
  | greaterOrEqual
  | lessOrEqual
  deriving DecidableEq, Repr

/-- An operator of a clause. -/
inductive Operator where
  | compare (comparison : Comparison)
  | contains
  deriving DecidableEq, Repr

def Comparison.token : Comparison → String
  | .equals => "=="
  | .notEquals => "!="
  | .greater => ">"
  | .less => "<"
  | .greaterOrEqual => ">="
  | .lessOrEqual => "<="

def Comparison.holdsForNumbers (comparison : Comparison) (left right : Double) : Bool :=
  match comparison with
  | .equals => left.equals right
  | .notEquals => !left.equals right
  | .greater => right.below left
  | .less => left.below right
  | .greaterOrEqual => right.atMost left
  | .lessOrEqual => left.atMost right

def Comparison.holdsForTexts (comparison : Comparison) (left right : String) : Bool :=
  let left := lower left
  let right := lower right
  match comparison with
  | .equals => left == right
  | .notEquals => left != right
  | .greater => decide (right < left)
  | .less => decide (left < right)
  | .greaterOrEqual => decide (right ≤ left)
  | .lessOrEqual => decide (left ≤ right)

/-- An operator that does not apply to numbers. -/
inductive OperatorFault where
  | notForNumbers
  deriving DecidableEq, Repr

namespace Operator

def all : List Operator :=
  [.compare .equals, .compare .notEquals, .compare .greater, .compare .less,
   .compare .greaterOrEqual, .compare .lessOrEqual, .contains]

/-- All operators, in the order in which their tokens are looked for. -/
def byLength : List Operator :=
  [.compare .equals, .compare .notEquals, .compare .greaterOrEqual,
   .compare .lessOrEqual, .contains, .compare .greater, .compare .less]

/-- Looking for tokens leaves no operator out. -/
theorem mem_byLength (operator : Operator) : operator ∈ byLength := by
  rcases operator with ⟨⟨⟩⟩ | _ <;> decide

def token : Operator → String
  | .compare comparison => comparison.token
  | .contains => "~="

/-- The operator of a text, if it holds the token of one. -/
def find? (chars : List Char) : Option Operator :=
  byLength.find? fun operator => occurs operator.token.toList chars

def holdsForNumbers (operator : Operator) (left right : Double) : Except OperatorFault Bool :=
  match operator with
  | .compare comparison => .ok (comparison.holdsForNumbers left right)
  | .contains => .error .notForNumbers

def holdsForTexts (operator : Operator) (left right : String) : Bool :=
  match operator with
  | .compare comparison => comparison.holdsForTexts left right
  | .contains => occurs (lowerChars right.toList) (lowerChars left.toList)

end Operator

def OperatorFault.message : OperatorFault → String
  | .notForNumbers => "Operator " ++ Operator.contains.token ++ " does not apply to numbers"

/-!
## Clauses

A clause is a field, an operator and a value, as in `rank < 100`.  Reading a
clause never fails: a text that cannot be understood becomes an inert clause,
which carries the reason and lets every game pass.  An active clause is a test
of the name or of one numeric field, and the test holds only what it needs:
a numeric test has a comparison and a number, so that containment cannot meet
a number.

Evaluating a clause can fail in one way, when the whole number of a game is
too large for a double.
-/

/-- Why a clause has no effect. -/
inductive Inert where
  | noOperator
  | repeated (operator : Operator)
  | missingPart
  | unknownField (token : String)
  | containmentOfNumber (field : NumericField)
  | notANumber (value : String)
  deriving DecidableEq, Repr

def Inert.message : Inert → String
  | .noOperator => "no operator"
  | .repeated operator => "expected one " ++ quoted operator.token
  | .missingPart => "missing field or value"
  | .unknownField token => "unknown field " ++ quoted token
  | .containmentOfNumber field =>
    quoted Operator.contains.token ++ " does not apply to numeric field " ++ quoted field.token
  | .notANumber value => "not a number: " ++ quoted value

/-- What an active clause tests.  The value of a numeric test is kept as it
was written, beside the number that it stands for. -/
inductive Test where
  | ofName (operator : Operator) (value : String)
  | ofNumber (field : NumericField) (comparison : Comparison) (value : String) (number : Double)
  deriving DecidableEq

/-- A clause: its text without the blanks around it, and what it means. -/
structure Clause where
  raw : String
  reading : Except Inert Test

/-- What a clause says about a game. -/
inductive Outcome where
  | matched
  | notMatched
  | inert
  deriving DecidableEq, Repr

/-- A game passes unless it was rejected. -/
def Outcome.passes (outcome : Outcome) : Bool :=
  outcome != .notMatched

def Outcome.ofBool (holds : Bool) : Outcome :=
  if holds then .matched else .notMatched

namespace Test

def field : Test → Field
  | .ofName _ _ => .name
  | .ofNumber field _ _ _ => .numeric field

def operator : Test → Operator
  | .ofName operator _ => operator
  | .ofNumber _ comparison _ _ => .compare comparison

def value : Test → String
  | .ofName _ value => value
  | .ofNumber _ _ value _ => value

def number? : Test → Option Double
  | .ofName _ _ => none
  | .ofNumber _ _ _ number => some number

def ofParts (field : Field) (operator : Operator) (value : List Char) : Except Inert Test :=
  match field, operator with
  | .name, operator => .ok (.ofName operator (String.ofList value))
  | .numeric field, .contains => .error (.containmentOfNumber field)
  | .numeric field, .compare comparison =>
    match readDouble? value with
    | some number => .ok (.ofNumber field comparison (String.ofList value) number)
    | none => .error (.notANumber (String.ofList value))

/-- Read the text of a clause, which has no blanks around it. -/
def ofChars (raw : List Char) : Except Inert Test :=
  match Operator.find? raw with
  | none => .error .noOperator
  | some operator =>
    match cut? operator.token.toList raw with
    | none => .error .noOperator
    | some (before, after) =>
      if occurs operator.token.toList after then .error (.repeated operator)
      else if (trim before).isEmpty || (trim after).isEmpty then .error .missingPart
      else
        match Field.ofWord? (String.ofList (trim before)) with
        | none => .error (.unknownField (String.ofList (trim before)))
        | some field => ofParts field operator (trim after)

def holds (test : Test) (game : Game) : Except TooLarge Bool :=
  match test with
  | .ofName operator value => .ok (operator.holdsForTexts game.name value)
  | .ofNumber field comparison _ number =>
    (game.value field).map fun held => comparison.holdsForNumbers held number

end Test

namespace Clause

def speaker : String := "bgplanner.predicate"

/-- Read a clause. -/
def ofString (text : String) : Clause where
  raw := strip text
  reading := Test.ofChars (trim text.toList)

def remarks (clause : Clause) : List Record :=
  match clause.reading with
  | .ok _ => []
  | .error reason =>
    [⟨.debug, speaker, "Ignoring filter clause " ++ quoted clause.raw ++ ": " ++ reason.message⟩]

/-- Read a clause, and record why it has no effect if it has none. -/
def parse (text : String) : Logged Clause :=
  let clause := ofString text
  ⟨clause, clause.remarks⟩

/-- What a clause says about a game. -/
def outcome (clause : Clause) (game : Game) : Except TooLarge Outcome :=
  match clause.reading with
  | .error _ => .ok .inert
  | .ok test => (test.holds game).map .ofBool

def keep (clause : Clause) : List Game → Except TooLarge (List Game)
  | [] => .ok []
  | game :: rest =>
    match clause.outcome game with
    | .error fault => .error fault
    | .ok outcome =>
      (clause.keep rest).map fun kept => if outcome.passes then game :: kept else kept

end Clause

/-- Read the clauses of an expression, which are separated by commas.  A blank
expression has none. -/
def clausesOf (expression : Option String) : Logged (List Clause) :=
  let chars := (expression.getD "").toList
  if (trim chars).isEmpty then pure []
  else (splitOn ',' chars).mapM fun piece => Clause.parse (String.ofList piece)

end GameNight
