import GameNight.Proofs.Clause.Grammar
import GameNight.Proofs.Number.Range
import GameNight.Proofs.Number.Reading
import GameNight.Proofs.Planner.Failure
import GameNight.Proofs.Planner.History
import GameNight.Proofs.Text.Letters
import Mathlib.Data.String.Basic

namespace GameNight

open Text Number

/-!
# What clauses say of games

A clause that is read says of every game whether it passes.  What it says is told by
comparisons of texts and numbers, and by the pieces of a name.
-/

/-!
## Evaluating a clause from its parts

A clause can be laid open as five parts, of which an inert clause has only the
reason: the field, the operator, the value as it was written, the number that it
stands for, and the reason why the clause has no effect.  Evaluating the parts
one after another could meet a part that is missing, a field that does not hold
what it is asked for, and an operator that does not apply.

The parts of a clause that was read fit together, so that none of this happens.
What remains is a whole number that is too large for a double.
-/

/-- The parts of a clause, none of which need fit the others. -/
structure ClauseParts where
  field : Option Field
  operator : Option Operator
  value : String
  number : Option Double
  reason : String

/-- The parts of a clause that was read. -/
def Clause.laidOpen (clause : Clause) : ClauseParts :=
  match clause.reading with
  | .ok test => ⟨some test.field, some test.operator, test.value, test.number?, ""⟩
  | .error inert => ⟨none, none, "", none, inert.message⟩

/-- What can go wrong when parts are evaluated. -/
inductive EvaluationFault where
  | noField
  | noOperator
  | noNumber
  | access (fault : AccessFault)
  | operator (fault : OperatorFault)

/-- A part that is needed. -/
def needed {α : Type} (fault : EvaluationFault) : Option α → Except EvaluationFault α
  | some part => .ok part
  | none => .error fault

def Field.isNumeric : Field → Bool
  | .name => false
  | .numeric _ => true

namespace ClauseParts

/-- Parts with a reason have no effect. -/
def isInert (parts : ClauseParts) : Bool :=
  parts.reason != ""

/-- Evaluate parts for a game, in the order in which they are needed. -/
def evaluate (parts : ClauseParts) (game : Game) : Except EvaluationFault Outcome :=
  if parts.isInert then .ok .inert
  else do
    let field ← needed .noField parts.field
    let operator ← needed .noOperator parts.operator
    if field.isNumeric then do
      let held ← (game.numericValue (.known field)).mapError .access
      let number ← needed .noNumber parts.number
      let holds ← (operator.holdsForNumbers held number).mapError .operator
      return .ofBool holds
    else do
      let held ← (game.textValue (.known field)).mapError .access
      return .ofBool (operator.holdsForTexts held parts.value)

end ClauseParts

/-- Every inert clause says why it has no effect. -/
theorem Inert.message_ne_empty (reason : Inert) : reason.message ≠ "" := by
  have filled (start rest : String) (started : start.toList ≠ []) : start ++ rest ≠ "" := by
    intro empty
    have chars := congrArg String.toList empty
    rw [String.toList_append] at chars
    exact started (List.append_eq_nil_iff.mp chars).1
  cases reason with
  | noOperator => decide
  | missingPart => decide
  | repeated operator => exact filled _ _ (by decide)
  | unknownField token => exact filled _ _ (by decide)
  | notANumber value => exact filled _ _ (by decide)
  | containmentOfNumber field => exact filled _ _ (by decide)

namespace Clause

theorem isInert_laidOpen (clause : Clause) : clause.laidOpen.isInert = !clause.reading.isOk := by
  rw [laidOpen, ClauseParts.isInert]
  cases clause.reading with
  | ok test => rfl
  | error reason => exact bne_iff_ne.mpr reason.message_ne_empty

/-- Evaluating the parts of a clause that was read says what the clause says, and
fails only where the clause does. -/
theorem evaluate_laidOpen (clause : Clause) (game : Game) :
    clause.laidOpen.evaluate game =
      (clause.outcome game).mapError fun fault => .access (.tooLarge fault) := by
  rw [ClauseParts.evaluate, isInert_laidOpen]
  rw [laidOpen, outcome]
  cases clause.reading with
  | error reason => rfl
  | ok test =>
      cases test with
      | ofName operator value => rfl
      | ofNumber field comparison value number =>
          have asked : game.numericValue (.known (.numeric field)) =
              (game.value field).mapError .tooLarge := rfl
          change ((game.numericValue (.known (.numeric field))).mapError EvaluationFault.access).bind
              (fun held => .ok (Outcome.ofBool (comparison.holdsForNumbers held number))) =
            (((game.value field).map fun held => comparison.holdsForNumbers held number).map
              Outcome.ofBool).mapError fun fault => EvaluationFault.access (.tooLarge fault)
          rw [asked]
          cases game.value field <;> rfl

/-- A clause overreaches on a game when its parts hold an integer field in which the
value of the game is too large. -/
theorem overreaches_iff_laidOpen (clause : Clause) (game : Game) :
    clause.Overreaches game ↔
      ∃ field, clause.laidOpen.field = some (.numeric (.integer field)) ∧
        tooLargeFrom ≤ (game.integer field).natAbs := by
  rw [Overreaches, laidOpen]
  cases clause.reading with
  | error reason => simp
  | ok test => cases test <;> simp [Test.field]

theorem outcome_eq_inert (clause : Clause) (game : Game) :
    clause.outcome game = .ok .inert ↔ clause.reading.isOk = false := by
  rw [outcome]
  cases clause.reading with
  | error reason => exact iff_of_true rfl rfl
  | ok test =>
      simp only [Except.isOk, Except.toBool, Bool.true_eq_false, iff_false]
      intro impossible
      cases holds : test.holds game with
      | error fault =>
          rw [holds] at impossible
          cases impossible
      | ok answer =>
          rw [holds] at impossible
          cases answer <;> cases impossible

/-- Evaluating the parts of a clause that was read says what the clause says.  It
gives the inert outcome exactly when the clause is inert, and one of the other two
or a fault when it is active.  The only fault is that of a whole number of absolute
value 2¹⁰²⁴ − 2⁹⁷⁰ or more in the integer field that the clause holds, and there it
always arises. -/
theorem evaluation_of_parts (text : String) (game : Game) :
    let parts := (parse text).value.laidOpen
    parts.evaluate game =
        ((parse text).value.outcome game).mapError (fun fault => .access (.tooLarge fault)) ∧
      (parts.evaluate game = .ok .inert ↔ parts.isInert = true) ∧
      (∀ fault, parts.evaluate game = .error fault ↔
        fault = .access (.tooLarge .forDouble) ∧
          ∃ field, parts.field = some (.numeric (.integer field)) ∧
            twoTo 1024 - twoTo 970 ≤ (game.integer field).natAbs) ∧
      (parts.isInert = true ∨ parts.evaluate game = .ok .matched ∨ parts.evaluate game = .ok .notMatched ∨
        parts.evaluate game = .error (.access (.tooLarge .forDouble))) := by
  intro parts
  have same : parts.evaluate game =
      ((parse text).value.outcome game).mapError fun fault => .access (.tooLarge fault) :=
    evaluate_laidOpen (parse text).value game
  have inert : parts.evaluate game = .ok .inert ↔ parts.isInert = true := by
    rw [same, isInert_laidOpen, Bool.not_eq_true', ← outcome_eq_inert _ game]
    exact Answer.mapError_eq_ok
  refine ⟨same, inert, fun fault => ?faults, ?outcomes⟩
  case faults =>
    rw [← tooLargeFrom, ← overreaches_iff_laidOpen, ← outcome_eq_error _ game .forDouble, same,
      Answer.mapError_eq_error]
    constructor
    · rintro ⟨⟨⟩, failed, rfl⟩
      exact ⟨rfl, failed⟩
    · rintro ⟨rfl, failed⟩
      exact ⟨.forDouble, failed, rfl⟩
  case outcomes =>
    rw [← inert, same]
    cases (parse text).value.outcome game with
    | ok outcome =>
        cases outcome with
        | inert => exact Or.inl rfl
        | matched => exact Or.inr (Or.inl rfl)
        | notMatched => exact Or.inr (Or.inr (Or.inl rfl))
    | error reason =>
        cases reason
        exact Or.inr (Or.inr (Or.inr rfl))

end Clause

/-!
## What comparisons say

The six comparisons are those of an order: of texts in small letters by code points,
and of numbers by their places.  A compact clause that compares a field with a value
says of a game what its comparison says of the two.
-/

/-! ### Comparisons of an order -/

namespace Comparison

/-- What a comparison says of two members of an order. -/
def Holds {α : Type} [LT α] [LE α] : Comparison → α → α → Prop
  | .equals, left, right => left = right
  | .notEquals, left, right => left ≠ right
  | .greater, left, right => right < left
  | .less, left, right => left < right
  | .greaterOrEqual, left, right => right ≤ left
  | .lessOrEqual, left, right => left ≤ right

instance {α : Type} [LinearOrder α] (comparison : Comparison) (left right : α) :
    Decidable (comparison.Holds left right) :=
  match comparison with
  | .equals => inferInstanceAs (Decidable (left = right))
  | .notEquals => inferInstanceAs (Decidable (left ≠ right))
  | .greater => inferInstanceAs (Decidable (right < left))
  | .less => inferInstanceAs (Decidable (left < right))
  | .greaterOrEqual => inferInstanceAs (Decidable (right ≤ left))
  | .lessOrEqual => inferInstanceAs (Decidable (left ≤ right))

section Exclusion

variable {α : Type} [LinearOrder α] (left right : α)

theorem not_equals_of_less (holds : less.Holds left right) : ¬equals.Holds left right :=
  ne_of_lt holds

theorem not_greater_of_less (holds : less.Holds left right) : ¬greater.Holds left right :=
  lt_asymm holds

theorem not_greater_of_equals (holds : equals.Holds left right) : ¬greater.Holds left right := by
  intro exceeds
  exact ne_of_gt exceeds holds

end Exclusion

/-- Texts are compared in small letters. -/
theorem holdsForTexts_eq (comparison : Comparison) (left right : String) :
    comparison.holdsForTexts left right = decide (comparison.Holds (lower left) (lower right)) := by
  cases comparison <;> rw [Bool.eq_iff_iff, decide_eq_true_eq] <;>
    simp only [holdsForTexts, Holds, beq_iff_eq, bne_iff_ne, decide_eq_true_eq]

/-- Numbers are compared by their places. -/
theorem holdsForNumbers_eq (comparison : Comparison) {left right : Double} {place bound : Int}
    (atLeft : left.place? = some place) (atRight : right.place? = some bound) :
    comparison.holdsForNumbers left right = decide (comparison.Holds place bound) := by
  cases comparison <;> rw [Bool.eq_iff_iff, decide_eq_true_eq] <;>
    simp only [holdsForNumbers, Holds, Double.equals, Double.below, Double.atMost, Double.relates, atLeft,
      atRight, beq_iff_eq, Bool.not_eq_true', beq_eq_false_iff_ne, decide_eq_true_eq]

end Comparison

/-! ### Clauses that compare -/

theorem unmarked_of_readDouble? {value : List Char} {number : Double}
    (read : readDouble? value = some number) : Unmarked value := by
  intro c member
  rcases isBlank_or_standsInNumber read c member with blank | stands
  · refine ⟨?_, ?_, ?_⟩ <;> rintro rfl <;> exact absurd blank (by decide)
  · refine ⟨?_, ?_, ?_⟩ <;> rintro rfl <;> exact absurd stands (by decide)

namespace Clause

/-- A compact clause that compares a numeric field takes the values that are read as
doubles, and compares the field with this double. -/
theorem reading_numeric {word : String} {field : NumericField}
    (named : word = (Field.numeric field).token ∨ word = (Field.numeric field).column) (comparison : Comparison)
    {value : String} {number : Double} (read : readDouble? value.toList = some number) :
    (Clause.ofString (word ++ comparison.token ++ value)).reading =
      .ok (.ofNumber field comparison (String.ofList (trim value.toList)) number) := by
  have filled : trim value.toList ≠ [] := by
    rw [trim_eq_trimNumber read]
    exact trimNumber_ne_nil read
  have compact := reading_compact named (.compare comparison) (unmarked_of_readDouble? read) filled
  rwa [Test.ofParts, readDouble?_trim read] at compact

variable {clause : Clause} {game : Game}

theorem outcome_of_name {operator : Operator} {value : String}
    (understood : clause.reading = .ok (.ofName operator value)) :
    clause.outcome game = .ok (.ofBool (operator.holdsForTexts game.name value)) := by
  rw [outcome, understood]
  rfl

theorem outcome_of_number {field : NumericField} {comparison : Comparison} {value : String}
    {number held : Double} (understood : clause.reading = .ok (.ofNumber field comparison value number))
    (holds : game.value field = .ok held) :
    clause.outcome game = .ok (.ofBool (comparison.holdsForNumbers held number)) := by
  simp only [outcome, understood, Test.holds, holds, Except.map]

theorem admits_of_outcome {answer : Bool} (evaluated : clause.outcome game = .ok (.ofBool answer)) :
    clause.admits game = answer := by
  rw [admits, evaluated]
  cases answer <;> rfl

end Clause

/-!
## Looking for a piece of a name

A clause of containment looks for the small form of its value in the small form
of a name.  So it finds a piece of the name if the piece has the same small form
there as alone, which can only fail at an open end: the value starts or ends
with a capital sigma whose word goes on in the name.

A value without an open end is found in every name of which it is a piece, and
one with an open end is missed in some such name.
-/

/-- A clause that looks for a value in the name. -/
def containment (value : String) : String :=
  "name~=" ++ value

theorem reading_containment {value : String} (unmarked : Unmarked value.toList) (filled : value ≠ "")
    (trimmed : strip value = value) :
    (Clause.ofString (containment value)).reading = .ok (.ofName .contains value) :=
  Clause.reading_name (.inl rfl) .contains unmarked filled trimmed

/-- A clause of containment matches the names in whose small form that of its value
is found, and never fails. -/
theorem outcome_containment {value : String} (unmarked : Unmarked value.toList) (filled : value ≠ "")
    (trimmed : strip value = value) (game : Game) :
    (Clause.ofString (containment value)).outcome game =
      .ok (.ofBool (occurs (lowerChars value.toList) (lowerChars game.name.toList))) := by
  rw [Clause.outcome, reading_containment unmarked filled trimmed]
  rfl

theorem matched_containment_iff {value : String} (unmarked : Unmarked value.toList) (filled : value ≠ "")
    (trimmed : strip value = value) (game : Game) :
    (Clause.ofString (containment value)).outcome game = .ok .matched ↔
      lowerChars value.toList <:+: lowerChars game.name.toList := by
  rw [outcome_containment unmarked filled trimmed, ← occurs_iff]
  cases occurs (lowerChars value.toList) (lowerChars game.name.toList) <;> simp [Outcome.ofBool]

/-- Where a letter follows, a value with an open end is missed. -/
theorem not_matched_of_openAtEnd {value : String} (unmarked : Unmarked value.toList)
    (filled : value ≠ "") (trimmed : strip value = value) (opens : OpenAtEnd value.toList) :
    (Clause.ofString (containment value)).outcome { name := value ++ "a" } ≠ .ok .matched := by
  rw [Ne, matched_containment_iff unmarked filled trimmed, String.toList_append]
  exact not_infix_of_openAtEnd opens

/-- Where a letter stands before it, a value with an open start is missed. -/
theorem not_matched_of_openAtStart {value : String} (unmarked : Unmarked value.toList)
    (filled : value ≠ "") (trimmed : strip value = value) (opens : OpenAtStart value.toList) :
    (Clause.ofString (containment value)).outcome { name := "a" ++ value } ≠ .ok .matched := by
  rw [Ne, matched_containment_iff unmarked filled trimmed, String.toList_append]
  exact not_infix_of_openAtStart opens

/-- A clause of containment finds a piece of a name unless the name goes on with a
letter at an open end of the piece.  It finds a value in all names of which the
value is a piece exactly when the value has no open end. -/
theorem containment_finds_pieces (value : String) (unmarked : Unmarked value.toList)
    (filled : value ≠ "") (trimmed : strip value = value) :
    (∀ game before after, game.name.toList = before ++ value.toList ++ after →
      (OpenAtEnd value.toList → startsCased after = false) →
      (OpenAtStart value.toList → startsCased before.reverse = false) →
        (Clause.parse (containment value)).value.outcome game = .ok .matched) ∧
    ((∀ game : Game, value.toList <:+: game.name.toList →
        (Clause.parse (containment value)).value.outcome game = .ok .matched) ↔
      ¬OpenAtEnd value.toList ∧ ¬OpenAtStart value.toList) := by
  have found : ∀ game before after, game.name.toList = before ++ value.toList ++ after →
      (OpenAtEnd value.toList → startsCased after = false) →
      (OpenAtStart value.toList → startsCased before.reverse = false) →
        (Clause.ofString (containment value)).outcome game = .ok .matched := by
    intro game before after parts closedEnd closedStart
    rw [matched_containment_iff unmarked filled trimmed, parts]
    exact lowerChars_infix_of_closed closedEnd closedStart
  refine ⟨found, ?_, ?_⟩
  · intro always
    constructor
    · intro opens
      refine not_matched_of_openAtEnd unmarked filled trimmed opens (always _ ?_)
      rw [String.toList_append]
      exact (List.prefix_append value.toList "a".toList).isInfix
    · intro opens
      refine not_matched_of_openAtStart unmarked filled trimmed opens (always _ ?_)
      rw [String.toList_append]
      exact (List.suffix_append "a".toList value.toList).isInfix
  · rintro ⟨closedEnd, closedStart⟩ game ⟨before, after, parts⟩
    exact found game before after parts.symm (fun opens => absurd opens closedEnd)
      (fun opens => absurd opens closedStart)

/-- A value with an open end is found where its word ends in the name. -/
theorem word_of_name_found :
    Unmarked "ΟΔΥΣ".toList ∧ "ΟΔΥΣ" ≠ "" ∧ strip "ΟΔΥΣ" = "ΟΔΥΣ" ∧
      (Clause.parse (containment "ΟΔΥΣ")).value.outcome { name := "ΟΔΥΣ ΚΑΙ" } = .ok .matched := by
  refine ⟨by decide, by decide, by decide, ?_⟩
  have blank : startsCased " ΚΑΙ".toList = false := by decide +kernel
  exact (containment_finds_pieces "ΟΔΥΣ" (by decide) (by decide) (by decide)).1 { name := "ΟΔΥΣ ΚΑΙ" } []
    " ΚΑΙ".toList rfl (fun _ => blank) fun _ => rfl

/-- A value with an open end is missed where its word goes on in the name, although
the value is a piece of the name as it stands. -/
theorem start_of_name_missed :
    "ΟΔΥΣ".toList <:+: "ΟΔΥΣΣΕΙΑ".toList ∧ "ΟΔΥΣ" ≠ "" ∧ strip "ΟΔΥΣ" = "ΟΔΥΣ" ∧
      ',' ∉ "ΟΔΥΣ".toList ∧ Unmarked "ΟΔΥΣ".toList ∧
      (Clause.parse (containment "ΟΔΥΣ")).value.outcome { name := "ΟΔΥΣΣΕΙΑ" } = .ok .notMatched := by
  refine ⟨⟨[], "ΣΕΙΑ".toList, by decide⟩, by decide, by decide, by decide, by decide, ?_⟩
  have missed : occurs (lowerChars "ΟΔΥΣ".toList) (lowerChars "ΟΔΥΣΣΕΙΑ".toList) = false := by
    decide +kernel
  rw [Clause.parse, outcome_containment (by decide) (by decide) (by decide), missed]
  rfl

end GameNight
