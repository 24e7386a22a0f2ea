import GameNight.Game
import GameNight.Proofs.Catalogue.Entries
import GameNight.Proofs.Game.Order
import GameNight.Proofs.Number.Printed
import GameNight.Proofs.Number.Reading

namespace GameNight

open Text Number

/-!
# Games as they are shown

How a game is shown with one of its fields, what of the numbers in its row is seen there,
and in what order the numbers of a listing stand.
-/

/-!
## How a game is shown

A game that is shown with a field has the value of the field in parentheses behind its
name.  That succeeds for every field as long as the whole numbers of the game have few
enough digits to be written; scores can always be written.
-/

/-- Whether all whole numbers of a game have few enough digits to be written. -/
def Game.Writable (game : Game) : Prop :=
  ∀ field, (game.integer field).natAbs < tenTo digitLimit

theorem Game.Writable.display {game : Game} (writable : game.Writable) (field : Field) :
    ∃ text, game.display field = .ok text := by
  cases field with
  | name => exact ⟨_, rfl⟩
  | numeric field =>
      cases field with
      | score field => exact ⟨_, rfl⟩
      | integer field =>
          rw [Game.display, writeInteger_of_short (writable field)]
          exact ⟨_, rfl⟩

theorem displayNamed_of_asksFor {name : FieldName} {field : Field} (asked : name.AsksFor field) (game : Game) :
    game.displayNamed name = (game.display field).mapError .writing := by
  unfold Game.displayNamed
  rw [FieldName.resolve_eq_ok.mpr asked]

/-- What stands behind a whole number when a game is shown with it. -/
def timeUnit (field : IntegerField) : String :=
  if field = .minTime ∨ field = .maxTime then " min" else ""

theorem unit_eq_timeUnit (field : IntegerField) : Game.unit field = timeUnit field := by
  cases field <;> rfl

/-- A game is shown with a whole number that is not too long. -/
theorem displayNamed_of_integer {name : FieldName} {field : IntegerField}
    (asked : name.AsksFor (.numeric (.integer field))) {game : Game}
    (short : (game.integer field).natAbs < tenTo digitLimit) :
    game.displayNamed name =
      .ok (game.name ++ " (" ++ integerText (game.integer field) ++ timeUnit field ++ ")") := by
  rw [displayNamed_of_asksFor asked, Game.display, writeInteger_of_short short, unit_eq_timeUnit]
  rfl

theorem displayNamed_of_score {name : FieldName} {field : ScoreField}
    (asked : name.AsksFor (.numeric (.score field))) (game : Game) :
    game.displayNamed name = .ok (game.name ++ " (" ++ fixedText 2 (game.score field) ++ ")") := by
  rw [displayNamed_of_asksFor asked]
  rfl

/-!
## Numbers of a row as they are shown

A game is shown with the characters that its row has under a column, as long as these
are a number in canonical form: whole numbers are kept as they are, and the two places
of a score are not lost in a double.  Blanks around the number are.

The minus sign of a zero is kept with a score, and with a whole number it is not; so
the canonical form of whole numbers has no such zero.
-/

namespace Catalogue

/-- The game of a row is shown, whatever name its field is asked for by, with the whole
numbers and the scores of the row as they stand there in canonical form. -/
theorem numbers_of_row_shown {row : Row} {object : Nat} {game : Game} (made : row.game object = .ok game) :
    (∀ (field : IntegerField) (cell : String),
      cellUnder field.column row.headings row.cells = some cell → IsWholeNumeral (trim cell.toList) →
        ∀ name : FieldName, name.AsksFor (.numeric (.integer field)) →
          game.displayNamed name = .ok (game.name ++ " (" ++ strip cell ++ timeUnit field ++ ")")) ∧
    ∀ (field : ScoreField) (cell : String),
      cellUnder field.column row.headings row.cells = some cell → IsTwoPlaceNumeral (trim cell.toList) →
        ∀ name : FieldName, name.AsksFor (.numeric (.score field)) →
          game.displayNamed name = .ok (game.name ++ " (" ++ strip cell ++ ")") := by
  rcases Row.game_eq_ok.mp made with ⟨_, integers, scores, _⟩
  constructor
  · intro field cell stands numeral name asked
    rcases Row.integer_eq_ok.mp (integers field) with ⟨same, found, read⟩
    cases stands.symm.trans found
    rcases numeral.exists_value with ⟨value, written, short⟩
    rw [written, readInteger_integerChars short] at read
    have held : game.integer field = value := (Except.ok.inj read).symm
    have few : (game.integer field).natAbs < tenTo digitLimit := held ▸ short
    have shown := displayNamed_of_integer asked few
    rw [shown, held, integerText, ← written]
    rfl
  · intro field cell stands numeral name asked
    rcases Row.score_eq_ok.mp (scores field) with ⟨same, found, read⟩
    cases stands.symm.trans found
    rw [displayNamed_of_score asked, fixedText, numeral.written read]
    rfl

/-- The cells of a row with extreme numbers, in the order of all fields. -/
def extremeRow : Row where
  headings := Field.all.map Field.column
  cells := ["Go", "188", "-0.00", "9999999999999.99", "258", "2", "2", " 30 ", "180", "-2200"]

/-- Minus zero and a score of nearly 10¹³ are shown as they are, and a time without the
blanks around it. -/
theorem extreme_numbers_shown :
    ∃ game, extremeRow.game 2 = .ok game ∧
      game.displayNamed (.word "average") = .ok "Go (-0.00)" ∧
      game.displayNamed (.known .difficulty) = .ok "Go (9999999999999.99)" ∧
      game.displayNamed (.known .minTime) = .ok "Go (30 min)" ∧
      game.displayNamed (.word " year") = .ok "Go (-2200)" := by
  have accepted : (extremeRow.game 2).toOption.isSome = true := by decide +kernel
  rcases Option.isSome_iff_exists.mp accepted with ⟨game, found⟩
  have made := Answer.toOption_eq_some.mp found
  have named : game.name = "Go" := by
    rcases Row.name_eq_ok.mp (Row.game_eq_ok.mp made).1 with ⟨cell, stands, _, same⟩
    cases Option.some.inj stands
    rw [same]
    decide
  rcases numbers_of_row_shown made with ⟨integers, scores⟩
  have rating := scores .rating "-0.00" rfl
    ⟨true, ['0'], '0', '0', rfl, by decide, by decide, by decide, by decide⟩
    (.word "average") (Or.inr (by decide))
  have difficulty := scores .difficulty "9999999999999.99" rfl
    ⟨false, "9999999999999".toList, '9', '9', rfl, by decide, by decide, by decide, by decide⟩
    (.known .difficulty) rfl
  have time := integers .minTime " 30 " rfl
    ⟨false, ['3', '0'], rfl, by decide, by decide, by decide⟩ (.known .minTime) rfl
  have year := integers .year "-2200" rfl
    ⟨true, ['2', '2', '0', '0'], rfl, by decide, by decide, by decide⟩
    (.word " year") (Or.inl (by decide))
  rw [named] at rating difficulty time year
  exact ⟨game, made, rating, difficulty, time, year⟩

/-! ### Games of a catalogue -/

/-- What has been read can be written, so that the game of a row can be shown with every
field. -/
theorem Row.writable_of_game {row : Row} {object : Nat} {game : Game} (made : row.game object = .ok game) :
    game.Writable := by
  intro field
  rcases Row.integer_eq_ok.mp ((Row.game_eq_ok.mp made).2.1 field) with ⟨cell, _, read⟩
  exact natAbs_lt_of_readInteger read

theorem writable_of_parse [Machine] {text source : String} {games : List Game}
    (loaded : (parse text source).value = .ok games) : ∀ game ∈ games, game.Writable := by
  rcases parse_eq_ok loaded with ⟨header, records, _, same, _⟩
  intro game member
  rw [same] at member
  rcases mem_gamesOf.mp member with ⟨record, _, made⟩
  exact Row.writable_of_game made

/-- The games of every catalogue that is loaded can be shown with every field. -/
theorem writable_of_loadFor [Machine] {surroundings : Surroundings} {wish : Wish} {timeout : Timeout}
    {games : List Game} (loaded : (loadFor surroundings wish timeout).value.games = .ok games) :
    ∀ game ∈ games, game.Writable := by
  rcases exists_parse_of_loadFor loaded with ⟨text, source, parsed⟩
  exact writable_of_parse parsed

end Catalogue

/-!
## The printed numbers of a sorted listing

Games are sorted by the exact values of a field, and shown with numbers that may be
rounded.  The printed numbers of a sorted listing are in order all the same.  Scores
that differ by less than a hundredth may be printed with the same number, and the two
zeros are printed differently but stand for one number.
-/

/-- What stands between a printed number of a field and the closing parenthesis. -/
def NumericField.printedUnit : NumericField → String
  | .integer field => timeUnit field
  | .score _ => ""

/-- A game is shown with a text that stands for a number, in parentheses behind its name. -/
def Game.PrintsAs (game : Game) (field : NumericField) (name : FieldName) (number : ExtendedNumber) : Prop :=
  ∃ text, numberOf? text = some number ∧
    game.displayNamed name = .ok (game.name ++ " (" ++ String.ofList text ++ field.printedUnit ++ ")")

/-- The number that a game is shown with. -/
def Game.printedNumber (game : Game) : NumericField → ExtendedNumber
  | .integer field => onLine (game.integer field)
  | .score field => printedScore 2 (game.score field)

section Listing

variable {field : NumericField} {name : FieldName} {game : Game}

theorem Game.printsAs_printedNumber (asked : name.AsksFor (.numeric field)) (writable : game.Writable)
    (number : game.key (.numeric field) ≠ .score .nan) :
    game.PrintsAs field name (game.printedNumber field) := by
  cases field with
  | integer field =>
      refine ⟨integerChars (game.integer field), numberOf?_integerChars _, ?_⟩
      exact displayNamed_of_integer asked (writable field)
  | score field =>
      have score : game.score field ≠ .nan := fun none => number (congrArg SortKey.score none)
      refine ⟨fixedChars 2 (game.score field), numberOf?_fixedChars (by omega) score, ?_⟩
      rw [NumericField.printedUnit, String.append_empty]
      exact displayNamed_of_score asked game

/-- Games are printed in the order of their keys. -/
theorem Game.printedNumber_le_printedNumber {other : Game}
    (ordered : (game.key (.numeric field)).atMost (other.key (.numeric field)) = true) :
    game.printedNumber field ≤ other.printedNumber field := by
  cases field with
  | integer field =>
      have less : game.integer field ≤ other.integer field := of_decide_eq_true ordered
      exact onLine_le_onLine.mpr (Int.cast_le.mpr less)
  | score field => exact printedScore_le_printedScore 2 ordered

namespace Planner

/-- The games that are sorted by a numeric field, none of which holds what is no number
there, are shown with numbers that do not fall, or that do not rise if the order is the
other one. -/
theorem listing_prints_in_order (asked : name.AsksFor (.numeric field)) (ascending : Bool) {games : List Game}
    (writable : ∀ game ∈ games, game.Writable)
    (numbers : ∀ game ∈ games, game.key (.numeric field) ≠ .score .nan) :
    ∃ printed : List ExtendedNumber,
      List.Forall₂ (fun game number => game.PrintsAs field name number)
        (arrange games name ascending).value printed ∧
      printed.Pairwise fun number later => if ascending then number ≤ later else later ≤ number := by
  have sorts := stablySorts_sortGames ascending numbers
  rw [arrange_of_asksFor asked]
  refine ⟨(sortGames games (.numeric field) ascending).map (·.printedNumber field), ?_, ?_⟩
  · apply List.forall₂_map_right_iff.mpr
    apply List.forall₂_same.mpr
    intro game member
    have listed := sorts.rearranged.mem_iff.mp member
    exact Game.printsAs_printedNumber asked (writable game listed) (numbers game listed)
  · apply List.pairwise_map.mpr
    apply sorts.ordered.imp
    intro game later ordered
    cases ascending with
    | true => exact Game.printedNumber_le_printedNumber ordered
    | false => exact Game.printedNumber_le_printedNumber ordered

end Planner

end Listing

/-- Ratings at both ends, two different ones that are printed alike, and both zeros. -/
def closeRatings : List (String × Double) :=
  [("Azul", .ofUnits true 0), ("Catan", .infinite true), ("Chess", .ofUnits false (twoTo 1071)),
    ("Go", .ofUnits false 0), ("Root", .infinite false), ("Risk", .ofUnits false (twoTo 1071 - 1)),
    ("Skull", .ofUnits true (twoTo 1071))]

def closelyRated : List Game :=
  closeRatings.map fun rated => { name := rated.1, rating := { value := rated.2 } }

namespace Planner

/-- An eighth is printed rounded to the even hundredth, and so is what lies just below it;
the zeros are printed differently.  The listing is in order for all that. -/
theorem close_ratings_print_in_order :
    (closelyRated.map fun game => game.displayNamed (.word " rating")) =
        [.ok "Azul (-0.00)", .ok "Catan (-inf)", .ok "Chess (0.12)", .ok "Go (0.00)", .ok "Root (inf)",
          .ok "Risk (0.12)", .ok "Skull (-0.12)"] ∧
      ∃ printed : List ExtendedNumber,
        List.Forall₂ (fun game number => game.PrintsAs (.score .rating) (.word " rating") number)
          (arrange closelyRated (.word " rating") true).value printed ∧
        printed.Pairwise (· ≤ ·) := by
  have asked : (FieldName.word " rating").AsksFor .rating := Or.inl (by decide)
  have writable : ∀ game ∈ closelyRated, game.Writable := by
    intro game member field
    rcases List.mem_map.mp member with ⟨rated, _, rfl⟩
    cases field <;> exact tenTo_pos digitLimit
  have rated : ∀ rated ∈ closeRatings, rated.2 ≠ .nan := by decide +kernel
  have numbers : ∀ game ∈ closelyRated, game.key .rating ≠ .score .nan := by
    intro game member none
    rcases List.mem_map.mp member with ⟨pair, listed, rfl⟩
    exact rated pair listed (SortKey.score.inj none)
  refine ⟨by decide +kernel, ?_⟩
  exact listing_prints_in_order asked true writable numbers

end Planner

end GameNight
