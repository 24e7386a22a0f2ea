import GameNight.Proofs.Clause.Evaluation
import GameNight.Proofs.Game.Order
import GameNight.Proofs.Number.Whole
import GameNight.Proofs.Planner.Failure
import Mathlib.Data.List.Perm.Basic

namespace GameNight

open Text Number

/-!
# Comparisons over all games

What the clauses that compare one field with one value keep: one end of the games when
they are sorted by this field, the whole numbers that the value stands for, and every game
once if the three that exclude one another are taken together.
-/

/-!
## Clauses that cut a sorted list

A clause that compares a field with a number cuts the list of games that is sorted
by this field: what it keeps stands at one end.  Sorting looks at the whole numbers
themselves and comparing at their doubles, but rounding keeps the order, so that
the two never disagree.  Numbers that become the same double are kept or rejected
together, wherever they stand among each other.

A game for which the field is too large to be compared is excluded, since the
clause fails on it, and so is one that holds no number there, since it is sorted
as a zero and compared as nothing.
-/

/-- Whether a game holds a number in a field that can be compared. -/
def Game.HasNumber (game : Game) (field : NumericField) : Prop :=
  ∃ held, game.value field = .ok held ∧ held ≠ .nan

theorem Game.value_integer_eq_ok {game : Game} {whole : IntegerField} {held : Double} :
    game.value (.integer whole) = .ok held ↔ Double.ofInteger? (game.integer whole) = some held := by
  rw [value]
  cases Double.ofInteger? (game.integer whole) <;> simp

/-- A game holds a number in a score that is one, and in a whole number that is small
enough. -/
theorem Game.hasNumber_iff (game : Game) (field : NumericField) :
    game.HasNumber field ↔
      (∀ score, field = .score score → game.score score ≠ .nan) ∧
        ∀ whole, field = .integer whole → (game.integer whole).natAbs < tooLargeFrom := by
  cases field with
  | score score =>
      simp only [NumericField.score.injEq, forall_eq', reduceCtorEq, false_implies, implies_true, and_true]
      constructor
      · rintro ⟨held, holds, number⟩
        cases holds
        exact number
      · exact fun number => ⟨game.score score, rfl, number⟩
  | integer whole =>
      simp only [NumericField.integer.injEq, forall_eq', reduceCtorEq, false_implies, implies_true, true_and,
        ← Nat.not_le, ← Double.ofInteger?_eq_none]
      constructor
      · rintro ⟨held, holds, _⟩ none
        rw [value_integer_eq_ok.mp holds] at none
        cases none
      · intro some
        rcases Option.ne_none_iff_exists'.mp some with ⟨held, near⟩
        refine ⟨held, value_integer_eq_ok.mpr near, ?_⟩
        rintro rfl
        cases Double.place?_of_ofInteger? near

/-- A clause that compares a field with a number. -/
def threshold (field : NumericField) (comparison : Comparison) (value : String) : String :=
  field.token ++ comparison.token ++ value

namespace Comparison

/-- Whether a comparison bounds its left side from above. -/
def boundsAbove : Comparison → Bool
  | .less | .lessOrEqual => true
  | _ => false

/-- Whether a comparison bounds its left side from below. -/
def boundsBelow : Comparison → Bool
  | .greater | .greaterOrEqual => true
  | _ => false

/-- What is bounded from above stays so when it becomes smaller. -/
theorem holdsForNumbers_of_atMost {comparison : Comparison} (bounds : comparison.boundsAbove = true)
    {smaller left right : Double} (less : smaller.atMost left = true)
    (holds : comparison.holdsForNumbers left right = true) :
    comparison.holdsForNumbers smaller right = true := by
  cases comparison with
  | less => exact Double.below_of_atMost_of_below less holds
  | lessOrEqual => exact Double.atMost_trans less holds
  | equals | notEquals | greater | greaterOrEqual => cases bounds

/-- What is bounded from below stays so when it becomes larger. -/
theorem holdsForNumbers_of_atLeast {comparison : Comparison} (bounds : comparison.boundsBelow = true)
    {left larger right : Double} (less : left.atMost larger = true)
    (holds : comparison.holdsForNumbers left right = true) :
    comparison.holdsForNumbers larger right = true := by
  cases comparison with
  | greater => exact Double.below_of_below_of_atMost holds less
  | greaterOrEqual => exact Double.atMost_trans holds less
  | equals | notEquals | less | lessOrEqual => cases bounds

end Comparison

/-- Games that are sorted by a field hold doubles in the same order there. -/
theorem Game.atMost_of_inOrder {field : NumericField} {a b : Game} {held other : Double}
    (heldByA : a.value field = .ok held) (heldByB : b.value field = .ok other) (number : held ≠ .nan)
    (otherNumber : other ≠ .nan) (ordered : (Field.numeric field).inOrder a b = true) :
    held.atMost other = true := by
  cases field with
  | score score =>
      simp only [Game.value, Except.ok.injEq] at heldByA heldByB
      subst heldByA heldByB
      rw [Double.atMost_eq_sortKey number otherNumber]
      exact ordered
  | integer whole =>
      exact Double.atMost_of_ofInteger? (of_decide_eq_true ordered) (value_integer_eq_ok.mp heldByA)
        (value_integer_eq_ok.mp heldByB)

/-! ### Reading a threshold -/

/-- A threshold whose value is read as a double is an active clause that compares the
field with this double. -/
theorem reading_threshold (field : NumericField) (comparison : Comparison) {value : String}
    {number : Double} (read : readDouble? value.toList = some number) :
    (Clause.ofString (threshold field comparison value)).reading =
      .ok (.ofNumber field comparison (String.ofList (trim value.toList)) number) :=
  Clause.reading_numeric (.inl rfl) comparison read

/-- A threshold lets the games pass whose number compares as it says. -/
theorem admits_threshold {field : NumericField} {comparison : Comparison} {value : String}
    {number held : Double} (read : readDouble? value.toList = some number) {game : Game}
    (holds : game.value field = .ok held) :
    (Clause.ofString (threshold field comparison value)).admits game =
      comparison.holdsForNumbers held number := by
  apply Clause.admits_of_outcome
  exact Clause.outcome_of_number (reading_threshold field comparison read) holds

/-- A threshold does not fail on games that hold numbers in its field. -/
theorem keep_threshold {field : NumericField} (comparison : Comparison) {value : String}
    {number : Double} (read : readDouble? value.toList = some number) {games : List Game}
    (numbers : ∀ game ∈ games, game.HasNumber field) :
    (Clause.ofString (threshold field comparison value)).keep games =
      .ok (games.filter (Clause.ofString (threshold field comparison value)).admits) := by
  refine Clause.keep_of_reaching fun game member => ?_
  rcases numbers game member with ⟨held, holds, _⟩
  exact Clause.not_overreaches_of_ok (Clause.outcome_of_number (reading_threshold field comparison read) holds)

section Cut

variable {field : NumericField} {comparison : Comparison} {value : String} {number : Double} {a b : Game}

/-- A threshold from above that lets a game pass lets those before it pass, too. -/
theorem admits_of_inOrder (read : readDouble? value.toList = some number)
    (bounds : comparison.boundsAbove = true) (numberOfA : a.HasNumber field) (numberOfB : b.HasNumber field)
    (ordered : (Field.numeric field).inOrder a b = true)
    (admitted : (Clause.ofString (threshold field comparison value)).admits b = true) :
    (Clause.ofString (threshold field comparison value)).admits a = true := by
  rcases numberOfA with ⟨held, heldByA, isNumber⟩
  rcases numberOfB with ⟨other, heldByB, otherIsNumber⟩
  rw [admits_threshold read heldByB] at admitted
  rw [admits_threshold read heldByA]
  exact Comparison.holdsForNumbers_of_atMost bounds
    (Game.atMost_of_inOrder heldByA heldByB isNumber otherIsNumber ordered) admitted

/-- A threshold from below that lets a game pass lets those behind it pass, too. -/
theorem admits_of_inOrder_behind (read : readDouble? value.toList = some number)
    (bounds : comparison.boundsBelow = true) (numberOfA : a.HasNumber field) (numberOfB : b.HasNumber field)
    (ordered : (Field.numeric field).inOrder a b = true)
    (admitted : (Clause.ofString (threshold field comparison value)).admits a = true) :
    (Clause.ofString (threshold field comparison value)).admits b = true := by
  rcases numberOfA with ⟨held, heldByA, isNumber⟩
  rcases numberOfB with ⟨other, heldByB, otherIsNumber⟩
  rw [admits_threshold read heldByA] at admitted
  rw [admits_threshold read heldByB]
  exact Comparison.holdsForNumbers_of_atLeast bounds
    (Game.atMost_of_inOrder heldByA heldByB isNumber otherIsNumber ordered) admitted

end Cut

/-- A threshold keeps the games whose number compares as it says, and so it cuts a
list that is sorted by its field.  What a bound from above keeps stands at the front
of the games that are sorted upwards and at the end of those that are sorted
downwards, in the order that it has there, and what a bound from below keeps stands
at the other ends. -/
theorem threshold_cuts_sorted (games : List Game) (field : NumericField) (comparison : Comparison)
    (value : String) (number : Double) (read : readDouble? value.toList = some number)
    (numbers : ∀ game ∈ games, game.HasNumber field) :
    ∃ kept, (Clause.parse (threshold field comparison value)).value.keep games = .ok kept ∧
      (∀ game ∈ games, ∀ held, game.value field = .ok held →
        (game ∈ kept ↔ comparison.holdsForNumbers held number = true)) ∧
      (comparison.boundsAbove = true →
        sortGames kept (.numeric field) true <+: sortGames games (.numeric field) true ∧
          sortGames kept (.numeric field) false <:+ sortGames games (.numeric field) false) ∧
      (comparison.boundsBelow = true →
        sortGames kept (.numeric field) true <:+ sortGames games (.numeric field) true ∧
          sortGames kept (.numeric field) false <+: sortGames games (.numeric field) false) := by
  have numbersIn {ascending : Bool} {game : Game}
      (member : game ∈ sortGames games (.numeric field) ascending) : game.HasNumber field :=
    numbers game ((sortGames_perm games (.numeric field) ascending).mem_iff.mp member)
  refine ⟨_, keep_threshold comparison read numbers, fun game member held holds => ?members,
    fun bounds => ?above, fun bounds => ?below⟩
  case members =>
    rw [List.mem_filter, admits_threshold read holds]
    exact and_iff_right member
  case above =>
    rw [← filter_sortGames, ← filter_sortGames]
    constructor
    · refine filter_isPrefix_of_sorted (sorted_sortGames games (.numeric field) true) ?_
      exact fun a memberA b memberB => admits_of_inOrder read bounds (numbersIn memberA) (numbersIn memberB)
    · refine filter_isSuffix_of_sorted (sorted_sortGames games (.numeric field) false) ?_
      exact fun a memberA b memberB => admits_of_inOrder read bounds (numbersIn memberB) (numbersIn memberA)
  case below =>
    rw [← filter_sortGames, ← filter_sortGames]
    constructor
    · refine filter_isSuffix_of_sorted (sorted_sortGames games (.numeric field) true) ?_
      exact fun a memberA b memberB =>
        admits_of_inOrder_behind read bounds (numbersIn memberA) (numbersIn memberB)
    · refine filter_isPrefix_of_sorted (sorted_sortGames games (.numeric field) false) ?_
      exact fun a memberA b memberB =>
        admits_of_inOrder_behind read bounds (numbersIn memberB) (numbersIn memberA)

/-- Three games, two of which have ranks that become the same double. -/
def closeRanks : List Game :=
  [9007199254740993, 1, 9007199254740992].map fun rank => { name := "Go", rank := rank }

/-- A game whose rank becomes the same double as a smaller bound is kept, and what is
kept nevertheless stands at the front. -/
theorem close_ranks_cut_sorted :
    ∃ number, readDouble? "9007199254740992".toList = some number ∧
      (∀ game ∈ closeRanks, game.HasNumber (.integer .rank)) ∧
      ∃ kept, (Clause.parse (threshold (.integer .rank) .lessOrEqual "9007199254740992")).value.keep
          closeRanks = .ok kept ∧
        { name := "Go", rank := 9007199254740993 } ∈ kept ∧
        sortGames kept (.numeric (.integer .rank)) true <+:
          sortGames closeRanks (.numeric (.integer .rank)) true := by
  have read : readDouble? "9007199254740992".toList = some (.nearest false 9007199254740992 1) := by
    decide +kernel
  have rounded : Double.ofInteger? 9007199254740993 = some (.nearest false 9007199254740992 1) := by
    decide +kernel
  have numbers : ∀ game ∈ closeRanks, game.HasNumber (.integer .rank) := by
    have small : ∀ game ∈ closeRanks, (game.integer .rank).natAbs < tooLargeFrom := by decide +kernel
    refine fun game member => (game.hasNumber_iff _).mpr ⟨nofun, fun whole isRank => ?_⟩
    cases isRank
    exact small game member
  refine ⟨_, read, numbers, ?_⟩
  rcases threshold_cuts_sorted closeRanks (.integer .rank) .lessOrEqual "9007199254740992" _ read numbers with
    ⟨kept, returned, members, above, _⟩
  have among : { name := "Go", rank := 9007199254740993 } ∈ kept :=
    (members _ List.mem_cons_self _ (Game.value_integer_eq_ok.mpr rounded)).mpr (by decide +kernel)
  exact ⟨kept, returned, among, (above rfl).1⟩

/-!
## Whole numbers in clauses

A clause that compares an integer field with a whole number compares two doubles: the
one that the number of the game is rounded to, and the one that the decimal form in
the clause is read as.  Up to 2⁵³ these have the places of the numbers, so that the
clause says what is true of the numbers.  Beyond, two numbers may share a double, but
a number always shares it with itself.
-/

namespace Comparison

/-- A common factor does not change how two numbers compare. -/
theorem holds_mul_iff (comparison : Comparison) {left right factor : Int} (positive : 0 < factor) :
    comparison.Holds (left * factor) (right * factor) ↔ comparison.Holds left right := by
  have same : left * factor = right * factor ↔ left = right :=
    Int.mul_eq_mul_right_iff (Int.ne_of_gt positive)
  cases comparison with
  | equals => exact same
  | notEquals => exact not_congr same
  | greater => exact Int.mul_lt_mul_right positive
  | less => exact Int.mul_lt_mul_right positive
  | greaterOrEqual => exact Int.mul_le_mul_right positive
  | lessOrEqual => exact Int.mul_le_mul_right positive

theorem holds_self {comparison : Comparison} (reflexive : comparison ∈ [equals, greaterOrEqual, lessOrEqual])
    (value : Int) : comparison.Holds value value := by
  cases comparison with
  | equals => exact rfl
  | greaterOrEqual | lessOrEqual => exact Int.le_refl value
  | notEquals | greater | less => exact absurd reflexive (by decide)

end Comparison

/-- A clause that compares an integer field with a whole number. -/
def wholeClause (field : IntegerField) (comparison : Comparison) (number : Int) : String :=
  threshold (.integer field) comparison (integerText number)

/-- What the clause says follows from the doubles of the two numbers. -/
theorem outcome_wholeClause {field : IntegerField} {number : Int} {game : Game} {held other : Double}
    (comparison : Comparison) (near : Double.ofInteger? (game.integer field) = some held)
    (otherNear : Double.ofInteger? number = some other) :
    (Clause.ofString (wholeClause field comparison number)).outcome game =
      .ok (.ofBool (comparison.holdsForNumbers held other)) := by
  have read : readDouble? (integerText number).toList = some other := by
    rw [integerText, String.toList_ofList]
    exact readDouble?_of_ofInteger? otherNear
  exact Clause.outcome_of_number (reading_threshold (.integer field) comparison read)
    (Game.value_integer_eq_ok.mpr near)

/-- A clause that compares an integer field with a whole number says what is true of
the two numbers, as long as neither is larger than 2⁵³.  A number that can be compared
at all is found by itself. -/
theorem whole_clauses_exact (field : IntegerField) (game : Game) :
    (∀ comparison number, (game.integer field).natAbs ≤ twoTo 53 → number.natAbs ≤ twoTo 53 →
      (Clause.parse (wholeClause field comparison number)).value.outcome game =
        .ok (.ofBool (decide (comparison.Holds (game.integer field) number)))) ∧
    ((game.integer field).natAbs < twoTo 1024 - twoTo 970 →
      ∀ comparison ∈ [Comparison.equals, .greaterOrEqual, .lessOrEqual],
        (Clause.parse (wholeClause field comparison (game.integer field))).value.outcome game =
          .ok .matched) := by
  constructor
  · intro comparison number small otherSmall
    rcases Double.exists_ofInteger? (lt_tooLargeFrom_of_small small) with ⟨held, near⟩
    rcases Double.exists_ofInteger? (lt_tooLargeFrom_of_small otherSmall) with ⟨other, otherNear⟩
    have unit : (0 : Int) < twoTo 1074 := Int.natCast_pos.mpr (twoTo_pos 1074)
    have agrees : comparison.holdsForNumbers held other =
        decide (comparison.Holds (game.integer field) number) := by
      rw [comparison.holdsForNumbers_eq (Double.place?_of_small small near)
        (Double.place?_of_small otherSmall otherNear), decide_eq_decide]
      exact comparison.holds_mul_iff unit
    rw [← agrees]
    exact outcome_wholeClause comparison near otherNear
  · intro bounded comparison reflexive
    rcases Double.exists_ofInteger? bounded with ⟨held, near⟩
    have found : comparison.holdsForNumbers held held = true := by
      rw [comparison.holdsForNumbers_eq (Double.place?_of_ofInteger? near) (Double.place?_of_ofInteger? near)]
      exact decide_eq_true (Comparison.holds_self reflexive _)
    have answer := outcome_wholeClause comparison near near
    rwa [found] at answer

/-- A game with a number just below 2⁵³ and one that no double has. -/
def largeNumbersGame : Game :=
  { name := "Go", id := 9007199254740991, rank := 9007199254740993 }

/-- Below 2⁵³ neighbours are told apart, and beyond it a number still finds itself. -/
theorem large_numbers_found :
    (largeNumbersGame.integer .id).natAbs ≤ twoTo 53 ∧ (9007199254740992 : Int).natAbs ≤ twoTo 53 ∧
      (Clause.parse "id<9007199254740992").value.outcome largeNumbersGame = .ok .matched ∧
      (Clause.parse "id>=9007199254740992").value.outcome largeNumbersGame = .ok .notMatched ∧
      (largeNumbersGame.integer .rank).natAbs < twoTo 1024 - twoTo 970 ∧
      (Clause.parse "rank==9007199254740993").value.outcome largeNumbersGame = .ok .matched := by
  have small : (largeNumbersGame.integer .id).natAbs ≤ twoTo 53 := by decide +kernel
  have limit : (9007199254740992 : Int).natAbs ≤ twoTo 53 := by decide +kernel
  have bounded : (largeNumbersGame.integer .rank).natAbs < twoTo 1024 - twoTo 970 := by decide +kernel
  have less : wholeClause .id .less 9007199254740992 = "id<9007199254740992" := by decide +kernel
  have reached : wholeClause .id .greaterOrEqual 9007199254740992 = "id>=9007199254740992" := by decide +kernel
  have same : wholeClause .rank .equals 9007199254740993 = "rank==9007199254740993" := by decide +kernel
  refine ⟨small, limit, ?_, ?_, bounded, ?_⟩
  · rw [← less, (whole_clauses_exact .id largeNumbersGame).1 .less _ small limit]
    rfl
  · rw [← reached, (whole_clauses_exact .id largeNumbersGame).1 .greaterOrEqual _ small limit]
    rfl
  · rw [← same]
    exact (whole_clauses_exact .rank largeNumbersGame).2 bounded .equals List.mem_cons_self

/-!
## Comparisons partition the games

Of a name or a number and a value exactly one is true: the one is less, the two are
equal, or the one is greater.  So the clauses that compare a field with a value by
these three keep every game once, and the other three comparisons keep what two of
these keep, or what one does not.

What stands behind is an order of the keys, of texts in small letters or of places on
the line.  That each clause is read with the operator it was written with, whatever
the value, is what lets the six be compared at all.
-/

/-- What makes the games that six comparisons keep a partition: less, equal and
greater keep different games and together all of them, and the other three keep of
the games those that these three decide. -/
structure Partitions (games : List Game) (kept : Comparison → List Game) : Prop where
  less_equals : (kept .less).Disjoint (kept .equals)
  less_greater : (kept .less).Disjoint (kept .greater)
  equals_greater : (kept .equals).Disjoint (kept .greater)
  together : (kept .less ++ (kept .equals ++ kept .greater)).Perm games
  lessOrEqual : kept .lessOrEqual = games.filter fun game => game ∈ kept .less ∨ game ∈ kept .equals
  greaterOrEqual : kept .greaterOrEqual = games.filter fun game => game ∈ kept .equals ∨ game ∈ kept .greater
  notEquals : kept .notEquals = games.filter fun game => game ∉ kept .equals

section Keys

variable {Key : Type} [LinearOrder Key]

/-- The games whose keys compare with a bound. -/
def comparedBy (games : List Game) (key : Game → Key) (bound : Key) (comparison : Comparison) : List Game :=
  games.filter fun game => comparison.Holds (key game) bound

theorem mem_comparedBy {games : List Game} {key : Game → Key} {bound : Key} {comparison : Comparison}
    {game : Game} :
    game ∈ comparedBy games key bound comparison ↔ game ∈ games ∧ comparison.Holds (key game) bound := by
  rw [comparedBy, List.mem_filter, decide_eq_true_eq]

section OneGame

variable {games : List Game} {key : Game → Key} {bound : Key} {game : Game}

theorem mem_comparedBy_of_mem {comparison : Comparison} (member : game ∈ games) :
    game ∈ comparedBy games key bound comparison ↔ comparison.Holds (key game) bound := by
  rw [mem_comparedBy, and_iff_right member]

theorem comparedBy_cons_of_holds (comparison : Comparison) (holds : comparison.Holds (key game) bound)
    (rest : List Game) :
    comparedBy (game :: rest) key bound comparison = game :: comparedBy rest key bound comparison :=
  List.filter_cons_of_pos (decide_eq_true holds)

theorem comparedBy_cons_of_not {comparison : Comparison} (fails : ¬comparison.Holds (key game) bound)
    (rest : List Game) :
    comparedBy (game :: rest) key bound comparison = comparedBy rest key bound comparison :=
  List.filter_cons_of_neg fun holds => fails (of_decide_eq_true holds)

end OneGame

/-- Two comparisons that exclude each other keep different games. -/
theorem comparedBy_disjoint {games : List Game} {key : Game → Key} {bound : Key} {first second : Comparison}
    (excluded : ∀ left right : Key, first.Holds left right → ¬second.Holds left right) :
    (comparedBy games key bound first).Disjoint (comparedBy games key bound second) := by
  intro game inFirst inSecond
  exact excluded _ _ (mem_comparedBy.mp inFirst).2 (mem_comparedBy.mp inSecond).2

/-- Less, equal and greater together keep every game once. -/
theorem comparedBy_together (games : List Game) (key : Game → Key) (bound : Key) :
    (comparedBy games key bound .less ++
      (comparedBy games key bound .equals ++ comparedBy games key bound .greater)).Perm games := by
  induction games with
  | nil => exact List.Perm.refl []
  | cons game rest inductionHypothesis =>
      have kept := inductionHypothesis.cons game
      -- the first game goes to the one comparison that holds of it, and is moved to the front
      rcases lt_trichotomy (key game) bound with less | same | greater
      · rw [comparedBy_cons_of_holds .less less,
          comparedBy_cons_of_not (Comparison.not_equals_of_less _ _ less),
          comparedBy_cons_of_not (Comparison.not_greater_of_less _ _ less)]
        exact kept
      · rw [comparedBy_cons_of_not fun less => Comparison.not_equals_of_less _ _ less same,
          comparedBy_cons_of_holds .equals same,
          comparedBy_cons_of_not (Comparison.not_greater_of_equals _ _ same)]
        exact List.perm_middle.trans kept
      · rw [comparedBy_cons_of_not fun less => Comparison.not_greater_of_less _ _ less greater,
          comparedBy_cons_of_not fun same => Comparison.not_greater_of_equals _ _ same greater,
          comparedBy_cons_of_holds .greater greater, ← List.append_assoc]
        refine List.perm_middle.trans ?_
        rwa [List.append_assoc]

/-- An order of the keys partitions the games. -/
theorem partitions_comparedBy (games : List Game) (key : Game → Key) (bound : Key) :
    Partitions games (comparedBy games key bound) where
  less_equals := comparedBy_disjoint Comparison.not_equals_of_less
  less_greater := comparedBy_disjoint Comparison.not_greater_of_less
  equals_greater := comparedBy_disjoint Comparison.not_greater_of_equals
  together := comparedBy_together games key bound
  lessOrEqual := by
    apply List.filter_congr
    intro game member
    rw [decide_eq_decide, mem_comparedBy_of_mem member, mem_comparedBy_of_mem member]
    exact le_iff_lt_or_eq
  greaterOrEqual := by
    apply List.filter_congr
    intro game member
    rw [decide_eq_decide, mem_comparedBy_of_mem member, mem_comparedBy_of_mem member]
    exact le_iff_eq_or_lt.trans (or_congr_left eq_comm)
  notEquals := by
    apply List.filter_congr
    intro game member
    rw [decide_eq_decide, mem_comparedBy_of_mem member]
    exact Iff.rfl

/-- A clause that says of every game how its key compares with a bound keeps the games
for which this is so. -/
theorem keep_eq_comparedBy {clause : Clause} {games : List Game} {key : Game → Key} {bound : Key}
    {comparison : Comparison}
    (answers : ∀ game ∈ games,
      clause.outcome game = .ok (.ofBool (decide (comparison.Holds (key game) bound)))) :
    clause.keep games = .ok (comparedBy games key bound comparison) := by
  have reaching : ∀ game ∈ games, ¬clause.Overreaches game := fun game member =>
    Clause.not_overreaches_of_ok (answers game member)
  have admits : ∀ game ∈ games, clause.admits game = decide (comparison.Holds (key game) bound) :=
    fun game member => Clause.admits_of_outcome (answers game member)
  rw [Clause.keep_of_reaching reaching, comparedBy, List.filter_congr admits]

end Keys

/-! ### The clauses of a field and a value -/

/-- Whether what a game holds in a field stands to a value as a comparison says. -/
def Field.Compares (field : Field) (comparison : Comparison) (value : String) (game : Game) : Prop :=
  match field with
  | .name => comparison.Holds (lower game.name) (lower value)
  | .numeric field => ∃ held number place bound, game.value field = .ok held ∧ held.place? = some place ∧
      readDouble? value.toList = some number ∧ number.place? = some bound ∧ comparison.Holds place bound

theorem Field.compares_numeric {field : NumericField} {comparison : Comparison} {value : String} {game : Game}
    {held number : Double} {place bound : Int} (holds : game.value field = .ok held)
    (atPlace : held.place? = some place) (read : readDouble? value.toList = some number)
    (atBound : number.place? = some bound) :
    (Field.numeric field).Compares comparison value game ↔ comparison.Holds place bound := by
  constructor
  · rintro ⟨_, _, _, _, alsoHolds, alsoAtPlace, alsoRead, alsoAtBound, compares⟩
    cases holds.symm.trans alsoHolds
    cases read.symm.trans alsoRead
    cases atPlace.symm.trans alsoAtPlace
    cases atBound.symm.trans alsoAtBound
    exact compares
  · exact fun compares => ⟨held, number, place, bound, holds, atPlace, read, atBound, compares⟩

/-- The place of the number that a game holds in a field. -/
def Game.placeIn (field : NumericField) (game : Game) : Int :=
  match game.value field with
  | .ok held => held.sortKey
  | .error _ => 0

section Clauses

variable {word value : String}

theorem outcome_comparing_name (named : word = Field.name.token ∨ word = Field.name.column)
    (unmarked : Unmarked value.toList) (filled : value ≠ "") (trimmed : strip value = value)
    (comparison : Comparison) (game : Game) :
    (Clause.ofString (word ++ comparison.token ++ value)).outcome game =
      .ok (.ofBool (decide (comparison.Holds (lower game.name) (lower value)))) := by
  have understood := Clause.reading_name named (.compare comparison) unmarked filled trimmed
  rw [← Comparison.holdsForTexts_eq]
  exact Clause.outcome_of_name understood

theorem outcome_comparing_number {field : NumericField} {number held : Double} {place bound : Int}
    (named : word = (Field.numeric field).token ∨ word = (Field.numeric field).column)
    (read : readDouble? value.toList = some number) (atBound : number.place? = some bound)
    (comparison : Comparison) {game : Game} (holds : game.value field = .ok held)
    (atPlace : held.place? = some place) :
    (Clause.ofString (word ++ comparison.token ++ value)).outcome game =
      .ok (.ofBool (decide (comparison.Holds place bound))) := by
  rw [← comparison.holdsForNumbers_eq atPlace atBound]
  exact Clause.outcome_of_number (Clause.reading_numeric named comparison read) holds

theorem Game.HasNumber.placed {field : NumericField} {game : Game} (number : game.HasNumber field) :
    ∃ held, game.value field = .ok held ∧ held.place? = some (game.placeIn field) := by
  rcases number with ⟨held, holds, isNumber⟩
  rcases Double.exists_place isNumber with ⟨place, atPlace⟩
  refine ⟨held, holds, ?_⟩
  rw [placeIn, holds]
  simp only [Double.sortKey, atPlace, Option.getD_some]

/-- The six clauses that compare a field with a value partition any list of games, in
which they keep those that compare as they say.  For the name the value may be any
text that holds no mark of a token; for a number it is read as one, and the games
hold numbers that can be compared. -/
theorem comparisons_partition (games : List Game) (field : Field) (word value : String)
    (named : word = field.token ∨ word = field.column) (unmarked : Unmarked value.toList)
    (filled : value ≠ "") (trimmed : strip value = value)
    (numbers : ∀ numeric, field = .numeric numeric →
      (∃ number, readDouble? value.toList = some number ∧ number ≠ .nan) ∧
        ∀ game ∈ games, game.HasNumber numeric) :
    ∃ kept : Comparison → List Game,
      (∀ comparison : Comparison,
        (Clause.parse (word ++ comparison.token ++ value)).value.keep games = .ok (kept comparison)) ∧
      Partitions games kept ∧
      ∀ comparison game,
        game ∈ kept comparison ↔ game ∈ games ∧ field.Compares comparison value game := by
  cases field with
  | name =>
      refine ⟨comparedBy games (fun game => lower game.name) (lower value), fun comparison => ?_,
        partitions_comparedBy _ _ _, fun comparison game => mem_comparedBy⟩
      apply keep_eq_comparedBy
      exact fun game _ => outcome_comparing_name named unmarked filled trimmed comparison game
  | numeric field =>
      rcases numbers field rfl with ⟨⟨number, read, isNumber⟩, comparable⟩
      rcases Double.exists_place isNumber with ⟨bound, atBound⟩
      refine ⟨comparedBy games (Game.placeIn field) bound, fun comparison => ?_,
        partitions_comparedBy _ _ _, fun comparison game => ?_⟩
      · apply keep_eq_comparedBy
        intro game member
        rcases (comparable game member).placed with ⟨held, holds, atPlace⟩
        exact outcome_comparing_number named read atBound comparison holds atPlace
      · rw [mem_comparedBy]
        refine and_congr_right fun member => ?_
        rcases (comparable game member).placed with ⟨held, holds, atPlace⟩
        exact (Field.compares_numeric holds atPlace read atBound).symm

end Clauses

/-- Three games, rated by a zero and by the two infinities. -/
def extremeRatings : List Game :=
  [{ name := "Go", rating := { value := .ofUnits false 0 } },
    { name := "Chess", rating := { value := .infinite false } },
    { name := "Catan", rating := { value := .infinite true } }]

/-- The two zeros are equal, and the infinities stand at the two ends. -/
theorem extreme_ratings_partitioned :
    Unmarked "-0".toList ∧ "-0" ≠ "" ∧ strip "-0" = "-0" ∧
      readDouble? "-0".toList = some (.ofUnits true 0) ∧
      (∀ game ∈ extremeRatings, game.HasNumber (.score .rating)) ∧
      ∃ less equal greater,
        (Clause.parse "average<-0").value.keep extremeRatings = .ok less ∧
        (Clause.parse "average==-0").value.keep extremeRatings = .ok equal ∧
        (Clause.parse "average>-0").value.keep extremeRatings = .ok greater ∧
        (less ++ (equal ++ greater)).Perm extremeRatings ∧
        { name := "Catan", rating := { value := .infinite true } } ∈ less ∧
        { name := "Go", rating := { value := .ofUnits false 0 } } ∈ equal ∧
        { name := "Chess", rating := { value := .infinite false } } ∈ greater := by
  have read : readDouble? "-0".toList = some (.ofUnits true 0) := by decide +kernel
  have atBound : (Double.ofUnits true 0).place? = some 0 := by decide +kernel
  have numbers : ∀ game ∈ extremeRatings, game.HasNumber (.score .rating) := by
    have rated : ∀ game ∈ extremeRatings, game.rating.value ≠ .nan := by decide +kernel
    exact fun game member => ⟨game.rating.value, rfl, rated game member⟩
  have comparable : ∀ numeric, Field.rating = .numeric numeric →
      (∃ number, readDouble? "-0".toList = some number ∧ number ≠ .nan) ∧
        ∀ game ∈ extremeRatings, game.HasNumber numeric := by
    rintro numeric ⟨⟩
    exact ⟨⟨_, read, by decide +kernel⟩, numbers⟩
  rcases comparisons_partition extremeRatings .rating "average" "-0" (.inr rfl) (by decide) (by decide)
    (by decide) comparable with ⟨kept, returned, partitioned, members⟩
  refine ⟨by decide, by decide, by decide, read, numbers, kept .less, kept .equals, kept .greater,
    returned .less, returned .equals, returned .greater, partitioned.together, ?_, ?_, ?_⟩
  · have place : (Double.infinite true).place? = some (-(infinityUnits : Int)) := rfl
    refine (members .less _).mpr ⟨by decide +kernel, ?_⟩
    exact (Field.compares_numeric rfl place read atBound).mpr (by decide +kernel)
  · have place :
        (Game.score { name := "Go", rating := { value := .ofUnits false 0 } } .rating).place? = some 0 := by
      decide +kernel
    refine (members .equals _).mpr ⟨by decide +kernel, ?_⟩
    exact (Field.compares_numeric rfl place read atBound).mpr rfl
  · have place : (Double.infinite false).place? = some (infinityUnits : Int) := rfl
    refine (members .greater _).mpr ⟨by decide +kernel, ?_⟩
    exact (Field.compares_numeric rfl place read atBound).mpr (by decide +kernel)

end GameNight
