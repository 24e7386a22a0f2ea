import GameNight.Proofs.Catalogue.Entries
import GameNight.Proofs.Game.Order
import GameNight.Proofs.Number.Range
import GameNight.Proofs.Planner.History

namespace GameNight

open Text Number Journal

/-!
# Filters that fail, and filters before sorting

When a filter fails, and that filtering and sorting may change places.
-/

/-!
## When a filter fails

A clause fails on a game when it compares one of its whole numbers and that
number is too large for a double.  Clauses are evaluated one after another,
each for all games that the ones before it have left, so that an expression
fails when some clause fails on a game that has passed the clauses before it.

Nothing else can go wrong.  The queries of a planner all return, whatever is
asked and whatever was asked before, exactly when all whole numbers of its
games are small enough.
-/

/-- Whether all whole numbers of a game are small enough to be compared. -/
def Game.Comparable (game : Game) : Prop :=
  ∀ field, (game.integer field).natAbs < tooLargeFrom

theorem Game.value_eq_error (game : Game) (field : NumericField) (fault : TooLarge) :
    game.value field = .error fault ↔
      ∃ whole, field = .integer whole ∧ tooLargeFrom ≤ (game.integer whole).natAbs := by
  cases field with
  | score field => simp [Game.value]
  | integer whole =>
      simp only [Game.value, NumericField.integer.injEq, exists_eq_left', ← Double.ofInteger?_eq_none]
      cases fault
      cases Double.ofInteger? (game.integer whole) <;> simp

namespace Clause

/-- A clause overreaches on a game when it compares a whole number of the game
that is too large for a double. -/
def Overreaches (clause : Clause) (game : Game) : Prop :=
  ∃ field comparison value number,
    clause.reading = .ok (.ofNumber (.integer field) comparison value number) ∧
      tooLargeFrom ≤ (game.integer field).natAbs

/-- A clause fails on the games on which it overreaches, and on no others. -/
theorem outcome_eq_error (clause : Clause) (game : Game) (fault : TooLarge) :
    clause.outcome game = .error fault ↔ clause.Overreaches game := by
  rw [outcome, Overreaches]
  cases clause.reading with
  | error reason => simp
  | ok test =>
      cases test with
      | ofName operator value => simp [Answer.map_eq_error, Test.holds]
      | ofNumber field comparison value number =>
          simp [Answer.map_eq_error, Test.holds, Game.value_eq_error]

theorem not_overreaches_of_ok {clause : Clause} {game : Game} {outcome : Outcome}
    (evaluated : clause.outcome game = .ok outcome) : ¬clause.Overreaches game := by
  intro overreaches
  rw [(outcome_eq_error clause game .forDouble).mpr overreaches] at evaluated
  cases evaluated

theorem keep_eq_error (clause : Clause) (games : List Game) (fault : TooLarge) :
    clause.keep games = .error fault ↔ ∃ game ∈ games, clause.Overreaches game := by
  induction games with
  | nil => simp [keep]
  | cons game rest inductionHypothesis =>
      simp only [List.mem_cons, exists_eq_or_imp]
      rw [keep, ← outcome_eq_error clause game fault, ← inductionHypothesis]
      cases clause.outcome game with
      | error reason => simp
      | ok outcome => simp [Answer.map_eq_error]

/-- A clause that overreaches on none of the games keeps those that it does not
reject. -/
theorem keep_of_reaching {clause : Clause} {games : List Game}
    (reaching : ∀ game ∈ games, ¬clause.Overreaches game) :
    clause.keep games = .ok (games.filter clause.admits) := by
  cases answer : clause.keep games with
  | ok kept => rw [keep_eq_ok answer]
  | error fault =>
      rcases (keep_eq_error clause games fault).mp answer with ⟨game, member, overreaches⟩
      exact absurd overreaches (reaching game member)

end Clause

/-- Whether some of the clauses overreaches on a game that has passed the ones
before it. -/
def Stumbles (clauses : List Clause) (game : Game) : Prop :=
  ∃ before clause after, clauses = before ++ clause :: after ∧
    (∀ earlier ∈ before, earlier.admits game = true) ∧ clause.Overreaches game

theorem stumbles_nil (game : Game) : ¬Stumbles [] game := by
  rintro ⟨before, clause, after, parts, _⟩
  exact List.append_ne_nil_of_right_ne_nil before (List.cons_ne_nil clause after) parts.symm

theorem stumbles_cons (clause : Clause) (rest : List Clause) (game : Game) :
    Stumbles (clause :: rest) game ↔
      clause.Overreaches game ∨ clause.admits game = true ∧ Stumbles rest game := by
  constructor
  · rintro ⟨before, culprit, after, parts, passed, overreaches⟩
    cases before with
    | nil =>
        rw [List.nil_append, List.cons.injEq] at parts
        exact Or.inl (parts.1 ▸ overreaches)
    | cons first others =>
        rw [List.cons_append, List.cons.injEq] at parts
        refine Or.inr ⟨parts.1 ▸ passed first List.mem_cons_self, others, culprit, after, parts.2, ?_,
          overreaches⟩
        exact fun earlier member => passed earlier (List.mem_cons_of_mem first member)
  · rintro (overreaches | ⟨admitted, before, culprit, after, parts, passed, overreaches⟩)
    · exact ⟨[], clause, rest, rfl, fun _ member => absurd member List.not_mem_nil, overreaches⟩
    · refine ⟨clause :: before, culprit, after, by rw [parts, List.cons_append], ?_, overreaches⟩
      exact List.forall_mem_cons.mpr ⟨admitted, passed⟩

/-- Clauses one after another fail exactly when they stumble on one of the
games. -/
theorem keepAll_eq_error (games : List Game) (clauses : List Clause) (fault : TooLarge) :
    keepAll games clauses = .error fault ↔ ∃ game ∈ games, Stumbles clauses game := by
  induction clauses generalizing games with
  | nil => simp [keepAll, stumbles_nil]
  | cons clause rest inductionHypothesis =>
      rw [keepAll]
      simp only [stumbles_cons]
      cases kept : clause.keep games with
      | error reason =>
          rcases (clause.keep_eq_error games reason).mp kept with ⟨game, member, overreaches⟩
          cases reason
          cases fault
          exact iff_of_true rfl ⟨game, member, Or.inl overreaches⟩
      | ok left =>
          have reaching : ∀ game ∈ games, ¬clause.Overreaches game := by
            intro game member overreaches
            have failed := (clause.keep_eq_error games fault).mpr ⟨game, member, overreaches⟩
            rw [kept] at failed
            cases failed
          simp only [inductionHypothesis, Clause.keep_eq_ok kept, List.mem_filter]
          constructor
          · rintro ⟨game, ⟨member, admitted⟩, stumbles⟩
            exact ⟨game, member, Or.inr ⟨admitted, stumbles⟩⟩
          · rintro ⟨game, member, overreaches | ⟨admitted, stumbles⟩⟩
            · exact absurd overreaches (reaching game member)
            · exact ⟨game, ⟨member, admitted⟩, stumbles⟩

/-- Where all numbers are small enough, no clause stumbles. -/
theorem Game.Comparable.not_stumbles {game : Game} (comparable : game.Comparable)
    (clauses : List Clause) : ¬Stumbles clauses game := by
  rintro ⟨_, _, _, _, _, field, _, _, _, _, large⟩
  exact Nat.not_lt_of_ge large (comparable field)

namespace Planner

/-- A filter fails exactly when its expression stumbles on one of the games that
are left. -/
theorem filter_eq_error (planner : Planner) (expression : Option String) (name : FieldName)
    (ascending : Bool) (fault : TooLarge) :
    (planner.filter expression name ascending).value.1 = .error fault ↔
      ∃ game ∈ planner.current, Stumbles (clausesOf expression).value game := by
  simp only [filter, narrow, Logged.value_andThen]
  by_cases blank : (clausesOf expression).value.isEmpty
  · simp [List.isEmpty_iff.mp blank, stumbles_nil]
  · simp only [blank, Bool.false_eq_true, if_false, ← keepAll_eq_error _ _ fault]
    cases keepAll planner.current (clausesOf expression).value <;> simp

end Planner

/-! ### Queries that always return -/

/-- A clause that compares a field with zero. -/
def IntegerField.probe (field : IntegerField) : String :=
  field.token ++ ">0"

theorem clausesOf_probe (field : IntegerField) :
    (clausesOf (some field.probe)).value = [Clause.ofString field.probe] := by
  cases field <;> rfl

theorem overreaches_probe {game : Game} {field : IntegerField}
    (large : tooLargeFrom ≤ (game.integer field).natAbs) :
    (Clause.ofString field.probe).Overreaches game := by
  have understood : (Clause.ofString field.probe).reading =
      .ok (.ofNumber (.integer field) .greater "0" .zero) :=
    Answer.toOption_eq_some.mp (by cases field <;> decide +kernel)
  exact ⟨field, .greater, "0", .zero, understood, large⟩

/-- A clause returns for any of the games whose whole numbers are small enough. -/
theorem Clause.keep_returns {games others : List Game} (comparable : ∀ game ∈ games, game.Comparable)
    (among : others ⊆ games) (clause : Clause) : ∃ kept, clause.keep others = .ok kept := by
  cases answer : clause.keep others with
  | ok kept => exact ⟨kept, rfl⟩
  | error fault =>
      rcases (keep_eq_error clause others fault).mp answer with ⟨game, member, field, _, _, _, _, large⟩
      exact absurd (comparable game (among member) field) (Nat.not_lt_of_ge large)

namespace Planner

/-- A planner whose games have small enough whole numbers answers every filter, whatever
was called before. -/
theorem filter_returns {games : List Game} (comparable : ∀ game ∈ games, game.Comparable)
    (calls : List Call) (expression : Option String) (name : FieldName) (ascending : Bool) :
    ∃ listed, (((ofGames games).afterAll calls).filter expression name ascending).value.1 = .ok listed := by
  cases answer : (((ofGames games).afterAll calls).filter expression name ascending).value.1 with
  | ok listed => exact ⟨listed, rfl⟩
  | error fault =>
      rcases (filter_eq_error _ expression name ascending fault).mp answer with ⟨game, left, stumbles⟩
      rw [(reflects_ofGames games calls).current] at left
      have member : game ∈ games := (distinctGames_sublist games).subset (List.filter_sublist.subset left)
      exact absurd stumbles ((comparable game member).not_stumbles _)

/-- A whole number that is too large stops the filter that compares it with zero. -/
theorem filter_probe_fails {games : List Game} {game : Game} {field : IntegerField}
    (member : game ∈ games) (large : tooLargeFrom ≤ (game.integer field).natAbs) :
    ((ofGames games).filter (some field.probe) (.known .name) true).value.1 = .error .forDouble := by
  -- the catalogue may hold the same game instead of this one
  have found : ∃ other ∈ distinctGames games, tooLargeFrom ≤ (other.integer field).natAbs := by
    apply exists_mem_distinctGames
    · intro other same alike stillLarge
      exact Game.integer_of_same alike field ▸ stillLarge
    · exact ⟨game, member, large⟩
  rcases found with ⟨other, left, alsoLarge⟩
  have stumbles : Stumbles (clausesOf (some field.probe)).value other := by
    rw [clausesOf_probe, stumbles_cons]
    exact Or.inl (overreaches_probe alsoLarge)
  exact (filter_eq_error _ _ _ _ _).mpr ⟨other, left, stumbles⟩

/-- After any calls, a filter fails exactly when its expression stumbles on one of
the games that are left.  All filters return, and likewise all single clauses
on any of the games, exactly when all whole numbers of the games are small
enough. -/
theorem queries_return_iff (games : List Game) :
    (∀ calls expression name ascending fault,
      let planner := (ofGames games).afterAll calls
      (planner.filter expression name ascending).value.1 = .error fault ↔
        ∃ game ∈ planner.current, Stumbles (clausesOf expression).value game) ∧
    ((∀ calls expression name ascending, ∃ listed,
        (((ofGames games).afterAll calls).filter expression name ascending).value.1 = .ok listed) ↔
      ∀ game ∈ games, game.Comparable) ∧
    ((∀ text others, others ⊆ games → ∃ kept, (Clause.parse text).value.keep others = .ok kept) ↔
      ∀ game ∈ games, game.Comparable) := by
  refine ⟨fun calls expression name ascending fault => filter_eq_error _ expression name ascending fault,
    ⟨?filters, filter_returns⟩,
    ⟨?clauses, fun comparable text others among => Clause.keep_returns comparable among _⟩⟩
  case filters =>
    intro returns game member field
    refine Nat.lt_of_not_le fun large => ?_
    rcases returns [] (some field.probe) (.known .name) true with ⟨listed, returned⟩
    rw [afterAll, List.foldl_nil, filter_probe_fails member large] at returned
    cases returned
  case clauses =>
    intro returns game member field
    refine Nat.lt_of_not_le fun large => ?_
    have failed := (Clause.keep_eq_error (Clause.ofString field.probe) games .forDouble).mpr
      ⟨game, member, overreaches_probe large⟩
    rcases returns field.probe games (List.Subset.refl games) with ⟨kept, returned⟩
    rw [Clause.parse, failed] at returned
    cases returned

end Planner

/-! ### A catalogue on which filters fail -/

/-- A number of three hundred and ten digits. -/
def largeRank : List Char :=
  '1' :: List.replicate 309 '0'

/-- The cells of a game with this number as its rank. -/
def largeRankRow : Catalogue.Row where
  headings := Field.all.map Field.column
  cells := ["Go", "1", "1", "1", String.ofList largeRank, "1", "1", "1", "1", "1"]

def largeRankGame : Game where
  name := "Go"
  id := 1
  rating := ⟨.nearest false 1 1, 2⟩
  difficulty := ⟨.nearest false 1 1, 2⟩
  rank := tenTo 309
  minPlayers := 1
  maxPlayers := 1
  minTime := 1
  maxTime := 1
  year := 1

/-- The line of a catalogue with these cells. -/
def largeRankLine : List Char :=
  "Go,1,1,1,".toList ++ largeRank ++ ",1,1,1,1,1".toList

theorem rank_largeRankRow : largeRankRow.integer .rank = .ok (tenTo 309) := by
  have found : Catalogue.cellUnder Field.rank.column largeRankRow.headings largeRankRow.cells =
      some (String.ofList largeRank) := rfl
  have digits : largeRankRow.text Field.rank = .ok (trim largeRank) := by
    -- the long text is not computed as a string, but taken as the list of its digits
    simp only [Catalogue.Row.text, found, String.toList_ofList]
  rw [Catalogue.Row.integer, digits]
  exact Answer.toOption_eq_some.mp (by decide +kernel)

theorem game_largeRankRow : largeRankRow.game 2 = .ok largeRankGame := by
  refine Catalogue.Row.game_eq_ok.mpr ⟨rfl, fun field => ?_, fun field => ?_, fun field => ?_⟩
  · cases field
    case rank => exact rank_largeRankRow
    all_goals rfl
  · cases field <;> exact Answer.toOption_eq_some.mp (by decide +kernel)
  · cases field <;> rfl

theorem parse_largeRankLine [Machine] :
    (Catalogue.parse (Catalogue.textWith true Catalogue.plainHeader [largeRankLine])
      "<string>").value = .ok [largeRankGame] := by
  have reading : Table.readLines .start 1 (physicalLines (textOfLines true [largeRankLine])) =
      ⟨[⟨largeRankRow.cells, 2⟩], none⟩ := by
    decide +kernel
  have kept : Catalogue.filledRecords [⟨largeRankRow.cells, 2⟩] = [⟨largeRankRow.cells, 2⟩] := rfl
  have read : Catalogue.gameOf largeRankRow.headings ⟨largeRankRow.cells, 2⟩ = .ok largeRankGame :=
    game_largeRankRow
  have single : Catalogue.gamesOf largeRankRow.headings [⟨largeRankRow.cells, 2⟩] =
      [largeRankGame] := by
    rw [Catalogue.gamesOf, kept]
    exact List.filterMap_cons_some (Answer.toOption_eq_some.mpr read)
  rw [Catalogue.textWith, Catalogue.isHeader_plainHeader.value_parse, reading]
  exact congrArg Except.ok single

namespace Planner

section

attribute [local instance] Machine.usual

/-- A catalogue with a rank of three hundred and ten digits can be loaded, and no
filter by rank returns. -/
theorem large_rank_stops_filter :
    ∃ game,
      (Catalogue.parse (Catalogue.textWith true Catalogue.plainHeader [largeRankLine])
        "<string>").value = .ok [game] ∧
      ((ofGames [game]).filter (some "rank>0") (.known .name) true).value.1 = .error .forDouble := by
  refine ⟨largeRankGame, parse_largeRankLine,
    (filter_eq_error _ _ _ _ _).mpr ⟨largeRankGame, List.mem_singleton_self largeRankGame, ?_⟩⟩
  have probed : (clausesOf (some "rank>0")).value = [Clause.ofString (IntegerField.probe .rank)] :=
    clausesOf_probe .rank
  have large : tooLargeFrom ≤ (largeRankGame.integer .rank).natAbs := by decide +kernel
  rw [probed, stumbles_cons]
  exact Or.inl (overreaches_probe large)

end

end Planner

/-!
## Filtering and arranging commute

A clause may keep games before or after they are arranged: the list is the same, the
games with equal keys included, since a clause leaves the games in their order and
sorting those of one key in theirs.  A clause that fails on one of the games does so
either way.

For scores that are no number this rests on the convention of `Double.sortKey`.  A sort
that goes by comparisons alone would leave such games where they hold the others up, and
nothing is said of it here.
-/

namespace Planner

/-- Arranging neither adds nor drops games. -/
theorem arrange_perm (games : List Game) (name : FieldName) (ascending : Bool) :
    (arrange games name ascending).value.Perm games := by
  rw [arrange]
  cases name.resolve with
  | ok field => exact sortGames_perm games field ascending
  | error fault => exact List.Perm.refl games

theorem filter_arrange (games : List Game) (name : FieldName) (ascending : Bool) (kept : Game → Bool) :
    (arrange games name ascending).value.filter kept =
      (arrange (games.filter kept) name ascending).value := by
  rw [arrange, arrange]
  cases name.resolve with
  | ok field => exact filter_sortGames games field ascending kept
  | error fault => rfl

end Planner

namespace Clause

theorem outcome_returns_iff (clause : Clause) (game : Game) :
    (∃ outcome, clause.outcome game = .ok outcome) ↔ ¬clause.Overreaches game := by
  constructor
  · rintro ⟨outcome, evaluated⟩
    exact not_overreaches_of_ok evaluated
  · intro reaching
    cases evaluated : clause.outcome game with
    | ok outcome => exact ⟨outcome, rfl⟩
    | error fault => exact absurd ((outcome_eq_error clause game fault).mp evaluated) reaching

/-- Keeping games and arranging them commute, whether the clause fails or not.  It
keeps games exactly when it fails on none of them.  Where the games are arranged by a
score that is no number for some of them, this is a fact about the convention that puts
these at zero. -/
theorem keep_arrange (clause : Clause) (games : List Game) (name : FieldName) (ascending : Bool) :
    clause.keep (Planner.arrange games name ascending).value =
        (clause.keep games).map (fun kept => (Planner.arrange kept name ascending).value) ∧
      ((∃ kept, clause.keep games = .ok kept) ↔
        ∀ game ∈ games, ∃ outcome, clause.outcome game = .ok outcome) := by
  have same := Planner.arrange_perm games name ascending
  simp only [outcome_returns_iff]
  by_cases reaching : ∀ game ∈ games, ¬clause.Overreaches game
  · have reachingThere : ∀ game ∈ (Planner.arrange games name ascending).value, ¬clause.Overreaches game :=
      fun game member => reaching game (same.mem_iff.mp member)
    rw [keep_of_reaching reachingThere, keep_of_reaching reaching, Planner.filter_arrange]
    exact ⟨rfl, iff_of_true ⟨_, rfl⟩ reaching⟩
  · have stumble : ∃ game ∈ games, clause.Overreaches game := by
      simpa only [not_forall, not_not, exists_prop] using reaching
    rcases stumble with ⟨game, member, overreaches⟩
    have failed : clause.keep games = .error .forDouble :=
      (keep_eq_error clause games .forDouble).mpr ⟨game, member, overreaches⟩
    have failedThere : clause.keep (Planner.arrange games name ascending).value = .error .forDouble :=
      (keep_eq_error clause _ .forDouble).mpr ⟨game, same.mem_iff.mpr member, overreaches⟩
    rw [failed, failedThere]
    exact ⟨rfl, iff_of_false nofun reaching⟩

end Clause

end GameNight
