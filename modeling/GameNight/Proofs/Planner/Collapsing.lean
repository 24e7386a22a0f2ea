import GameNight.Planner
import GameNight.Proofs.Number.Range

namespace GameNight

open Number

/-!
# Catalogues without repetitions

A planner keeps the first of equal games, and so games that are told apart.
-/

/-!
## Games that are told apart

A planner keeps no two games that are the same.  Being the same goes both
ways, so that games which are told apart stay so in any order.
-/

theorem Number.Double.equals_comm (left right : Double) : left.equals right = right.equals left := by
  rw [Double.equals, Double.equals, Double.relates, Double.relates]
  cases left.place? <;> cases right.place? <;> simp only [Bool.beq_comm]

theorem Score.same_comm (score other : Score) : score.same other = other.same score := by
  rw [same, same, Bool.beq_comm, Double.equals_comm]

/-- Being the same game goes both ways. -/
theorem Game.same_comm (game other : Game) : game.same other = other.same game := by
  simp only [same, game.difficulty.same_comm, game.rating.same_comm,
    Bool.beq_comm (a := game.name), Bool.beq_comm (a := game.id),
    Bool.beq_comm (a := game.minPlayers), Bool.beq_comm (a := game.maxPlayers),
    Bool.beq_comm (a := game.minTime), Bool.beq_comm (a := game.maxTime),
    Bool.beq_comm (a := game.rank), Bool.beq_comm (a := game.year)]

/-- No two of the games are the same. -/
abbrev EachOnce (games : List Game) : Prop :=
  games.Pairwise fun game other => game.same other = false

/-- Games that are told apart are so in any order. -/
theorem EachOnce.perm {games others : List Game} (once : EachOnce games) (same : games.Perm others) :
    EachOnce others :=
  same.pairwise once fun {game other} different => by rwa [Game.same_comm]

/-- The games of a catalogue are told apart. -/
theorem eachOnce_distinctGames (games : List Game) : EachOnce (distinctGames games) := by
  induction games with
  | nil => exact List.Pairwise.nil
  | cons game rest inductionHypothesis =>
      rw [distinctGames]
      refine List.Pairwise.cons ?_ (inductionHypothesis.sublist List.filter_sublist)
      intro other member
      simpa using (List.mem_filter.mp member).2

/-- The same games have the same whole numbers. -/
theorem Game.integer_of_same {game other : Game} (same : game.same other = true)
    (field : IntegerField) : game.integer field = other.integer field := by
  simp only [Game.same, Bool.and_eq_true, beq_iff_eq] at same
  cases field <;> simp only [integer, same]

/-- Leaving out repetitions keeps whatever does not tell the same games apart. -/
theorem exists_mem_distinctGames {property : Game → Prop}
    (respects : ∀ {game other : Game}, game.same other = true → property other → property game)
    {games : List Game} (found : ∃ game ∈ games, property game) :
    ∃ game ∈ distinctGames games, property game := by
  induction games with
  | nil =>
      rcases found with ⟨game, member, _⟩
      cases member
  | cons first rest inductionHypothesis =>
      rw [distinctGames]
      by_cases here : property first
      · exact ⟨first, List.mem_cons_self, here⟩
      · have later : ∃ game ∈ rest, property game := by
          rcases found with ⟨game, member, holds⟩
          rcases List.mem_cons.mp member with same | later
          · exact absurd (same ▸ holds) here
          · exact ⟨game, later, holds⟩
        rcases inductionHypothesis later with ⟨game, member, holds⟩
        -- the first game cannot stand for this one, since it lacks the property
        have different : first.same game = false :=
          Bool.eq_false_iff.mpr fun same => here (respects same holds)
        refine ⟨game, List.mem_cons_of_mem first (List.mem_filter.mpr ⟨member, ?_⟩), holds⟩
        simp only [different, Bool.not_false]

/-- Leaving out repetitions adds no game and moves none. -/
theorem distinctGames_sublist (games : List Game) : (distinctGames games).Sublist games := by
  induction games with
  | nil => exact List.Sublist.refl _
  | cons game rest inductionHypothesis =>
      exact (List.filter_sublist.trans inductionHypothesis).cons_cons game

/-!
## A catalogue without repetitions

A planner is made from any list of games, which may hold one entry several times
and entries that are equal.  It keeps the first of the games that are equal, in the
order of the list, and leaves out nothing else.

Games are equal attribute by attribute, and scores are equal as objects or as values.
Values alone would not do: a score that is no number has no equal among them, not even
itself, and so neither would its game.  With the objects every entry equals itself, and
two entries may share a score that is no number.  So equality is an equivalence: it does
not matter which of the games that were kept an entry is compared with, and a catalogue
without repetitions stays as it is.
-/

/-! ### Equal games -/

theorem Number.Double.equals_trans {first second third : Double} (equal : first.equals second = true)
    (further : second.equals third = true) : first.equals third = true := by
  rcases Double.relates_eq_true.mp equal with ⟨place, between, atFirst, atSecond, same⟩
  rcases Double.relates_eq_true.mp further with ⟨again, last, alsoAtSecond, atThird, alsoSame⟩
  apply Double.relates_eq_true.mpr
  cases atSecond.symm.trans alsoAtSecond
  exact ⟨place, last, atFirst, atThird, beq_iff_eq.mpr ((eq_of_beq same).trans (eq_of_beq alsoSame))⟩

namespace Score

/-- Two scores are one object, or they have equal values.  As values the two zeros are
equal, and what is no number equals nothing. -/
def Equal (score other : Score) : Prop :=
  score = other ∨ score.value.equals other.value = true

theorem same_iff_equal {score other : Score} : score.same other = true ↔ score.Equal other := by
  rw [same, Equal, Bool.or_eq_true, beq_iff_eq]

/-- With the objects, equality of scores is an equivalence. -/
theorem equal_equivalence : Equivalence Score.Equal where
  refl _ := Or.inl rfl
  symm {score other} equal := by
    apply same_iff_equal.mp
    rw [same_comm]
    exact same_iff_equal.mpr equal
  trans {first second third} equal further := by
    rcases equal with rfl | values
    · exact further
    · rcases further with rfl | moreValues
      · exact Or.inr values
      · exact Or.inr (Double.equals_trans values moreValues)

end Score

/-- Two games are equal when they are so in every attribute. -/
structure Game.Equal (game other : Game) : Prop where
  name : game.name = other.name
  integers : ∀ field, game.integer field = other.integer field
  scores : ∀ field, (game.scored field).Equal (other.scored field)

namespace Game

theorem same_iff_equal {game other : Game} : game.same other = true ↔ game.Equal other := by
  unfold same
  simp only [Bool.and_eq_true, beq_iff_eq, Score.same_iff_equal]
  constructor
  · rintro ⟨⟨⟨⟨⟨⟨⟨⟨⟨name, id⟩, minPlayers⟩, maxPlayers⟩, minTime⟩, maxTime⟩, difficulty⟩, rank⟩,
      rating⟩, year⟩
    exact ⟨name, fun field => by cases field <;> assumption, fun field => by cases field <;> assumption⟩
  · rintro ⟨name, integers, scores⟩
    exact ⟨⟨⟨⟨⟨⟨⟨⟨⟨name, integers .id⟩, integers .minPlayers⟩, integers .maxPlayers⟩,
      integers .minTime⟩, integers .maxTime⟩, scores .difficulty⟩, integers .rank⟩, scores .rating⟩,
      integers .year⟩

instance (game other : Game) : Decidable (game.Equal other) :=
  decidable_of_iff (game.same other = true) same_iff_equal

/-- Games that are equal to one another can stand for one another. -/
theorem equal_equivalence : Equivalence Game.Equal where
  refl _ := ⟨rfl, fun _ => rfl, fun _ => Score.equal_equivalence.refl _⟩
  symm equal :=
    ⟨equal.name.symm, fun field => (equal.integers field).symm,
      fun field => Score.equal_equivalence.symm (equal.scores field)⟩
  trans equal further :=
    ⟨equal.name.trans further.name, fun field => (equal.integers field).trans (further.integers field),
      fun field => Score.equal_equivalence.trans (equal.scores field) (further.scores field)⟩

end Game

/-! ### The first of equal games -/

/-- Whether a game at a place of a list is equal to none that stands before it. -/
def IsFirst (games : List Game) (placed : Game × Nat) : Prop :=
  ∀ earlier ∈ games.take placed.2, ¬earlier.Equal placed.1

instance (games : List Game) : DecidablePred (IsFirst games) := fun placed =>
  inferInstanceAs (Decidable (∀ earlier ∈ games.take placed.2, ¬earlier.Equal placed.1))

/-- The games that are equal to none before them, in the order of the list. -/
def firstOnes (games : List Game) : List Game :=
  (games.zipIdx.filter fun placed => decide (IsFirst games placed)).map Prod.fst

/-- Behind another game, a game is a first one if it was one and is not equal to that. -/
theorem isFirst_cons (game : Game) (rest : List Game) (other : Game) (place : Nat) :
    IsFirst (game :: rest) (other, place + 1) ↔ ¬game.Equal other ∧ IsFirst rest (other, place) := by
  unfold IsFirst
  rw [List.take_succ_cons, List.forall_mem_cons]

theorem firstOnes_cons (game : Game) (rest : List Game) :
    firstOnes (game :: rest) = game :: (firstOnes rest).filter fun other => decide (¬game.Equal other) := by
  have first : decide (IsFirst (game :: rest) (game, 0)) = true :=
    decide_eq_true fun earlier member => absurd member List.not_mem_nil
  unfold firstOnes
  rw [List.zipIdx_cons, List.filter_cons, if_pos first, List.map_cons, Nat.zero_add,
    List.zipIdx_succ, List.filter_map, List.map_map, List.filter_map, List.filter_filter]
  congr 2
  apply List.filter_congr
  intro placed _
  simp only [Function.comp_apply, isFirst_cons, Bool.decide_and]

theorem distinctGames_eq_firstOnes (games : List Game) : distinctGames games = firstOnes games := by
  induction games with
  | nil => rfl
  | cons game rest inductionHypothesis =>
      rw [distinctGames, firstOnes_cons, inductionHypothesis]
      congr 1
      apply List.filter_congr
      intro other _
      rw [Bool.eq_iff_iff, Bool.not_eq_true', decide_eq_true_eq, ← Game.same_iff_equal,
        Bool.not_eq_true]

/-- Games that are told apart already are all kept. -/
theorem distinctGames_of_eachOnce {games : List Game} (once : EachOnce games) :
    distinctGames games = games := by
  induction games with
  | nil => rfl
  | cons game rest inductionHypothesis =>
      have apart := List.pairwise_cons.mp once
      rw [distinctGames, inductionHypothesis apart.2]
      congr 1
      apply List.filter_eq_self.mpr
      intro other member
      rw [apart.1 other member]
      rfl

namespace Planner

/-- Of entries that share a rating which is no number the first is kept, also where the
others differ in the sign of a zero.  Another such rating tells an entry apart. -/
example : (create [{ name := "Go", rating := ⟨.nan, 1⟩, difficulty := ⟨.ofUnits false 0, 1⟩ },
      { name := "Go", rating := ⟨.nan, 2⟩ },
      { name := "Go", rating := ⟨.nan, 1⟩, difficulty := ⟨.ofUnits true 0, 2⟩ }]).value.games =
    [{ name := "Go", rating := ⟨.nan, 1⟩, difficulty := ⟨.ofUnits false 0, 1⟩ },
      { name := "Go", rating := ⟨.nan, 2⟩ }] := by
  decide +kernel

end Planner

end GameNight
