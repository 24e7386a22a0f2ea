import GameNight.Planner
import GameNight.Program
import GameNight.Proofs.Planner.Collapsing
import GameNight.Proofs.Text.Letters
import GameNight.Proofs.Text.Lines

namespace GameNight

open Text Journal

/-!
# What filters leave

What is left of the games after one clause, after several that are joined, and after any
calls to filter and to reset.
-/

/-!
## What narrowing leaves

A clause that can be evaluated for every game leaves the games that it does
not reject, in order, and so do clauses one after another.  The evaluation of
a later clause only meets the games that the earlier ones have left, so the
failure of a clause on a game that has been rejected before is never seen;
what is left is nevertheless decided by all clauses alike, since a rejected
game satisfies not all of them.

An active clause lets exactly those games pass that it matches, and an inert
one lets every game pass.
-/

namespace Clause

/-- A clause is active when it was understood. -/
def Active (clause : Clause) : Prop :=
  clause.reading.isOk = true

instance (clause : Clause) : Decidable clause.Active :=
  inferInstanceAs (Decidable (clause.reading.isOk = true))

/-- A clause matches a game when evaluating it says so. -/
def Matches (clause : Clause) (game : Game) : Prop :=
  clause.outcome game = .ok .matched

instance (clause : Clause) (game : Game) : Decidable (clause.Matches game) :=
  decidable_of_iff ((clause.outcome game).toOption = some .matched) Answer.toOption_eq_some

/-- Whether a clause can be evaluated for a game and does not reject it. -/
def admits (clause : Clause) (game : Game) : Bool :=
  match clause.outcome game with
  | .ok outcome => outcome.passes
  | .error _ => false

theorem admits_iff (clause : Clause) (game : Game) :
    clause.admits game = true ↔ (clause.Active → clause.Matches game) := by
  cases understood : clause.reading with
  | error reason =>
      have inert : ¬ clause.Active := by simp [Active, understood, Except.isOk, Except.toBool]
      simp [admits, inert, outcome, understood, Outcome.passes]
  | ok test =>
      have active : clause.Active := by simp [Active, understood, Except.isOk, Except.toBool]
      simp only [admits, Matches, outcome, understood, active, forall_const]
      cases test.holds game with
      | error fault => simp [Except.map]
      | ok holds => cases holds <;> simp [Except.map, Outcome.ofBool, Outcome.passes]

theorem keep_eq_ok {clause : Clause} {games kept : List Game} (returned : clause.keep games = .ok kept) :
    kept = games.filter clause.admits := by
  induction games generalizing kept with
  | nil => simpa [keep] using returned.symm
  | cons game rest inductionHypothesis =>
      rw [keep] at returned
      cases evaluated : clause.outcome game with
      | error fault => simp [evaluated] at returned
      | ok outcome =>
          simp only [evaluated] at returned
          rcases Answer.map_eq_ok.mp returned with ⟨keptOthers, others, rfl⟩
          rw [inductionHypothesis others, List.filter_cons]
          simp only [admits, evaluated]

end Clause

theorem keepAll_eq_ok {games kept : List Game} {clauses : List Clause}
    (returned : keepAll games clauses = .ok kept) :
    kept = games.filter fun game => clauses.all fun clause => clause.admits game := by
  induction clauses generalizing games with
  | nil =>
      rw [keepAll, Except.ok.injEq] at returned
      rw [← returned]
      exact (List.filter_eq_self.mpr fun _ _ => rfl).symm
  | cons clause rest inductionHypothesis =>
      rw [keepAll] at returned
      cases first : clause.keep games with
      | error fault => simp [first] at returned
      | ok left =>
          rw [first] at returned
          rw [inductionHypothesis returned, Clause.keep_eq_ok first, List.filter_filter]
          simp only [List.all_cons, Bool.and_comm]

namespace Planner

/-- Whether a game passes every clause of an expression. -/
def admitted (expression : Option String) (game : Game) : Bool :=
  (clausesOf expression).value.all fun clause => clause.admits game

/-- A filter that returns leaves the games of before that pass its expression,
and does not touch the catalogue. -/
theorem filter_returned {planner left : Planner} {expression : Option String} {name : FieldName}
    {ascending : Bool} {listed : List Game}
    (returned : (planner.filter expression name ascending).value = (.ok listed, left)) :
    left = { planner with current := planner.current.filter (admitted expression) } := by
  simp only [filter, narrow, Logged.value_andThen] at returned
  by_cases blank : (clausesOf expression).value.isEmpty
  · have none : (clausesOf expression).value = [] := List.isEmpty_iff.mp blank
    simp only [none, List.isEmpty_nil, if_true, Logged.value_quiet, Logged.value_andThen,
      Prod.mk.injEq] at returned
    have all : planner.current.filter (admitted expression) = planner.current :=
      List.filter_eq_self.mpr fun game _ => by rw [admitted, none, List.all_nil]
    rw [← returned.2, all]
  · simp only [blank, Bool.false_eq_true, if_false] at returned
    cases kept : keepAll planner.current (clausesOf expression).value with
    | error fault => simp [kept] at returned
    | ok games =>
        simp only [kept, Logged.value_andThen, Logged.value_quiet, Prod.mk.injEq] at returned
        rw [← returned.2, keepAll_eq_ok kept]
        rfl

theorem filter_failed {planner left : Planner} {expression : Option String} {name : FieldName}
    {ascending : Bool} {fault : TooLarge}
    (failed : (planner.filter expression name ascending).value = (.error fault, left)) :
    left = planner := by
  simp only [filter, Logged.value_andThen] at failed
  cases narrowed : (planner.narrow expression).value with
  | error reason =>
      simp only [narrowed, Logged.value_quiet, Prod.mk.injEq] at failed
      exact failed.2.symm
  | ok other => simp [narrowed] at failed

theorem filter_listed {planner left : Planner} {expression : Option String} {field : Field}
    {ascending : Bool} {listed : List Game}
    (returned : (planner.filter expression (.known field) ascending).value = (.ok listed, left)) :
    listed = sortGames left.current field ascending := by
  simp only [filter, Logged.value_andThen] at returned
  cases narrowed : (planner.narrow expression).value with
  | error fault => simp [narrowed] at returned
  | ok other =>
      simp only [narrowed, arrange, FieldName.resolve, Logged.value_andThen, Logged.value_quiet,
        Prod.mk.injEq, Except.ok.injEq] at returned
      rw [← returned.1, returned.2]

/-- A blank expression narrows nothing and cannot fail. -/
theorem filter_blank (planner : Planner) (name : FieldName) (ascending : Bool) :
    (planner.filter (some "") name ascending).value =
      (.ok (arrange planner.current name ascending).value, planner) := by
  rfl

/-- Which games a filter leaves, and whether it returns, does not depend on
how they are to be sorted. -/
theorem filter_sorting (planner : Planner) (expression : Option String) (name otherName : FieldName)
    (ascending otherAscending : Bool) :
    (planner.filter expression name ascending).value.2 =
        (planner.filter expression otherName otherAscending).value.2 ∧
      (planner.filter expression name ascending).value.1.isOk =
        (planner.filter expression otherName otherAscending).value.1.isOk := by
  simp only [filter, Logged.value_andThen]
  cases (planner.narrow expression).value with
  | error fault => exact ⟨rfl, rfl⟩
  | ok narrowed => exact ⟨rfl, rfl⟩

end Planner

/-!
## Filters joined by commas

A comma between two expressions stands for filtering by the one and then by
the other.  The clauses of the joined expression are those of the two, one
after another, whatever the two expressions hold themselves.

Only a blank expression is read in two ways.  Alone it has no clauses, and
beside a comma it is a clause of its own, which is inert.  Neither removes a
game, and neither can fail.
-/

/-- The clauses between the commas of an expression.  A blank expression has one
of them, too. -/
def clausesBetweenCommas (expression : String) : List Clause :=
  (splitOn ',' expression.toList).map fun piece => Clause.ofString (String.ofList piece)

theorem clausesBetweenCommas_joined (first second : String) :
    clausesBetweenCommas (first ++ "," ++ second) =
      clausesBetweenCommas first ++ clausesBetweenCommas second := by
  have chars : (first ++ "," ++ second).toList = first.toList ++ ',' :: second.toList := by simp
  rw [clausesBetweenCommas, chars, splitOn_append_cons, List.map_append]
  rfl

/-- Reading clauses one after another reads each of them. -/
theorem value_mapM_parse (pieces : List (List Char)) :
    (pieces.mapM fun piece => Clause.parse (String.ofList piece)).value =
      pieces.map fun piece => Clause.ofString (String.ofList piece) := by
  have collected (read : List Clause) :
      (List.mapM.loop (fun piece => Clause.parse (String.ofList piece)) pieces read).value =
        read.reverse ++ pieces.map fun piece => Clause.ofString (String.ofList piece) := by
    induction pieces generalizing read with
    | nil => simp [List.mapM.loop]
    | cons piece rest inductionHypothesis =>
        rw [List.mapM.loop, Logged.value_bind, inductionHypothesis]
        simp [Clause.parse]
  exact collected []

theorem clausesOf_of_blank {expression : String} (blank : trim expression.toList = []) :
    (clausesOf (some expression)).value = [] := by
  simp only [clausesOf, Option.getD_some, blank, List.isEmpty_nil, if_true, Logged.value_pure]

theorem clausesOf_of_filled {expression : String} (filled : trim expression.toList ≠ []) :
    (clausesOf (some expression)).value = clausesBetweenCommas expression := by
  have shown : (trim expression.toList).isEmpty = false := List.isEmpty_eq_false_iff.mpr filled
  simp only [clausesOf, Option.getD_some, shown, Bool.false_eq_true, if_false]
  exact value_mapM_parse _

/-- A blank expression beside a comma is one inert clause. -/
theorem clausesBetweenCommas_of_blank {expression : String} (blank : trim expression.toList = []) :
    clausesBetweenCommas expression = [⟨"", .error .noOperator⟩] := by
  have apart : ',' ∉ expression.toList := by
    intro member
    have isBlank := trim_eq_nil.mp blank ',' member
    revert isBlank
    decide
  have inert : Test.ofChars [] = .error .noOperator := rfl
  rw [clausesBetweenCommas, splitOn_of_not_mem apart, List.map_singleton, Clause.ofString, strip,
    String.toList_ofList, blank, inert]

/-! ### Clauses one after another -/

theorem Clause.keep_of_inert {clause : Clause} {reason : Inert} (inert : clause.reading = .error reason)
    (games : List Game) : clause.keep games = .ok games := by
  induction games with
  | nil => rfl
  | cons game rest inductionHypothesis =>
      simp [keep, outcome, inert, inductionHypothesis, Except.map, Outcome.passes]

theorem keepAll_append (games : List Game) (clauses others : List Clause) :
    keepAll games (clauses ++ others) = (keepAll games clauses).bind fun kept => keepAll kept others := by
  induction clauses generalizing games with
  | nil => rfl
  | cons clause rest inductionHypothesis =>
      rw [List.cons_append, keepAll, keepAll]
      cases clause.keep games with
      | error fault => rfl
      | ok kept => exact inductionHypothesis kept

/-- Whether a blank expression counts as no clause or as an inert one makes no
difference to the games. -/
theorem keepAll_clausesOf (games : List Game) (expression : String) :
    keepAll games (clausesOf (some expression)).value = keepAll games (clausesBetweenCommas expression) := by
  by_cases blank : trim expression.toList = []
  · have kept : Clause.keep ⟨"", .error .noOperator⟩ games = .ok games := Clause.keep_of_inert rfl games
    simp only [clausesOf_of_blank blank, clausesBetweenCommas_of_blank blank, keepAll, kept]
  · rw [clausesOf_of_filled blank]

theorem keepAll_joined (games : List Game) (first second : String) :
    keepAll games (clausesOf (some (first ++ "," ++ second))).value =
      (keepAll games (clausesOf (some first)).value).bind fun kept =>
        keepAll kept (clausesOf (some second)).value := by
  simp only [keepAll_clausesOf, clausesBetweenCommas_joined, keepAll_append]

namespace Planner

/-- Narrowing keeps what the clauses of the expression keep, and nothing else of
the planner changes. -/
theorem value_narrow (planner : Planner) (expression : Option String) :
    (planner.narrow expression).value =
      (keepAll planner.current (clausesOf expression).value).map fun kept =>
        { planner with current := kept } := by
  rw [narrow, Logged.value_andThen]
  cases clauses : (clausesOf expression).value with
  | nil => rfl
  | cons clause rest =>
      rw [List.isEmpty_cons, if_neg Bool.false_ne_true]
      cases keepAll planner.current (clause :: rest) <;> rfl

theorem narrow_joined (planner : Planner) (first second : String) :
    (planner.narrow (some (first ++ "," ++ second))).value =
      (planner.narrow (some first)).value.bind fun narrowed => (narrowed.narrow (some second)).value := by
  simp only [value_narrow, keepAll_joined]
  cases keepAll planner.current (clausesOf (some first)).value with
  | error fault => rfl
  | ok kept => rfl

/-- What a filter answers and leaves, read off what narrowing leaves. -/
theorem value_filter (planner : Planner) (expression : Option String) (name : FieldName)
    (ascending : Bool) :
    (planner.filter expression name ascending).value =
      match (planner.narrow expression).value with
      | .error fault => (.error fault, planner)
      | .ok narrowed => (.ok (arrange narrowed.current name ascending).value, narrowed) := by
  rw [filter, Logged.value_andThen]
  cases (planner.narrow expression).value <;> rfl

/-- A filter by two expressions with a comma between them returns exactly when a
filter by the first and then one by the second do, and then it lists the same
games in the same order and leaves the same planner as these. -/
theorem filter_joined (planner : Planner) (first second : String) (earlierName name : FieldName)
    (earlierAscending ascending : Bool) :
    let joined := (planner.filter (some (first ++ "," ++ second)) name ascending).value
    let earlier := (planner.filter (some first) earlierName earlierAscending).value
    let later := (earlier.2.filter (some second) name ascending).value
    (joined.1.isOk = true ↔ earlier.1.isOk = true ∧ later.1.isOk = true) ∧
      (joined.1.isOk = true → joined = later) := by
  simp only [value_filter, narrow_joined]
  cases (planner.narrow (some first)).value with
  | error fault => simp [Except.bind, Except.isOk, Except.toBool]
  | ok narrowed =>
      simp only [Except.bind]
      cases (narrowed.narrow (some second)).value with
      | error fault => simp [Except.isOk, Except.toBool]
      | ok left => simp [Except.isOk, Except.toBool]

end Planner

/-!
## What a history of calls leaves

A planner is called to filter and to reset, with any arguments, and some of
the filters fail.  The expressions in force after such calls are those of the
filters that returned since the last reset.  They alone decide which games are
left: the members of the catalogue that satisfy every active clause of theirs.

So the games that are left are a function of the set of these clauses.
Neither the order of the filters nor how the clauses were spread over them,
nor how often one was repeated, nor how the answers were sorted can be told
from what is left.
-/

/-- A call to a planner. -/
inductive Call where
  | filter (expression : Option String) (name : FieldName) (ascending : Bool)
  | reset

/-- Whether a game satisfies every active clause of some expressions. -/
def Satisfies (expressions : List (Option String)) (game : Game) : Prop :=
  ∀ expression ∈ expressions, ∀ clause ∈ (clausesOf expression).value,
    clause.Active → clause.Matches game

instance (expressions : List (Option String)) (game : Game) :
    Decidable (Satisfies expressions game) :=
  inferInstanceAs (Decidable (∀ expression ∈ expressions, ∀ clause ∈ (clausesOf expression).value,
    clause.Active → clause.Matches game))

/-- Whether an active clause occurs in some expressions. -/
def Demands (expressions : List (Option String)) (clause : Clause) : Prop :=
  clause.Active ∧ ∃ expression ∈ expressions, clause ∈ (clausesOf expression).value

/-- Passing a further expression is one more thing to satisfy. -/
theorem satisfies_concat (expressions : List (Option String)) (expression : Option String)
    (game : Game) :
    Satisfies (expressions ++ [expression]) game ↔
      Satisfies expressions game ∧ Planner.admitted expression game = true := by
  simp only [Satisfies, List.forall_mem_append, List.forall_mem_singleton, Planner.admitted,
    List.all_eq_true, Clause.admits_iff]

/-- Whether a game satisfies expressions is decided by the active clauses that
occur in them. -/
theorem satisfies_iff_demands (expressions : List (Option String)) (game : Game) :
    Satisfies expressions game ↔
      ∀ clause, Demands expressions clause → clause.Matches game := by
  constructor
  · rintro satisfied clause ⟨active, expression, member, occurs⟩
    exact satisfied expression member clause occurs active
  · intro met expression member clause occurs active
    exact met clause ⟨active, expression, member, occurs⟩

namespace Planner

/-- The planner that a call leaves. -/
def after (planner : Planner) : Call → Planner
  | .filter expression name ascending => (planner.filter expression name ascending).value.2
  | .reset => planner.reset

/-- The planner that calls leave, one after another. -/
def afterAll (planner : Planner) (calls : List Call) : Planner :=
  calls.foldl after planner

theorem afterAll_append (planner : Planner) (calls later : List Call) :
    planner.afterAll (calls ++ later) = (planner.afterAll calls).afterAll later :=
  List.foldl_append

/-- The expressions in force after a call, given those in force before.  A
filter that fails puts none in force. -/
def inForceAfter (planner : Planner) (inForce : List (Option String)) : Call → List (Option String)
  | .filter expression name ascending =>
    match (planner.filter expression name ascending).value.1 with
    | .ok _ => inForce ++ [expression]
    | .error _ => inForce
  | .reset => []

/-- The expressions in force after calls, given those in force before: those
of the filters that returned since the last reset. -/
def inForceAfterAll (planner : Planner) (inForce : List (Option String)) :
    List Call → List (Option String)
  | [] => inForce
  | call :: rest => (planner.after call).inForceAfterAll (planner.inForceAfter inForce call) rest

/-- What holds of a planner at any time: its catalogue is the given one, and
what is left of it satisfies the expressions in force. -/
structure Reflects (planner : Planner) (catalogue : List Game) (inForce : List (Option String)) :
    Prop where
  games : planner.games = catalogue
  current : planner.current = catalogue.filter fun game => decide (Satisfies inForce game)

/-- Where nothing is in force, everything is left. -/
theorem reflects_whole (catalogue : List Game) : Reflects ⟨catalogue, catalogue⟩ catalogue [] where
  games := rfl
  current := (List.filter_eq_self.mpr fun game _ => by simp [Satisfies]).symm

/-- One call keeps the planner in step with the expressions in force. -/
theorem Reflects.after {planner : Planner} {catalogue : List Game} {inForce : List (Option String)}
    (reflects : planner.Reflects catalogue inForce) (call : Call) :
    (planner.after call).Reflects catalogue (planner.inForceAfter inForce call) := by
  cases call with
  | reset =>
      have whole : planner.after .reset = ⟨catalogue, catalogue⟩ := by
        rw [Planner.after, Planner.reset, reflects.games]
      rw [whole]
      exact reflects_whole catalogue
  | filter expression name ascending =>
      rw [Planner.after, inForceAfter]
      cases answer : (planner.filter expression name ascending).value with
      | mk listed left =>
          cases listed with
          | error fault => exact filter_failed answer ▸ reflects
          | ok listed =>
              rw [filter_returned answer]
              refine ⟨reflects.games, ?_⟩
              rw [reflects.current, List.filter_filter]
              apply List.filter_congr
              intro game _
              rw [Bool.eq_iff_iff]
              simp only [Bool.and_eq_true, decide_eq_true_eq, satisfies_concat]
              exact And.comm

/-- Calls keep the planner in step with the expressions in force. -/
theorem Reflects.afterAll {planner : Planner} {catalogue : List Game}
    {inForce : List (Option String)} (reflects : planner.Reflects catalogue inForce)
    (calls : List Call) :
    (planner.afterAll calls).Reflects catalogue (planner.inForceAfterAll inForce calls) := by
  induction calls generalizing planner inForce with
  | nil => exact reflects
  | cons call rest inductionHypothesis => exact inductionHypothesis (reflects.after call)

/-- After any calls on a new planner, what is left satisfies the expressions in
force. -/
theorem reflects_ofGames (games : List Game) (calls : List Call) :
    ((ofGames games).afterAll calls).Reflects (distinctGames games)
      ((ofGames games).inForceAfterAll [] calls) :=
  (reflects_whole (distinctGames games)).afterAll calls

/-- The games that are left after any calls are the members of the catalogue,
in its order and each once, that satisfy the active clauses of the filters
that returned since the last reset; failed filters and sorting leave no trace,
and neither do the order, the grouping and the repetition of the filters. -/
theorem current_of_history (games : List Game) (calls : List Call) :
    let planner := (ofGames games).afterAll calls
    let inForce := (ofGames games).inForceAfterAll [] calls
    planner.games = distinctGames games ∧
    planner.current = (distinctGames games).filter (fun game => decide (Satisfies inForce game)) ∧
    EachOnce planner.current ∧
    (∀ expression name ascending fault,
      (planner.filter expression name ascending).value.1 = .error fault →
        planner.after (.filter expression name ascending) = planner) ∧
    (∀ expression name otherName ascending otherAscending,
      planner.after (.filter expression name ascending) =
        planner.after (.filter expression otherName otherAscending)) ∧
    (∀ otherCalls,
      (∀ clause, Demands ((ofGames games).inForceAfterAll [] otherCalls) clause ↔
        Demands inForce clause) →
      ((ofGames games).afterAll otherCalls).current = planner.current) := by
  intro planner inForce
  have reflects := reflects_ofGames games
  refine ⟨(reflects calls).games, (reflects calls).current, ?_, ?_, ?_, ?_⟩
  · refine (reflects calls).current ▸ ?_
    exact (eachOnce_distinctGames games).sublist List.filter_sublist
  · intro expression name ascending fault failed
    exact filter_failed (Prod.ext failed rfl)
  · intro expression name otherName ascending otherAscending
    exact (filter_sorting planner expression name otherName ascending otherAscending).1
  · intro otherCalls alike
    have samePassing (game : Game) :
        Satisfies ((ofGames games).inForceAfterAll [] otherCalls) game ↔ Satisfies inForce game := by
      rw [satisfies_iff_demands, satisfies_iff_demands]
      exact forall_congr' fun clause => imp_congr (alike clause) Iff.rfl
    calc ((ofGames games).afterAll otherCalls).current
        = (distinctGames games).filter fun game =>
            decide (Satisfies ((ofGames games).inForceAfterAll [] otherCalls) game) :=
          (reflects otherCalls).current
      _ = (distinctGames games).filter fun game => decide (Satisfies inForce game) :=
          List.filter_congr fun game _ => decide_eq_decide.mpr (samePassing game)
      _ = planner.current := (reflects calls).current.symm

end Planner

end GameNight
