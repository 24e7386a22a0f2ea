import GameNight.Game
import GameNight.Planner
import GameNight.Proofs.Clause.Grammar
import GameNight.Proofs.Number.Range
import Mathlib.Data.List.Basic
import Mathlib.Data.String.Basic

namespace GameNight

open Text Number

/-!
# Sorted games

Games are sorted stably, and so in one way only.
-/

/-!
## Stable sorting

Sorting arranges a list by keys and leaves members with equal keys in the order
that they had.  A list is determined by these two properties: one that is sorted
and agrees with another sorted one in the members of every key is the same list.

So leaving members out before or after sorting comes to the same.  What is left
of a sorted list by a bound on the keys stands at one of its ends.
-/

/-! ### Lists sorted by a relation -/

section Relation

variable {α : Type} {le : α → α → Bool}

/-- Whether two members may stand in either order. -/
def sameKey (le : α → α → Bool) (a b : α) : Bool :=
  le a b && le b a

theorem sameKey_self (total : ∀ a b, (le a b || le b a) = true) (a : α) : sameKey le a a = true := by
  have either := total a a
  rw [Bool.or_self] at either
  rw [sameKey, either, Bool.and_self]

/-- Two sorted lists start with the same member when they have the same members of
every key, in the same order. -/
theorem eq_of_sorted_cons (total : ∀ a b, (le a b || le b a) = true) {a b : α} {rest others : List α}
    (sorted : (a :: rest).Pairwise fun a b => le a b = true)
    (alsoSorted : (b :: others).Pairwise fun a b => le a b = true)
    (alike : ∀ c, c ∈ a :: rest ∨ c ∈ b :: others →
      (a :: rest).filter (sameKey le c) = (b :: others).filter (sameKey le c)) : a = b := by
  have keyOfA := alike a (Or.inl List.mem_cons_self)
  have keyOfB := alike b (Or.inr List.mem_cons_self)
  rw [List.filter_cons_of_pos (sameKey_self total a)] at keyOfA
  rw [List.filter_cons_of_pos (sameKey_self total b)] at keyOfB
  have aListed : a ∈ (b :: others).filter (sameKey le a) := keyOfA ▸ List.mem_cons_self
  have bListed : b ∈ (a :: rest).filter (sameKey le b) := keyOfB ▸ List.mem_cons_self
  rcases List.mem_cons.mp (List.mem_filter.mp aListed).1 with same | aBehind
  · exact same
  rcases List.mem_cons.mp (List.mem_filter.mp bListed).1 with same | bBehind
  · exact same.symm
  -- each stands behind the other, so that they have one key, whose first member both are
  have oneKey : sameKey le a b = true := by
    rw [sameKey, List.rel_of_pairwise_cons sorted bBehind, List.rel_of_pairwise_cons alsoSorted aBehind,
      Bool.and_self]
  rw [List.filter_cons_of_pos oneKey] at keyOfA
  exact (List.cons.inj keyOfA).1

/-- Two sorted lists with the same members of every key, in the same order, are
equal. -/
theorem eq_of_sorted (total : ∀ a b, (le a b || le b a) = true) {first second : List α}
    (sorted : first.Pairwise fun a b => le a b = true)
    (alsoSorted : second.Pairwise fun a b => le a b = true)
    (alike : ∀ c, c ∈ first ∨ c ∈ second → first.filter (sameKey le c) = second.filter (sameKey le c)) :
    first = second := by
  induction first generalizing second with
  | nil =>
      cases second with
      | nil => rfl
      | cons b others =>
          have none := alike b (Or.inr List.mem_cons_self)
          rw [List.filter_nil, List.filter_cons_of_pos (sameKey_self total b)] at none
          cases none
  | cons a rest inductionHypothesis =>
      cases second with
      | nil =>
          have none := alike a (Or.inl List.mem_cons_self)
          rw [List.filter_nil, List.filter_cons_of_pos (sameKey_self total a)] at none
          cases none
      | cons b others =>
          have same : a = b := eq_of_sorted_cons total sorted alsoSorted alike
          subst same
          have tails : rest = others := by
            refine inductionHypothesis sorted.tail alsoSorted.tail fun c listed => ?_
            have whole := alike c (listed.imp (List.mem_cons_of_mem a) (List.mem_cons_of_mem a))
            rw [List.filter_cons, List.filter_cons] at whole
            split at whole
            · exact (List.cons.inj whole).2
            · exact whole
          rw [tails]

/-- Sorting leaves the members of every key in their order. -/
theorem filter_sameKey_mergeSort (trans : ∀ a b c, le a b = true → le b c = true → le a c = true)
    (total : ∀ a b, (le a b || le b a) = true) (members : List α) (c : α) :
    (members.mergeSort le).filter (sameKey le c) = members.filter (sameKey le c) := by
  have sorted : (members.filter (sameKey le c)).Pairwise fun a b => le a b = true := by
    refine List.pairwise_of_forall_mem_list fun a memberA b memberB => ?_
    have keyOfA := (List.mem_filter.mp memberA).2
    have keyOfB := (List.mem_filter.mp memberB).2
    rw [sameKey, Bool.and_eq_true] at keyOfA keyOfB
    exact trans a c b keyOfA.2 keyOfB.1
  have kept : (members.filter (sameKey le c)).Sublist (members.mergeSort le) :=
    List.sublist_mergeSort trans total sorted List.filter_sublist
  have inKey : (members.filter (sameKey le c)).Sublist ((members.mergeSort le).filter (sameKey le c)) := by
    have filtered := kept.filter (sameKey le c)
    rwa [List.filter_filter, funext fun a => Bool.and_self _] at filtered
  exact (inKey.eq_of_length ((List.mergeSort_perm members le).filter _).length_eq.symm).symm

/-- Leaving members out before or after sorting comes to the same. -/
theorem filter_mergeSort (trans : ∀ a b c, le a b = true → le b c = true → le a c = true)
    (total : ∀ a b, (le a b || le b a) = true) (members : List α) (kept : α → Bool) :
    (members.mergeSort le).filter kept = (members.filter kept).mergeSort le := by
  refine eq_of_sorted total ?_ (List.pairwise_mergeSort trans total _) fun c _ => ?_
  · exact (List.pairwise_mergeSort trans total members).filter kept
  · rw [List.filter_comm, filter_sameKey_mergeSort trans total, filter_sameKey_mergeSort trans total,
      List.filter_comm]

/-- What a lower part of the keys keeps of a sorted list stands at its front. -/
theorem filter_isPrefix_of_sorted {members : List α} (sorted : members.Pairwise fun a b => le a b = true)
    {kept : α → Bool}
    (downward : ∀ a ∈ members, ∀ b ∈ members, le a b = true → kept b = true → kept a = true) :
    members.filter kept <+: members := by
  induction members with
  | nil => exact List.prefix_refl []
  | cons a rest inductionHypothesis =>
      by_cases first : kept a = true
      · rw [List.filter_cons_of_pos first, List.prefix_cons_inj]
        exact inductionHypothesis sorted.tail fun b memberB c memberC =>
          downward b (List.mem_cons_of_mem a memberB) c (List.mem_cons_of_mem a memberC)
      · have none : (a :: rest).filter kept = [] := by
          refine List.filter_eq_nil_iff.mpr fun b member keptB => first ?_
          rcases List.mem_cons.mp member with same | behind
          · exact same ▸ keptB
          · exact downward a List.mem_cons_self b member (List.rel_of_pairwise_cons sorted behind) keptB
        rw [none]
        exact List.nil_prefix

/-- What an upper part of the keys keeps of a sorted list stands at its end. -/
theorem filter_isSuffix_of_sorted {members : List α} (sorted : members.Pairwise fun a b => le a b = true)
    {kept : α → Bool}
    (upward : ∀ a ∈ members, ∀ b ∈ members, le a b = true → kept a = true → kept b = true) :
    members.filter kept <:+ members := by
  induction members with
  | nil => exact List.suffix_refl []
  | cons a rest inductionHypothesis =>
      by_cases first : kept a = true
      · have all : (a :: rest).filter kept = a :: rest := by
          refine List.filter_eq_self.mpr fun b member => ?_
          rcases List.mem_cons.mp member with same | behind
          · exact same ▸ first
          · exact upward a List.mem_cons_self b member (List.rel_of_pairwise_cons sorted behind) first
        exact ⟨[], all⟩
      · rw [List.filter_cons_of_neg first]
        refine List.IsSuffix.trans ?_ (List.suffix_cons a rest)
        exact inductionHypothesis sorted.tail fun b memberB c memberC =>
          upward b (List.mem_cons_of_mem a memberB) c (List.mem_cons_of_mem a memberC)

end Relation

/-! ### Games sorted by a field -/

theorem Field.inOrder_trans (field : Field) (a b c : Game) (first : field.inOrder a b = true)
    (second : field.inOrder b c = true) : field.inOrder a c = true := by
  rcases field with _ | ⟨_ | _⟩ <;>
    simp only [inOrder, decide_eq_true_eq] at first second ⊢
  · exact String.le_trans first second
  · exact Int.le_trans first second
  · exact Int.le_trans first second

theorem Field.inOrder_total (field : Field) (a b : Game) :
    (field.inOrder a b || field.inOrder b a) = true := by
  rcases field with _ | ⟨_ | _⟩ <;>
    simp only [inOrder, Bool.or_eq_true, decide_eq_true_eq]
  · exact String.le_total _ _
  · exact Int.le_total _ _
  · exact Int.le_total _ _

/-- Whether one game may stand before another when games are sorted by a field in
one of the two directions. -/
def Field.mayPrecede (field : Field) (ascending : Bool) (a b : Game) : Bool :=
  if ascending then field.inOrder a b else field.inOrder b a

theorem Field.mayPrecede_trans (field : Field) (ascending : Bool) (a b c : Game)
    (first : field.mayPrecede ascending a b = true) (second : field.mayPrecede ascending b c = true) :
    field.mayPrecede ascending a c = true := by
  cases ascending with
  | true => exact field.inOrder_trans a b c first second
  | false => exact field.inOrder_trans c b a second first

theorem Field.mayPrecede_total (field : Field) (ascending : Bool) (a b : Game) :
    (field.mayPrecede ascending a b || field.mayPrecede ascending b a) = true := by
  cases ascending with
  | true => exact field.inOrder_total a b
  | false => exact field.inOrder_total b a

theorem sorted_sortGames (games : List Game) (field : Field) (ascending : Bool) :
    (sortGames games field ascending).Pairwise fun a b => field.mayPrecede ascending a b = true :=
  List.pairwise_mergeSort (field.mayPrecede_trans ascending) (field.mayPrecede_total ascending) games

/-- A list that is sorted already stays as it is. -/
theorem sortGames_of_sorted {games : List Game} {field : Field} {ascending : Bool}
    (sorted : games.Pairwise fun a b => field.mayPrecede ascending a b = true) :
    sortGames games field ascending = games :=
  List.mergeSort_of_pairwise sorted

/-- Leaving games out before or after sorting comes to the same. -/
theorem filter_sortGames (games : List Game) (field : Field) (ascending : Bool) (kept : Game → Bool) :
    (sortGames games field ascending).filter kept = sortGames (games.filter kept) field ascending :=
  filter_mergeSort (field.mayPrecede_trans ascending) (field.mayPrecede_total ascending) games kept

/-!
## The stable rearrangement

Games are sorted by keys: names in small letters by code points, whole numbers
exactly, and scores as doubles.  Sorting rearranges the games so that the keys
rise, or fall, and games with one key keep the order that they had.  They keep it
in both directions, so that sorting downwards is not the reverse of sorting upwards
as soon as two games share a key.

A list of games has only one such rearrangement.  So these three properties say all
that sorting does, and a list that is sorted already stays as it is.

A score that is no number stands in no relation to the others, and lists that are
sorted by one are left out.
-/

/-- What a game is sorted by. -/
inductive SortKey where
  | letters (small : String)
  | whole (value : Int)
  | score (value : Double)

def Game.key (game : Game) : Field → SortKey
  | .name => .letters (lower game.name)
  | .numeric (.integer field) => .whole (game.integer field)
  | .numeric (.score field) => .score (game.score field)

namespace SortKey

/-- Whether a key stands below another one of its kind, or is equal to it. -/
def atMost : SortKey → SortKey → Bool
  | letters small, letters other => decide (small ≤ other)
  | whole value, whole other => decide (value ≤ other)
  | score value, score other => value.atMost other
  | _, _ => false

/-- Whether two keys are equal; as scores the two zeros are. -/
def equals : SortKey → SortKey → Bool
  | letters small, letters other => small == other
  | whole value, whole other => value == other
  | score value, score other => value.equals other
  | _, _ => false

/-- Whether a key may stand before another one in one of the two directions. -/
def mayPrecede (ascending : Bool) (key other : SortKey) : Bool :=
  if ascending then key.atMost other else other.atMost key

end SortKey

/-- What makes a list of games the stable rearrangement of another one by a field:
it holds the same games, their keys rise or fall, and the games of every key stand
in the same order. -/
structure StablySorts (field : Field) (ascending : Bool) (games sorted : List Game) : Prop where
  rearranged : sorted.Perm games
  ordered : sorted.Pairwise fun a b => (a.key field).mayPrecede ascending (b.key field) = true
  stable : ∀ key : SortKey, (sorted.filter fun game => (game.key field).equals key) =
    games.filter fun game => (game.key field).equals key

/-! ### Keys -/

theorem Number.Double.equals_eq_true {left right : Double} :
    left.equals right = true ↔ left.atMost right = true ∧ right.atMost left = true := by
  unfold equals atMost relates
  cases left.place? with
  | none => simp
  | some place =>
      cases right.place? with
      | none => simp
      | some otherPlace =>
          simp only [beq_iff_eq, decide_eq_true_eq]
          exact le_antisymm_iff

namespace SortKey

theorem equals_eq_true {key other : SortKey} :
    key.equals other = true ↔ key.atMost other = true ∧ other.atMost key = true := by
  cases key <;> cases other <;>
    simp only [equals, atMost, Bool.false_eq_true, and_self, beq_iff_eq, decide_eq_true_eq]
  case letters.letters => exact le_antisymm_iff
  case whole.whole => exact le_antisymm_iff
  case score.score => exact Double.equals_eq_true

theorem atMost_trans {first second third : SortKey} (less : first.atMost second = true)
    (further : second.atMost third = true) : first.atMost third = true := by
  cases first <;> cases second <;> cases third <;>
    simp only [atMost, Bool.false_eq_true, decide_eq_true_eq] at less further ⊢
  case letters.letters.letters => exact String.le_trans less further
  case whole.whole.whole => exact Int.le_trans less further
  case score.score.score => exact Double.atMost_trans less further

/-- Of two equal keys each may stand before the other, in both directions. -/
theorem mayPrecede_of_equals {key first second : SortKey} (ascending : Bool)
    (firstEqual : first.equals key = true) (secondEqual : second.equals key = true) :
    first.mayPrecede ascending second = true := by
  rcases equals_eq_true.mp firstEqual with ⟨firstBelow, firstAbove⟩
  rcases equals_eq_true.mp secondEqual with ⟨secondBelow, secondAbove⟩
  cases ascending with
  | true => exact atMost_trans firstBelow secondAbove
  | false => exact atMost_trans secondBelow firstAbove

end SortKey

/-! ### Sorting by keys -/

section Numbers

variable {field : Field} {ascending : Bool} {a b : Game}

/-- Games whose keys are numbers are sorted by these keys. -/
theorem Field.inOrder_eq_atMost (numberOfA : a.key field ≠ .score .nan)
    (numberOfB : b.key field ≠ .score .nan) :
    field.inOrder a b = (a.key field).atMost (b.key field) := by
  rcases field with _ | ⟨_ | score⟩
  · rfl
  · rfl
  · have number : a.score score ≠ .nan := fun none => numberOfA (congrArg SortKey.score none)
    have otherNumber : b.score score ≠ .nan := fun none => numberOfB (congrArg SortKey.score none)
    exact (Double.atMost_eq_sortKey number otherNumber).symm

theorem Field.mayPrecede_eq (numberOfA : a.key field ≠ .score .nan)
    (numberOfB : b.key field ≠ .score .nan) :
    field.mayPrecede ascending a b = (a.key field).mayPrecede ascending (b.key field) := by
  cases ascending with
  | true => exact inOrder_eq_atMost numberOfA numberOfB
  | false => exact inOrder_eq_atMost numberOfB numberOfA

theorem Field.sameKey_eq (numberOfA : a.key field ≠ .score .nan)
    (numberOfB : b.key field ≠ .score .nan) :
    sameKey (field.mayPrecede ascending) a b = (b.key field).equals (a.key field) := by
  rw [Bool.eq_iff_iff, SortKey.equals_eq_true]
  unfold sameKey
  rw [mayPrecede_eq numberOfA numberOfB, mayPrecede_eq numberOfB numberOfA, Bool.and_eq_true]
  cases ascending with
  | true => exact and_comm
  | false => exact Iff.rfl

end Numbers

section Rearranging

variable {field : Field} {ascending : Bool} {games : List Game}

/-- Sorting is a stable rearrangement. -/
theorem stablySorts_sortGames (ascending : Bool) (numbers : ∀ game ∈ games, game.key field ≠ .score .nan) :
    StablySorts field ascending games (sortGames games field ascending) where
  rearranged := sortGames_perm games field ascending
  ordered := by
    refine (sorted_sortGames games field ascending).imp_of_mem fun {a b} memberA memberB ordered => ?_
    have same := sortGames_perm games field ascending
    rwa [← Field.mayPrecede_eq (numbers a (same.mem_iff.mp memberA)) (numbers b (same.mem_iff.mp memberB))]
  stable := by
    intro key
    rw [filter_sortGames]
    -- the games of one key may stand in any order, so that sorting moves none of them
    apply sortGames_of_sorted
    refine List.pairwise_of_forall_mem_list fun a memberA b memberB => ?_
    rcases List.mem_filter.mp memberA with ⟨listedA, equalA⟩
    rcases List.mem_filter.mp memberB with ⟨listedB, equalB⟩
    rw [Field.mayPrecede_eq (numbers a listedA) (numbers b listedB)]
    exact SortKey.mayPrecede_of_equals ascending equalA equalB

/-- There is only one stable rearrangement. -/
theorem StablySorts.unique {sorted other : List Game} (numbers : ∀ game ∈ games, game.key field ≠ .score .nan)
    (sorts : StablySorts field ascending games sorted) (alsoSorts : StablySorts field ascending games other) :
    sorted = other := by
  have numbersIn {listed : List Game} (rearranged : listed.Perm games) {game : Game} (member : game ∈ listed) :
      game.key field ≠ .score .nan :=
    numbers game (rearranged.mem_iff.mp member)
  have inOrder {listed : List Game} (stands : StablySorts field ascending games listed) :
      listed.Pairwise fun a b => field.mayPrecede ascending a b = true := by
    refine stands.ordered.imp_of_mem fun memberA memberB ordered => ?_
    rwa [Field.mayPrecede_eq (numbersIn stands.rearranged memberA) (numbersIn stands.rearranged memberB)]
  refine eq_of_sorted (field.mayPrecede_total ascending) (inOrder sorts) (inOrder alsoSorts) fun c listed => ?_
  have numberOfC : c.key field ≠ .score .nan :=
    listed.elim (numbersIn sorts.rearranged) (numbersIn alsoSorts.rearranged)
  -- both lists show the games with the key of this one in the order of the given list
  have byKey {listed : List Game} (stands : StablySorts field ascending games listed) :
      listed.filter (sameKey (field.mayPrecede ascending) c) =
        games.filter fun game => (game.key field).equals (c.key field) := by
    rw [← stands.stable]
    exact List.filter_congr fun game member =>
      Field.sameKey_eq numberOfC (numbersIn stands.rearranged member)
  rw [byKey sorts, byKey alsoSorts]

end Rearranging

/-! ### Asking for a field -/

/-- Whether a field is asked for by itself, or by its token or the heading of its
column with any blanks around it. -/
def FieldName.AsksFor : FieldName → Field → Prop
  | .known own, field => own = field
  | .word text, field => strip text = field.token ∨ strip text = field.column
  | _, _ => False

theorem FieldName.resolve_eq_ok {name : FieldName} {field : Field} :
    name.resolve = .ok field ↔ name.AsksFor field := by
  cases name with
  | known own => rw [resolve, AsksFor, Except.ok.injEq]
  | number value => exact ⟨nofun, nofun⟩
  | nothing => exact ⟨nofun, nofun⟩
  | word text =>
      rw [AsksFor, ← Field.ofWord?_eq_some, resolve]
      cases Field.ofWord? (strip text) <;> simp

namespace Planner

theorem arrange_of_asksFor {name : FieldName} {field : Field} (asked : name.AsksFor field)
    (games : List Game) (ascending : Bool) :
    (arrange games name ascending).value = sortGames games field ascending := by
  rw [arrange, FieldName.resolve_eq_ok.mpr asked]
  rfl

theorem arrange_of_unknown {name : FieldName} (unknown : ∀ field, ¬name.AsksFor field)
    (games : List Game) (ascending : Bool) : (arrange games name ascending).value = games := by
  rw [arrange]
  cases resolved : name.resolve with
  | ok field => exact absurd (FieldName.resolve_eq_ok.mp resolved) (unknown field)
  | error fault => rfl

/-- Games that are arranged by a field are their stable rearrangement by it and no
other list, and arranging them again changes nothing.  A name that asks for no field
leaves them as they are. -/
theorem arrange_iff_stablySorts (games : List Game) (name : FieldName) (ascending : Bool) :
    (∀ field, name.AsksFor field → (∀ game ∈ games, game.key field ≠ .score .nan) →
      (∀ sorted, (arrange games name ascending).value = sorted ↔ StablySorts field ascending games sorted) ∧
      (arrange (arrange games name ascending).value name ascending).value =
        (arrange games name ascending).value) ∧
    ((∀ field, ¬name.AsksFor field) → (arrange games name ascending).value = games) := by
  refine ⟨fun field asked numbers => ?_, fun unknown => arrange_of_unknown unknown games ascending⟩
  have sorts := stablySorts_sortGames ascending numbers
  rw [arrange_of_asksFor asked, arrange_of_asksFor asked]
  refine ⟨fun sorted => ⟨?_, ?_⟩, ?_⟩
  · rintro rfl
    exact sorts
  · exact sorts.unique numbers
  · exact sortGames_of_sorted (sorted_sortGames games field ascending)

/-- A game that is rated by a small number of units. -/
def ratedGame (name : String) (negative : Bool) (units : Nat) : Game :=
  { name := name, rating := { value := .ofUnits negative units } }

/-- Three games, the first and the last of which are rated by the two zeros. -/
def zeroRatings : List Game :=
  [ratedGame "Go" true 0, ratedGame "Chess" false 1, ratedGame "Catan" false 0]

theorem stablySorts_zeroRatings :
    StablySorts .rating false zeroRatings
      [ratedGame "Chess" false 1, ratedGame "Go" true 0, ratedGame "Catan" false 0] where
  rearranged := by decide +kernel
  ordered := by decide +kernel
  stable := by
    have placeOfGo : (ratedGame "Go" true 0).rating.value.place? = some 0 := by decide +kernel
    have placeOfChess : (ratedGame "Chess" false 1).rating.value.place? = some 1 := by decide +kernel
    have placeOfCatan : (ratedGame "Catan" false 0).rating.value.place? = some 0 := by decide +kernel
    intro key
    cases key with
    | letters small => rfl
    | whole value => rfl
    | score value =>
        simp only [zeroRatings, List.filter_cons, List.filter_nil, Game.key, Game.score, Game.scored,
          SortKey.equals, Double.equals, Double.relates, placeOfGo, placeOfChess, placeOfCatan]
        cases value.place? with
        | none => rfl
        | some place =>
            by_cases zero : place = 0
            · subst zero
              rfl
            · have unlike : ((0 : Int) == place) = false := beq_false_of_ne (Ne.symm zero)
              simp only [unlike, Bool.false_eq_true, if_false]

/-- Downwards, too, games with equal keys keep their order, and a word that names no
field arranges nothing. -/
theorem zero_ratings_keep_order :
    FieldName.AsksFor (.word " average ") .rating ∧
      (∀ game ∈ zeroRatings, game.key .rating ≠ .score .nan) ∧
      (arrange zeroRatings (.word " average ") false).value =
        [ratedGame "Chess" false 1, ratedGame "Go" true 0, ratedGame "Catan" false 0] ∧
      (∀ field, ¬FieldName.AsksFor (.word "averages") field) ∧
      (arrange zeroRatings (.word "averages") false).value = zeroRatings := by
  have asked : FieldName.AsksFor (.word " average ") .rating := Or.inr (by decide)
  have numbers : ∀ game ∈ zeroRatings, game.key .rating ≠ .score .nan := by
    have rated : ∀ game ∈ zeroRatings, game.rating.value ≠ .nan := by decide +kernel
    exact fun game member none => rated game member (SortKey.score.inj none)
  have unknown : ∀ field, ¬FieldName.AsksFor (.word "averages") field := by
    intro field
    have absent : ∀ field ∈ Field.all, ¬(strip "averages" = field.token ∨ strip "averages" = field.column) := by
      decide
    exact absent field (Field.mem_all field)
  have arranged := (arrange_iff_stablySorts zeroRatings (.word " average ") false).1 .rating asked numbers
  refine ⟨asked, numbers, (arranged.1 _).mpr stablySorts_zeroRatings, unknown, ?_⟩
  exact (arrange_iff_stablySorts zeroRatings (.word "averages") false).2 unknown

end Planner

end GameNight
