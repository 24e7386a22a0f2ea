import GameNight.Proofs.Game.Order
import GameNight.Proofs.Shortlist.History
import GameNight.Proofs.Shortlist.Selection
import Mathlib.Data.Finset.Card

namespace GameNight

open Text Number Files

/-!
# Additions and removals

Exactly the picked games are added or removed, however they are picked.
-/

/-!
## What additions come to

An addition picks games from those on offer in the order of their names, and puts
in each one whose name is not held yet.  So it makes no difference whether a stretch
of games is picked by its range or number after number, and picking the same games
once more changes nothing.  A shortlist grows by as many games as there are new
names among those that are picked.

The order in which the games are offered does not matter either, as long as no two
of them share a name: they are then sorted in one way only, and a selection, whether
it is accepted or refused, is only held against the sorted games.
-/

/-- Games of different names are sorted by name in one way only. -/
theorem sortByName_eq_of_perm {first second : List Game} (rearranged : first.Perm second)
    (apart : first.Pairwise fun game other => game.sortName ≠ other.sortName) :
    sortByName first = sortByName second := by
  have distinct : (first.map Game.sortName).Nodup := List.pairwise_map.mpr apart
  have same : ∀ a b, a ∈ sortByName first → b ∈ sortByName second →
      Field.name.mayPrecede true a b = true → Field.name.mayPrecede true b a = true → a = b := by
    intro a b memberA memberB below above
    have listedA : a ∈ first := (sortByName_perm first).mem_iff.mp memberA
    have listedB : b ∈ first :=
      rearranged.mem_iff.mpr ((sortByName_perm second).mem_iff.mp memberB)
    apply List.inj_on_of_nodup_map distinct listedA listedB
    exact String.le_antisymm (of_decide_eq_true below) (of_decide_eq_true above)
  apply List.Perm.eq_of_pairwise same
  · exact sorted_sortGames first .name true
  · exact sorted_sortGames second .name true
  · exact (sortByName_perm first).trans (rearranged.trans (sortByName_perm second).symm)

namespace Shortlist

/-- The names of the held games in small letters. -/
def sortNames (shortlist : Shortlist) : List String :=
  shortlist.held.map Game.sortName

theorem mem_sortNames {shortlist : Shortlist} {name : String} :
    name ∈ shortlist.sortNames ↔ (shortlist.named? name).isSome = true := by
  unfold sortNames named?
  rw [List.find?_isSome, List.mem_map]
  simp only [beq_iff_eq]

section Ordered

variable {shortlist : Shortlist} {games : List Game}

theorem Ordered.nodup_sortNames (ordered : shortlist.Ordered) : shortlist.sortNames.Nodup :=
  List.pairwise_map.mpr (ordered.imp String.ne_of_lt)

/-- The added names are held, and so are those that were held before. -/
theorem Ordered.mem_sortNames_insertAll (ordered : shortlist.Ordered) {name : String} :
    name ∈ (shortlist.insertAll games).sortNames ↔
      name ∈ games.map Game.sortName ∨ name ∈ shortlist.sortNames := by
  rw [mem_sortNames, mem_sortNames, named?_insertAll ordered, Option.isSome_or, Bool.or_eq_true, or_comm,
    List.find?_isSome, List.mem_map]
  simp only [beq_iff_eq]

/-- Adding games whose names are held changes nothing. -/
theorem Ordered.insertAll_of_held (ordered : shortlist.Ordered)
    (held : ∀ game ∈ games, game.sortName ∈ shortlist.sortNames) : shortlist.insertAll games = shortlist := by
  induction games with
  | nil => rfl
  | cons game rest inductionHypothesis =>
      have same : shortlist.insert game = shortlist := by
        unfold Shortlist.insert
        rw [insertByName_of_held ordered (List.mem_map.mp (held game List.mem_cons_self))]
      have others := inductionHypothesis fun other member => held other (List.mem_cons_of_mem game member)
      calc (shortlist.insert game).insertAll rest
          = shortlist.insertAll rest := by rw [same]
        _ = shortlist := others

/-- Adding the same games once more changes nothing. -/
theorem Ordered.insertAll_insertAll (ordered : shortlist.Ordered) (games : List Game) :
    (shortlist.insertAll games).insertAll games = shortlist.insertAll games := by
  apply (ordered.insertAll games).insertAll_of_held
  intro game member
  exact ordered.mem_sortNames_insertAll.mpr (Or.inl (List.mem_map_of_mem member))

/-- A shortlist grows by the names that are new to it. -/
theorem Ordered.count_insertAll (ordered : shortlist.Ordered) (games : List Game) :
    (shortlist.insertAll games).count =
      shortlist.count + ((games.map Game.sortName).toFinset \ shortlist.sortNames.toFinset).card := by
  have counted {some : Shortlist} (rising : some.Ordered) : some.count = some.sortNames.toFinset.card := by
    rw [List.toFinset_card_of_nodup rising.nodup_sortNames]
    exact (List.length_map _).symm
  have together : (shortlist.insertAll games).sortNames.toFinset =
      (games.map Game.sortName).toFinset ∪ shortlist.sortNames.toFinset := by
    ext name
    rw [Finset.mem_union, List.mem_toFinset, List.mem_toFinset, List.mem_toFinset,
      ordered.mem_sortNames_insertAll]
  rw [counted (ordered.insertAll games), counted ordered, together, ← Finset.card_sdiff_add_card,
    Nat.add_comm]

end Ordered

/-! ### One selection after another -/

/-- Add by selections, one after another, as long as they are accepted. -/
def addEach (shortlist : Shortlist) (selections : List String) (offered : List Game) :
    Except SelectionFault Shortlist :=
  selections.foldlM (fun shortlist selection => (shortlist.add (some selection) offered).value) shortlist

theorem add_of_selected (shortlist : Shortlist) {selection : Option String} {offered selected : List Game}
    (picked : selectGames selection (sortByName offered) = .ok selected) :
    (shortlist.add selection offered).value = .ok (shortlist.insertAll selected) := by
  rw [add, picked]

theorem addEach_cons {shortlist added : Shortlist} {selection : String} {offered : List Game}
    (accepted : (shortlist.add (some selection) offered).value = .ok added) (rest : List String) :
    shortlist.addEach (selection :: rest) offered = added.addEach rest offered := by
  unfold addEach
  rw [List.foldlM_cons, accepted]
  rfl

/-- The numbers of a stretch of the games, one after another, add the games of the
stretch. -/
theorem addEach_numbers {shortlist : Shortlist} {offered before picked after : List Game}
    (pieces : sortByName offered = before ++ picked ++ after)
    (written : before.length + picked.length < tenTo digitLimit) :
    shortlist.addEach ((List.range' (before.length + 1) picked.length).map naturalText) offered =
      .ok (shortlist.insertAll picked) := by
  induction picked generalizing shortlist before with
  | nil => rfl
  | cons game rest inductionHypothesis =>
      rw [List.length_cons] at written
      have first : selectGames (some (naturalText (before.length + 1))) (sortByName offered) = .ok [game] := by
        rw [pieces, List.append_assoc, List.cons_append]
        exact selectGames_number (by omega)
      have others : sortByName offered = (before ++ [game]) ++ rest ++ after := by
        rw [pieces, List.append_cons]
      have behind : before.length + 1 = (before ++ [game]).length := by
        rw [List.length_append, List.length_singleton]
      rw [List.length_cons, List.range'_succ, List.map_cons, addEach_cons (shortlist.add_of_selected first),
        behind]
      apply inductionHypothesis others
      omega

/-- The range of a stretch adds the games of the stretch. -/
theorem add_rangeText (shortlist : Shortlist) {offered before picked after : List Game}
    (pieces : sortByName offered = before ++ picked ++ after) (filled : picked ≠ [])
    (written : before.length + picked.length < tenTo digitLimit) :
    (shortlist.add (some (rangeText (before.length + 1) (before.length + picked.length))) offered).value =
      .ok (shortlist.insertAll picked) := by
  apply add_of_selected
  rw [pieces]
  exact selectGames_rangeText filled written

end Shortlist

namespace Shelf

/-- After any deeds on a new shortlist, a range of the games on offer adds what its
numbers add one after another, and the word `all` adds what the range of all games
adds.  An addition that is accepted changes nothing when it is repeated, and it makes
the shortlist grow by as many games as there are names, in small letters, that were
picked and not held before.

Numbers of more than 4300 digits are left out, since they are neither written nor read;
no list is so long that it would need one. -/
theorem additions_by_number [Machine] (files : Store) (deeds : List Deed) (offered : List Game) :
    let shortlist := ((new files).afterAll deeds).shortlist
    (∀ start stop, 1 ≤ start → start ≤ stop → stop ≤ offered.length → stop < tenTo digitLimit →
      ∃ added, (shortlist.add (some (rangeText start stop)) offered).value = .ok added ∧
        shortlist.addEach ((List.range' start (stop + 1 - start)).map naturalText) offered = .ok added) ∧
    (1 ≤ offered.length → offered.length < tenTo digitLimit →
      ∃ added, (shortlist.add (some "all") offered).value = .ok added ∧
        (shortlist.add (some (rangeText 1 offered.length)) offered).value = .ok added) ∧
    ∀ selection added, (shortlist.add selection offered).value = .ok added →
      (added.add selection offered).value = .ok added ∧
      ∃ selected, selectGames selection (sortByName offered) = .ok selected ∧
        added.count = shortlist.count +
          ((selected.map Game.sortName).toFinset \ (shortlist.held.map Game.sortName).toFinset).card := by
  intro shortlist
  have ordered : shortlist.Ordered := ordered_afterAll files deeds
  have offeredCount : (sortByName offered).length = offered.length := (sortByName_perm offered).length_eq
  refine ⟨?ranges, ?everything, ?accepted⟩
  case ranges =>
    intro start stop positive rising inside written
    rw [← offeredCount] at inside
    rcases exists_pieces positive rising inside with ⟨before, picked, after, pieces, starts, stops⟩
    have filled : picked ≠ [] := List.ne_nil_of_length_pos (by omega)
    rw [← stops] at written
    refine ⟨shortlist.insertAll picked, ?_, ?_⟩
    · rw [← starts, ← stops]
      exact shortlist.add_rangeText pieces filled written
    · have numbers : stop + 1 - start = picked.length := by omega
      rw [numbers, ← starts]
      exact Shortlist.addEach_numbers pieces written
  case everything =>
    intro some written
    refine ⟨shortlist.insertAll (sortByName offered), shortlist.add_of_selected (selectGames_all _), ?_⟩
    have pieces : sortByName offered = [] ++ sortByName offered ++ [] := by
      rw [List.nil_append, List.append_nil]
    have filled : sortByName offered ≠ [] := List.ne_nil_of_length_pos (by omega)
    have added := shortlist.add_rangeText pieces filled (by rw [List.length_nil]; omega)
    rwa [List.length_nil, Nat.zero_add, Nat.zero_add, offeredCount] at added
  case accepted =>
    intro selection added accepted
    cases picked : selectGames selection (sortByName offered) with
    | error fault =>
        rw [Shortlist.add, picked] at accepted
        cases accepted
    | ok selected =>
        rw [shortlist.add_of_selected picked] at accepted
        cases accepted
        refine ⟨?_, selected, rfl, ordered.count_insertAll selected⟩
        rw [Shortlist.add_of_selected _ picked, ordered.insertAll_insertAll]

/-- Three games, two of which have one name in small letters. -/
def namesakes : List Game :=
  [{ name := "Chess" }, { name := "GO", rank := 7 }, { name := "Go", rank := 258 }]

section

attribute [local instance] Machine.usual

/-- Where one game is held already, the range of three games adds what their numbers
add, and the shortlist grows by the one name that is new to it. -/
theorem namesakes_added_once :
    let shortlist := ((new ⟨[]⟩).afterAll [.add (some "1") [{ name := "chess" }]]).shortlist
    ∃ added, (shortlist.add (some (rangeText 1 3)) namesakes).value = .ok added ∧
      shortlist.addEach ["1", "2", "3"] namesakes = .ok added ∧
      (added.add (some (rangeText 1 3)) namesakes).value = .ok added ∧
      added.count = shortlist.count + 1 := by
  intro shortlist
  have listed : sortByName namesakes = namesakes := sortGames_of_sorted (by decide +kernel)
  have held : shortlist.held = [{ name := "chess" }] := by
    have first : selectGames (some "1") (sortByName [{ name := "chess" }]) = .ok [{ name := "chess" }] := by
      rw [sortByName, sortGames, List.mergeSort_singleton]
      rfl
    have added : shortlist = Shortlist.insertAll .empty [{ name := "chess" }] :=
      shortlist_after_add (new ⟨[]⟩) first
    rw [added]
    rfl
  have numbers : (List.range' 1 3).map naturalText = ["1", "2", "3"] := by decide +kernel
  have whole : selectGames (some (rangeText 1 3)) namesakes = .ok namesakes :=
    @selectGames_rangeText [] namesakes [] nofun (by decide +kernel)
  rcases additions_by_number ⟨[]⟩ [.add (some "1") [{ name := "chess" }]] namesakes with
    ⟨ranges, everything, accepted⟩
  rcases ranges 1 3 (by decide) (by decide) (by decide) (by decide +kernel) with ⟨added, byRange, byNumbers⟩
  rcases accepted _ added byRange with ⟨again, selected, picked, counted⟩
  rw [listed, whole] at picked
  cases picked
  refine ⟨added, byRange, numbers ▸ byNumbers, again, ?_⟩
  rw [counted, held]
  rfl

end

/-- After any deeds on a new shortlist, an addition comes to the same for games of
different names in whatever order they are offered: it is refused with the same fault
for both, or it leaves the same games and is reported alike. -/
theorem addition_of_rearranged [Machine] (files : Store) (deeds : List Deed) (selection : Option String)
    {first second : List Game} (rearranged : first.Perm second)
    (apart : first.Pairwise fun game other => lower game.name ≠ lower other.name) :
    let shortlist := ((new files).afterAll deeds).shortlist
    shortlist.add selection first = shortlist.add selection second := by
  intro shortlist
  unfold Shortlist.add
  rw [sortByName_eq_of_perm rearranged apart]

section

attribute [local instance] Machine.usual

/-- Two games are offered in either order to a shortlist that holds one of them. -/
theorem addition_of_swapped :
    let games : List Game := [{ name := "Go" }, { name := "Chess" }]
    let swapped : List Game := [{ name := "Chess" }, { name := "Go" }]
    games.Perm swapped ∧ (games.Pairwise fun game other => lower game.name ≠ lower other.name) ∧
      let shortlist := ((new ⟨[]⟩).afterAll [.add (some "chess") games]).shortlist
      shortlist.add (some "1-2") games = shortlist.add (some "1-2") swapped := by
  intro games swapped
  have rearranged : games.Perm swapped := List.Perm.swap _ _ []
  have apart : games.Pairwise fun game other => lower game.name ≠ lower other.name := by
    decide +kernel
  exact ⟨rearranged, apart,
    addition_of_rearranged ⟨[]⟩ [.add (some "chess") games] (some "1-2") rearranged apart⟩

end

end Shelf

/-!
## What removals come to

A removal picks held games as they are listed, and drops every held game that has
one of their names.  No two held games share a name.  So exactly the picked games go,
and all others keep their order, whether the games are picked by a range, by their
numbers or by name.

A number is removed as often as a stretch of the list is long to remove the stretch
from there on, since every removal moves the next game up to that number.
-/

namespace Shortlist

/-- Removing games one after another leaves the held games that have none of their
names. -/
theorem held_eraseAll (shortlist : Shortlist) (games : List Game) :
    (shortlist.eraseAll games).held =
      shortlist.held.filter fun held => games.all fun game => held.sortName != game.sortName := by
  induction games generalizing shortlist with
  | nil => exact (List.filter_eq_self.mpr fun _ _ => rfl).symm
  | cons game rest inductionHypothesis =>
      have removed : (shortlist.erase game).eraseAll rest = shortlist.eraseAll (game :: rest) := rfl
      rw [← removed, inductionHypothesis, erase, List.filter_filter]
      congr 1
      funext held
      rw [List.all_cons, Bool.and_comm]

/-- Removing the middle one of three pieces of a shortlist leaves the other two. -/
theorem Ordered.eraseAll_piece {shortlist : Shortlist} (ordered : shortlist.Ordered)
    {before picked after : List Game} (pieces : shortlist.held = before ++ picked ++ after) :
    shortlist.eraseAll picked = ⟨before ++ after⟩ := by
  have rising : Rising (before ++ picked ++ after) := pieces ▸ ordered
  rcases List.pairwise_append.mp rising with ⟨front, _, belowAfter⟩
  rcases List.pairwise_append.mp front with ⟨_, _, belowPicked⟩
  have beforeKept : ∀ held ∈ before, (picked.all fun game => held.sortName != game.sortName) = true := by
    intro held member
    apply List.all_eq_true.mpr
    intro game among
    exact bne_iff_ne.mpr (String.ne_of_lt (belowPicked held member game among))
  have pickedDropped : ∀ held ∈ picked, ¬(picked.all fun game => held.sortName != game.sortName) = true := by
    intro held member all
    have unlike := List.all_eq_true.mp all held member
    exact bne_iff_ne.mp unlike rfl
  have afterKept : ∀ held ∈ after, (picked.all fun game => held.sortName != game.sortName) = true := by
    intro held member
    apply List.all_eq_true.mpr
    intro game among
    have below := belowAfter game (List.mem_append_right before among) held member
    exact bne_iff_ne.mpr (String.ne_of_lt below).symm
  have left : (shortlist.eraseAll picked).held = before ++ after := by
    rw [held_eraseAll, pieces, List.filter_append, List.filter_append, List.filter_eq_self.mpr beforeKept,
      List.filter_eq_nil_iff.mpr pickedDropped, List.filter_eq_self.mpr afterKept, List.append_nil]
  exact congrArg Shortlist.mk left

theorem remove_of_selected (shortlist : Shortlist) {selection : Option String} {selected : List Game}
    (picked : selectGames selection shortlist.held = .ok selected) :
    (shortlist.remove selection).value = .ok (shortlist.eraseAll selected) := by
  rw [remove, picked]

section Pieces

variable {shortlist : Shortlist} {before picked after : List Game}

/-- The range of the middle one of three pieces removes that piece. -/
theorem Ordered.remove_rangeText (ordered : shortlist.Ordered)
    (pieces : shortlist.held = before ++ picked ++ after) (filled : picked ≠ [])
    (written : before.length + picked.length < tenTo digitLimit) :
    (shortlist.remove (some (rangeText (before.length + 1) (before.length + picked.length)))).value =
      .ok ⟨before ++ after⟩ := by
  rw [← ordered.eraseAll_piece pieces]
  apply remove_of_selected
  rw [pieces]
  exact selectGames_rangeText filled written

/-- A selection that picks one held game removes this game alone. -/
theorem Ordered.remove_one (ordered : shortlist.Ordered) {selection : Option String} {game : Game}
    (pieces : shortlist.held = before ++ game :: after)
    (picked : selectGames selection shortlist.held = .ok [game]) :
    (shortlist.remove selection).value = .ok ⟨before ++ after⟩ := by
  rw [shortlist.remove_of_selected picked]
  apply congrArg Except.ok
  apply ordered.eraseAll_piece
  rw [pieces, List.append_assoc, List.singleton_append]

theorem Ordered.remove_number (ordered : shortlist.Ordered) {game : Game}
    (pieces : shortlist.held = before ++ game :: after) (written : before.length + 1 < tenTo digitLimit) :
    (shortlist.remove (some (naturalText (before.length + 1)))).value = .ok ⟨before ++ after⟩ := by
  apply ordered.remove_one pieces
  rw [pieces]
  exact selectGames_number written

theorem Ordered.remove_all (ordered : shortlist.Ordered) : (shortlist.remove (some "all")).value = .ok empty := by
  rw [shortlist.remove_of_selected (selectGames_all shortlist.held)]
  apply congrArg Except.ok
  have whole : shortlist.held = [] ++ shortlist.held ++ [] := by
    rw [List.nil_append, List.append_nil]
  exact ordered.eraseAll_piece whole

/-! ### One selection after another -/

/-- Remove by selections, one after another, as long as they are accepted. -/
def removeEach (shortlist : Shortlist) (selections : List String) : Except SelectionFault Shortlist :=
  selections.foldlM (fun shortlist selection => (shortlist.remove (some selection)).value) shortlist

theorem removeEach_cons {left : Shortlist} {selection : String}
    (accepted : (shortlist.remove (some selection)).value = .ok left) (rest : List String) :
    shortlist.removeEach (selection :: rest) = left.removeEach rest := by
  unfold removeEach
  rw [List.foldlM_cons, accepted]
  rfl

/-- The number of the first game of a piece, as often as the piece is long, removes
the piece. -/
theorem Ordered.removeEach_number (ordered : shortlist.Ordered)
    (pieces : shortlist.held = before ++ picked ++ after)
    (written : before.length + picked.length < tenTo digitLimit) :
    shortlist.removeEach (List.replicate picked.length (naturalText (before.length + 1))) =
      .ok ⟨before ++ after⟩ := by
  induction picked generalizing shortlist with
  | nil =>
      rw [List.append_nil] at pieces
      rw [← pieces]
      rfl
  | cons game rest inductionHypothesis =>
      rw [List.length_cons] at written
      rw [List.append_assoc, List.cons_append] at pieces
      -- the rest of the piece moves up to the number that was removed
      have first : (shortlist.remove (some (naturalText (before.length + 1)))).value =
          .ok ⟨before ++ (rest ++ after)⟩ :=
        ordered.remove_number pieces (by omega)
      rw [List.length_cons, List.replicate_succ, removeEach_cons first]
      apply inductionHypothesis (ordered.remove first)
      · exact (List.append_assoc before rest after).symm
      · omega

end Pieces

end Shortlist

/-- A selection that has the letters of an addressable game, in any size, picks the
first game of that name among those it is held against.  After any deeds on a new
shortlist, a removal by it takes the held game of that name, if there is one, and
leaves every other one in its place. -/
theorem addressed_by_name [Machine] (candidates : List Game) {game : Game} (listed : game ∈ candidates)
    (addressable : Addressable game.name) {selection : String}
    (alike : lower (strip selection) = lower game.name) :
    (∃ before found after, candidates = before ++ found :: after ∧
      lower found.name = lower game.name ∧ (∀ other ∈ before, lower other.name ≠ lower game.name) ∧
      selectGames (some selection) candidates = .ok [found]) ∧
    ∀ (files : Store) (deeds : List Deed),
      let shortlist := ((Shelf.new files).afterAll deeds).shortlist
      ∀ held ∈ shortlist.held, lower held.name = lower game.name →
        ∃ before after, shortlist.held = before ++ held :: after ∧
          (shortlist.remove (some selection)).value = .ok ⟨before ++ after⟩ := by
  constructor
  · rcases exists_first_named listed with ⟨before, found, after, parts, named, unlike⟩
    exact ⟨before, found, after, parts, named, unlike,
      selectGames_named addressable alike parts named unlike⟩
  · intro files deeds shortlist held member named
    have ordered : shortlist.Ordered := Shelf.ordered_afterAll files deeds
    rcases List.append_of_mem member with ⟨before, after, parts⟩
    have rising : Rising (before ++ held :: after) := parts ▸ ordered
    have unlike : ∀ other ∈ before, other.sortName ≠ lower game.name := by
      intro other earlier
      rw [← named]
      exact String.ne_of_lt ((List.pairwise_append.mp rising).2.2 other earlier held List.mem_cons_self)
    exact ⟨before, after, parts,
      ordered.remove_one parts (selectGames_named addressable alike parts named unlike)⟩

/-- Three games in the order of their names. -/
def threeGames : List Game :=
  [{ name := "7 Wonders" }, { name := "Chess" }, { name := "ΟΔΟΣ" }]

/-- The three games on a new shortlist. -/
def threeHeld [Machine] : Shortlist :=
  ((Shelf.new ⟨[]⟩).afterAll [.add (some "all") threeGames]).shortlist

theorem held_threeHeld [Machine] : threeHeld.held = threeGames := by
  have listed : sortByName threeGames = threeGames := sortGames_of_sorted (by decide +kernel)
  have all : selectGames (some "all") (sortByName threeGames) = .ok threeGames := by
    rw [listed]
    rfl
  have added : threeHeld = Shortlist.insertAll .empty threeGames :=
    Shelf.shortlist_after_add (Shelf.new ⟨[]⟩) all
  rw [added]
  decide +kernel

section

attribute [local instance] Machine.usual

/-- A name that ends in a sigma is found and removed by small letters and a capital
sigma, with blanks around them. -/
theorem final_sigma_addressed :
    Addressable "ΟΔΟΣ" ∧ lower (strip " οδοΣ ") = lower "ΟΔΟΣ" ∧
      selectGames (some " οδοΣ ") threeGames = .ok [{ name := "ΟΔΟΣ" }] ∧
      ∃ before after, threeHeld.held = before ++ { name := "ΟΔΟΣ" } :: after ∧
        (threeHeld.remove (some " οδοΣ ")).value = .ok ⟨before ++ after⟩ := by
  have listed : { name := "ΟΔΟΣ" } ∈ threeGames := by decide +kernel
  have alike : lower (strip " οδοΣ ") = lower "ΟΔΟΣ" := by decide +kernel
  have addressable : Addressable "ΟΔΟΣ" := by
    refine ⟨by decide, by decide +kernel, fun digits => ?_, fun isRange => ?_⟩
    · exact absurd (digits 'Σ' (by decide)) (by decide)
    · exact absurd isRange.hyphen_mem (by decide)
  rcases addressed_by_name threeGames listed addressable alike with
    ⟨⟨before, found, after, parts, named, unlike, picked⟩, removes⟩
  have only : ∀ game ∈ threeGames, lower game.name = lower "ΟΔΟΣ" → game = { name := "ΟΔΟΣ" } := by
    decide +kernel
  have member : found ∈ threeGames := parts ▸ List.mem_append_right before List.mem_cons_self
  have held : { name := "ΟΔΟΣ" } ∈ threeHeld.held := held_threeHeld ▸ listed
  refine ⟨addressable, alike, ?_, removes ⟨[]⟩ [.add (some "all") threeGames] _ held rfl⟩
  rw [picked, only found member named]

end

end GameNight
