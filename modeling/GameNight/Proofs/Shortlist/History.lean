import GameNight.Shortlist
import Mathlib.Data.List.DropRight

namespace GameNight

open Journal Files

/-!
# Shortlists after any deeds

The held games stand in the order of their names, and which they are follows from the
deeds that were accepted.
-/

/-!
## The order of a shortlist

The held games stand in strictly rising order of their names in small
letters.  Every operation on a shortlist keeps this order, and under it
adding a game does what it should: where the name is held nothing changes,
and elsewhere the game joins the ones that are held.
-/

/-- Whether games stand in strictly rising order of their names. -/
abbrev Rising (games : List Game) : Prop :=
  games.Pairwise fun game other => game.sortName < other.sortName

theorem mem_insertByName {game other : Game} {held : List Game}
    (member : other ∈ insertByName game held) : other = game ∨ other ∈ held := by
  induction held with
  | nil => exact Or.inl (List.mem_singleton.mp member)
  | cons first rest inductionHypothesis =>
      rw [insertByName] at member
      split at member
      · exact List.mem_cons.mp member
      · split at member
        · exact Or.inr member
        · rcases List.mem_cons.mp member with same | later
          · exact Or.inr (List.mem_cons.mpr (Or.inl same))
          · exact (inductionHypothesis later).imp id (List.mem_cons_of_mem first)

/-- Where the name of a game is held, adding the game changes nothing. -/
theorem insertByName_of_held {game : Game} {held : List Game} (rising : Rising held)
    (named : ∃ other ∈ held, other.sortName = game.sortName) : insertByName game held = held := by
  induction held with
  | nil => rcases named with ⟨other, member, _⟩; cases member
  | cons first rest inductionHypothesis =>
      rcases List.pairwise_cons.mp rising with ⟨beforeRest, risingRest⟩
      rcases named with ⟨other, member, name⟩
      have notBefore : ¬ game.sortName < first.sortName := by
        rw [← name]
        rcases List.mem_cons.mp member with same | later
        · exact same ▸ String.lt_irrefl _
        · exact String.lt_asymm (beforeRest other later)
      rw [insertByName, if_neg notBefore]
      by_cases here : game.sortName = first.sortName
      · rw [if_pos here]
      · have later : other ∈ rest := by
          rcases List.mem_cons.mp member with same | later
          · exact absurd (same ▸ name.symm) here
          · exact later
        rw [if_neg here, inductionHypothesis risingRest ⟨other, later, name⟩]

theorem insertByName_perm {game : Game} {held : List Game}
    (unnamed : ∀ other ∈ held, other.sortName ≠ game.sortName) :
    (insertByName game held).Perm (game :: held) := by
  induction held with
  | nil => exact List.Perm.refl _
  | cons first rest inductionHypothesis =>
      rw [insertByName]
      split
      · exact List.Perm.refl _
      · have different : game.sortName ≠ first.sortName := (unnamed first List.mem_cons_self).symm
        have others := inductionHypothesis fun other member =>
          unnamed other (List.mem_cons_of_mem _ member)
        rw [if_neg different]
        exact (others.cons first).trans (List.Perm.swap game first rest)

/-- Adding a game keeps the order. -/
theorem Rising.insertByName {game : Game} {held : List Game} (rising : Rising held) :
    Rising (GameNight.insertByName game held) := by
  induction held with
  | nil => exact List.pairwise_singleton _ _
  | cons first rest inductionHypothesis =>
      rcases List.pairwise_cons.mp rising with ⟨beforeRest, risingRest⟩
      rw [GameNight.insertByName]
      split
      · rename_i before
        refine List.pairwise_cons.mpr ⟨fun other member => ?_, rising⟩
        rcases List.mem_cons.mp member with same | later
        · exact same ▸ before
        · exact String.lt_trans before (beforeRest other later)
      · split
        · exact rising
        · rename_i notBefore different
          refine List.pairwise_cons.mpr ⟨fun other member => ?_, inductionHypothesis risingRest⟩
          rcases mem_insertByName member with same | later
          · have atMost : first.sortName ≤ game.sortName := String.not_lt.mp notBefore
            rw [same]
            by_cases behind : first.sortName < game.sortName
            · exact behind
            · exact absurd (String.le_antisymm (String.not_lt.mp behind) atMost) different
          · exact beforeRest other later

namespace Shortlist

/-- A shortlist is ordered when its held games rise. -/
def Ordered (shortlist : Shortlist) : Prop :=
  Rising shortlist.held

theorem ordered_empty : empty.Ordered :=
  List.Pairwise.nil

theorem Ordered.insert {shortlist : Shortlist} (ordered : shortlist.Ordered) (game : Game) :
    (shortlist.insert game).Ordered :=
  Rising.insertByName ordered

theorem Ordered.insertAll {shortlist : Shortlist} (ordered : shortlist.Ordered)
    (games : List Game) : (shortlist.insertAll games).Ordered := by
  induction games generalizing shortlist with
  | nil => exact ordered
  | cons game rest inductionHypothesis => exact inductionHypothesis (ordered.insert game)

theorem Ordered.erase {shortlist : Shortlist} (ordered : shortlist.Ordered) (game : Game) :
    (shortlist.erase game).Ordered :=
  List.Pairwise.filter _ ordered

theorem Ordered.eraseAll {shortlist : Shortlist} (ordered : shortlist.Ordered)
    (games : List Game) : (shortlist.eraseAll games).Ordered := by
  induction games generalizing shortlist with
  | nil => exact ordered
  | cons game rest inductionHypothesis => exact inductionHypothesis (ordered.erase game)

/-- An addition that is accepted keeps the order. -/
theorem Ordered.add {shortlist added : Shortlist} (ordered : shortlist.Ordered)
    {selection : Option String} {offered : List Game}
    (accepted : (shortlist.add selection offered).value = .ok added) : added.Ordered := by
  rw [Shortlist.add] at accepted
  cases selected : selectGames selection (sortByName offered) with
  | error fault => simp [selected] at accepted
  | ok games =>
      simp only [selected, Except.ok.injEq] at accepted
      exact accepted ▸ ordered.insertAll games

theorem Ordered.remove {shortlist left : Shortlist} (ordered : shortlist.Ordered)
    {selection : Option String} (accepted : (shortlist.remove selection).value = .ok left) :
    left.Ordered := by
  rw [Shortlist.remove] at accepted
  cases selected : selectGames selection shortlist.held with
  | error fault => simp [selected] at accepted
  | ok games =>
      simp only [selected, Except.ok.injEq] at accepted
      exact accepted ▸ ordered.eraseAll games

end Shortlist

/-!
## What a history of deeds leaves on a shortlist

Deeds on a shortlist are accepted or refused, and a refused one leaves no
trace on it.  Of an accepted deed it matters which games it picked and which
names it dropped.  A name that has been picked since it was dropped for the
last time is held by the first game that was picked under it; later games of
that name do not take its place.  Other names are not held.
-/

/-- A deed on a shortlist, with any arguments. -/
inductive Deed where
  | add (selection : Option String) (offered : List Game)
  | remove (selection : Option String)
  | clear
  | save (target : Json)

/-- Why a deed was refused. -/
inductive DeedFault where
  | selection (fault : SelectionFault)
  | saving (fault : SavingFault)
  deriving DecidableEq, Repr

/-- What an accepted deed did to the held games. -/
inductive Effect where
  | picked (games : List Game)
  | dropped (games : List Game)
  | emptied
  | unchanged

namespace Effect

/-- The games that were picked, in order. -/
def picks : Effect → List Game
  | picked games => games
  | _ => []

/-- Whether a name in small letters was dropped. -/
def drops (name : String) : Effect → Bool
  | dropped games => games.any fun game => game.sortName == name
  | emptied => true
  | _ => false

end Effect

/-- The effects since a name was dropped for the last time. -/
def sinceDropped (name : String) (effects : List Effect) : List Effect :=
  effects.rtakeWhile fun effect => !effect.drops name

/-- The first game that was picked under a name since it was dropped for the
last time. -/
def firstPicked? (name : String) (effects : List Effect) : Option Game :=
  ((sinceDropped name effects).flatMap Effect.picks).find? fun game => game.sortName == name

/-- An effect that drops a name leaves no pick of it; any other keeps the first pick,
or makes one where there was none. -/
theorem firstPicked?_concat (name : String) (effects : List Effect) (effect : Effect) :
    firstPicked? name (effects ++ [effect]) =
      if effect.drops name then none
      else (firstPicked? name effects).or
        (effect.picks.find? fun game => game.sortName == name) := by
  rw [firstPicked?, sinceDropped]
  by_cases dropped : effect.drops name = true
  · rw [List.rtakeWhile_concat_neg _ _ _ (by simp [dropped]), if_pos dropped]
    rfl
  · rw [List.rtakeWhile_concat_pos _ _ _ (by simp [dropped]), if_neg dropped, List.flatMap_append,
      List.find?_append, List.flatMap_singleton]
    rfl

/-! ### Games under a name -/

namespace Shortlist

/-- The game that is held under a name in small letters. -/
def named? (shortlist : Shortlist) (name : String) : Option Game :=
  shortlist.held.find? fun game => game.sortName == name

/-- No two games of an ordered shortlist share a name, so that each is found
under its own. -/
theorem Ordered.named?_eq_some {shortlist : Shortlist} (ordered : shortlist.Ordered) {name : String}
    {game : Game} :
    shortlist.named? name = some game ↔ game ∈ shortlist.held ∧ game.sortName = name := by
  rw [named?, List.find?_eq_some_iff_append]
  constructor
  · rintro ⟨named, before, after, parts, _⟩
    exact ⟨parts ▸ List.mem_append_right before List.mem_cons_self, beq_iff_eq.mp named⟩
  · rintro ⟨member, named⟩
    rcases List.append_of_mem member with ⟨before, after, parts⟩
    refine ⟨beq_iff_eq.mpr named, before, after, parts, fun other earlier => ?_⟩
    have rising : Rising (before ++ game :: after) := parts ▸ ordered
    have below : other.sortName < game.sortName :=
      (List.pairwise_append.mp rising).2.2 other earlier game List.mem_cons_self
    simpa [← named] using String.ne_of_lt below

/-- A game that is put at its place is found by its name where no other one is. -/
theorem find?_insertByName {game : Game} {held : List Game} (rising : Rising held) (name : String) :
    ((insertByName game held).find? fun other => other.sortName == name) =
      (held.find? fun other => other.sortName == name).or
        ([game].find? fun other => other.sortName == name) := by
  induction held with
  | nil => rfl
  | cons first rest inductionHypothesis =>
      rcases List.pairwise_cons.mp rising with ⟨beforeRest, risingRest⟩
      rw [insertByName]
      split
      · rename_i before
        by_cases sought : game.sortName = name
        · -- all held games stand behind the game, and so none has its name
          have unnamed : (first :: rest).find? (fun other => other.sortName == name) = none := by
            refine List.find?_eq_none.mpr fun other member => ?_
            have behind : game.sortName < other.sortName := by
              rcases List.mem_cons.mp member with same | later
              · exact same ▸ before
              · exact String.lt_trans before (beforeRest other later)
            rw [beq_iff_eq, ← sought]
            exact (String.ne_of_lt behind).symm
          rw [unnamed, Option.none_or, List.find?_cons, List.find?_cons]
          simp [sought]
        · simp [List.find?_cons, sought]
      · split
        · rename_i same
          by_cases sought : game.sortName = name
          · simp [← same, sought]
          · simp [List.find?_cons, sought]
        · rw [List.find?_cons, List.find?_cons]
          split
          · rw [Option.some_or]
          · exact inductionHypothesis risingRest

/-- The first of the added games with a name is held, unless the name was held
before. -/
theorem named?_insertAll {shortlist : Shortlist} (ordered : shortlist.Ordered) (games : List Game)
    (name : String) :
    (shortlist.insertAll games).named? name =
      (shortlist.named? name).or (games.find? fun game => game.sortName == name) := by
  induction games generalizing shortlist with
  | nil => exact Option.or_none.symm
  | cons game rest inductionHypothesis =>
      calc ((shortlist.insert game).insertAll rest).named? name
          = ((shortlist.insert game).named? name).or (rest.find? fun other => other.sortName == name) :=
            inductionHypothesis (ordered.insert game)
        _ = ((shortlist.named? name).or ([game].find? fun other => other.sortName == name)).or
              (rest.find? fun other => other.sortName == name) :=
            congrArg (Option.or · _) (find?_insertByName ordered name)
        _ = (shortlist.named? name).or ((game :: rest).find? fun other => other.sortName == name) := by
            rw [Option.or_assoc, ← List.find?_append, List.singleton_append]

theorem named?_erase (shortlist : Shortlist) (game : Game) (name : String) :
    (shortlist.erase game).named? name =
      if game.sortName == name then none else shortlist.named? name := by
  rw [named?, erase, List.find?_filter]
  by_cases sought : game.sortName = name
  · rw [if_pos (beq_iff_eq.mpr sought)]
    refine List.find?_eq_none.mpr fun other _ => ?_
    simp [sought]
  · rw [if_neg (by simp [sought]), named?]
    congr 1
    funext other
    by_cases named : other.sortName = name
    · simp [named, Ne.symm sought]
    · simp [named]

theorem named?_eraseAll (shortlist : Shortlist) (games : List Game) (name : String) :
    (shortlist.eraseAll games).named? name =
      if games.any (fun game => game.sortName == name) then none else shortlist.named? name := by
  induction games generalizing shortlist with
  | nil => rfl
  | cons game rest inductionHypothesis =>
      have removed : (shortlist.erase game).eraseAll rest = shortlist.eraseAll (game :: rest) := rfl
      rw [← removed, inductionHypothesis, named?_erase, List.any_cons]
      cases game.sortName == name <;> simp

end Shortlist

/-! ### Deeds one after another -/

/-- A shortlist and the files that it can be saved to. -/
structure Shelf where
  shortlist : Shortlist
  files : Store

namespace Shelf

/-- A new shortlist. -/
def new (files : Store) : Shelf :=
  ⟨.empty, files⟩

/-- Do a deed.  Only saving touches the files, and it does so even when it is
refused in the end. -/
def perform [Machine] (shelf : Shelf) : Deed → Except DeedFault Unit × Shelf
  | .add selection offered =>
    match (shelf.shortlist.add selection offered).value with
    | .error fault => (.error (.selection fault), shelf)
    | .ok added => (.ok (), { shelf with shortlist := added })
  | .remove selection =>
    match (shelf.shortlist.remove selection).value with
    | .error fault => (.error (.selection fault), shelf)
    | .ok left => (.ok (), { shelf with shortlist := left })
  | .clear => (.ok (), { shelf with shortlist := .empty })
  | .save target =>
    match (shelf.shortlist.saveTo target shelf.files).value with
    | (.error fault, files) => (.error (.saving fault), { shelf with files := files })
    | (.ok _, files) => (.ok (), { shelf with files := files })

/-- What a deed leaves. -/
def after [Machine] (shelf : Shelf) (deed : Deed) : Shelf :=
  (shelf.perform deed).2

/-- What deeds leave, one after another. -/
def afterAll [Machine] (shelf : Shelf) (deeds : List Deed) : Shelf :=
  deeds.foldl after shelf

/-- What a deed does to the held games; a refused one does nothing. -/
def effect (shelf : Shelf) : Deed → Effect
  | .add selection offered =>
    match selectGames selection (sortByName offered) with
    | .error _ => .unchanged
    | .ok games => .picked games
  | .remove selection =>
    match selectGames selection shelf.shortlist.held with
    | .error _ => .unchanged
    | .ok games => .dropped games
  | .clear => .emptied
  | .save _ => .unchanged

/-- What deeds do to the held games, one after another. -/
def effects [Machine] (shelf : Shelf) : List Deed → List Effect
  | [] => []
  | deed :: rest => shelf.effect deed :: (shelf.after deed).effects rest

@[simp] theorem afterAll_cons [Machine] (shelf : Shelf) (deed : Deed) (rest : List Deed) :
    shelf.afterAll (deed :: rest) = (shelf.after deed).afterAll rest :=
  rfl

theorem afterAll_concat [Machine] (shelf : Shelf) (deeds : List Deed) (deed : Deed) :
    shelf.afterAll (deeds ++ [deed]) = (shelf.afterAll deeds).after deed :=
  List.foldl_concat ..

theorem effects_concat [Machine] (shelf : Shelf) (deeds : List Deed) (deed : Deed) :
    shelf.effects (deeds ++ [deed]) = shelf.effects deeds ++ [(shelf.afterAll deeds).effect deed] := by
  induction deeds generalizing shelf with
  | nil => rfl
  | cons first rest inductionHypothesis =>
      rw [List.cons_append, effects, effects, inductionHypothesis, afterAll_cons, List.cons_append]

/-- A deed changes the held games as its effect says. -/
theorem shortlist_after [Machine] (shelf : Shelf) (deed : Deed) :
    (shelf.after deed).shortlist =
      match shelf.effect deed with
      | .picked games => shelf.shortlist.insertAll games
      | .dropped games => shelf.shortlist.eraseAll games
      | .emptied => .empty
      | .unchanged => shelf.shortlist := by
  cases deed with
  | add selection offered =>
      rw [after, perform, effect, Shortlist.add]
      cases selectGames selection (sortByName offered) <;> rfl
  | remove selection =>
      rw [after, perform, effect, Shortlist.remove]
      cases selectGames selection shelf.shortlist.held <;> rfl
  | clear => rfl
  | save target =>
      rw [after, perform, effect]
      rcases (shelf.shortlist.saveTo target shelf.files).value with ⟨_ | _, files⟩ <;> rfl

theorem shortlist_after_add [Machine] (shelf : Shelf) {selection : Option String} {offered games : List Game}
    (picked : selectGames selection (sortByName offered) = .ok games) :
    (shelf.after (.add selection offered)).shortlist = shelf.shortlist.insertAll games := by
  rw [shortlist_after, effect, picked]

/-- A refused deed leaves the held games as they are. -/
theorem shortlist_after_refused [Machine] {shelf : Shelf} {deed : Deed} {fault : DeedFault}
    (refused : (shelf.perform deed).1 = .error fault) :
    (shelf.after deed).shortlist = shelf.shortlist := by
  rw [after]
  cases deed with
  | add selection offered =>
      rw [perform] at refused ⊢
      cases answer : (shelf.shortlist.add selection offered).value with
      | error fault => rfl
      | ok added => simp [answer] at refused
  | remove selection =>
      rw [perform] at refused ⊢
      cases answer : (shelf.shortlist.remove selection).value with
      | error fault => rfl
      | ok left => simp [answer] at refused
  | clear => cases refused
  | save target =>
      rw [perform]
      rcases (shelf.shortlist.saveTo target shelf.files).value with ⟨_ | _, files⟩ <;> rfl

theorem ordered_after [Machine] {shelf : Shelf} (ordered : shelf.shortlist.Ordered) (deed : Deed) :
    (shelf.after deed).shortlist.Ordered := by
  rw [shortlist_after]
  cases shelf.effect deed with
  | picked games => exact ordered.insertAll games
  | dropped games => exact ordered.eraseAll games
  | emptied => exact Shortlist.ordered_empty
  | unchanged => exact ordered

/-- After any deeds on a new shortlist, its games stand in order. -/
theorem ordered_afterAll [Machine] (files : Store) (deeds : List Deed) :
    ((new files).afterAll deeds).shortlist.Ordered := by
  induction deeds using List.reverseRecOn with
  | nil => exact Shortlist.ordered_empty
  | append_singleton deeds deed inductionHypothesis =>
      exact afterAll_concat _ deeds deed ▸ ordered_after inductionHypothesis deed

/-- One deed: a dropped name is held no more, and a picked one is held by the
game that held it before or else by the first one that was picked. -/
theorem named?_after [Machine] {shelf : Shelf} (ordered : shelf.shortlist.Ordered) (deed : Deed)
    (name : String) :
    (shelf.after deed).shortlist.named? name =
      if (shelf.effect deed).drops name then none
      else (shelf.shortlist.named? name).or
        ((shelf.effect deed).picks.find? fun game => game.sortName == name) := by
  rw [shortlist_after]
  cases shelf.effect deed with
  | picked games => exact Shortlist.named?_insertAll ordered games name
  | dropped games =>
      refine (Shortlist.named?_eraseAll shelf.shortlist games name).trans ?_
      simp only [Effect.drops, Effect.picks, List.find?_nil, Option.or_none]
  | emptied => rfl
  | unchanged => exact Option.or_none.symm

/-- Each name is held by the first game that was picked under it since it was
dropped for the last time. -/
theorem named?_afterAll [Machine] (files : Store) (deeds : List Deed) (name : String) :
    ((new files).afterAll deeds).shortlist.named? name =
      firstPicked? name ((new files).effects deeds) := by
  induction deeds using List.reverseRecOn with
  | nil => rfl
  | append_singleton deeds deed inductionHypothesis =>
      rw [afterAll_concat, effects_concat, firstPicked?_concat, ← inductionHypothesis]
      exact named?_after (ordered_afterAll files deeds) deed name

/-- After any deeds on a new shortlist, refused ones included, its names rise
strictly in small letters and are as many as its games, and a game is held
exactly if it is the first one that was picked under its name since that name
was dropped for the last time.  Adding games leaves every held one. -/
theorem held_of_history [Machine] (files : Store) (deeds : List Deed) :
    let shelf := (new files).afterAll deeds
    (shelf.shortlist.names.Pairwise fun name other => Text.lower name < Text.lower other) ∧
    shelf.shortlist.count = shelf.shortlist.names.length ∧
    (∀ name, shelf.shortlist.named? name = firstPicked? name ((new files).effects deeds)) ∧
    (∀ game, game ∈ shelf.shortlist.held ↔
      firstPicked? game.sortName ((new files).effects deeds) = some game) ∧
    ∀ selection offered, shelf.shortlist.held ⊆ (shelf.after (.add selection offered)).shortlist.held := by
  intro shelf
  have ordered : shelf.shortlist.Ordered := ordered_afterAll files deeds
  have named (name : String) :
      shelf.shortlist.named? name = firstPicked? name ((new files).effects deeds) :=
    named?_afterAll files deeds name
  refine ⟨List.pairwise_map.mpr ordered, (List.length_map _).symm, named, fun game => ?_,
    fun selection offered game member => ?_⟩
  · rw [← named, ordered.named?_eq_some, and_iff_left rfl]
  · have held : shelf.shortlist.named? game.sortName = some game :=
      ordered.named?_eq_some.mpr ⟨member, rfl⟩
    have kept : ((shelf.effect (.add selection offered)).drops game.sortName) = false := by
      rw [effect]
      cases selectGames selection (sortByName offered) <;> rfl
    have still := named?_after ordered (.add selection offered) game.sortName
    rw [kept, held, Option.some_or] at still
    exact ((ordered_after ordered _).named?_eq_some.mp still).1

end Shelf

end GameNight
