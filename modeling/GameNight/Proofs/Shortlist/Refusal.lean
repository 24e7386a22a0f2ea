import GameNight.Proofs.Files.Directories
import GameNight.Proofs.Shortlist.History
import GameNight.Proofs.Shortlist.Selection

namespace GameNight

open Text Number Journal Files

/-!
# Deeds that are refused

Deeds pick from what they are offered, or are refused and leave the held games as they
were.
-/

/-!
## Where the games of a shortlist come from

A selection picks games from those it is given.  So the games of a shortlist
are games that were offered to it, and a shortlist that is offered games of one
catalogue only holds no others.
-/

theorem gameNumbered_subset {token : List Char} {candidates games : List Game}
    (picked : gameNumbered token candidates = .ok games) : games ⊆ candidates := by
  rw [gameNumbered] at picked
  split at picked
  · cases picked
  · split at picked
    · cases picked
    · split at picked
      · rename_i game placed
        cases picked
        exact List.cons_subset.mpr ⟨List.mem_of_getElem? placed, List.nil_subset candidates⟩
      · cases picked

theorem gamesInRange_subset {token first last : List Char} {candidates games : List Game}
    (picked : gamesInRange token first last candidates = .ok games) : games ⊆ candidates := by
  rw [gamesInRange] at picked
  split at picked
  · cases picked
  · cases picked
  · split at picked
    · cases picked
    · cases picked
      exact fun game member => List.mem_of_mem_take (List.mem_of_mem_drop member)

theorem gameNamed_subset {token : List Char} {candidates games : List Game}
    (picked : gameNamed token candidates = .ok games) : games ⊆ candidates := by
  rw [gameNamed] at picked
  split at picked
  · rename_i game found
    cases picked
    exact List.cons_subset.mpr ⟨List.mem_of_find?_eq_some found, List.nil_subset candidates⟩
  · cases picked

/-- A selection picks from the games that it is given. -/
theorem selectGames_subset {selection : Option String} {candidates games : List Game}
    (picked : selectGames selection candidates = .ok games) : games ⊆ candidates := by
  simp only [selectGames] at picked
  split at picked
  · cases picked
  · split at picked
    · cases picked
      exact List.Subset.refl candidates
    · split at picked
      · exact gameNumbered_subset picked
      · split at picked
        · exact gamesInRange_subset picked
        · exact gameNamed_subset picked

namespace Shortlist

theorem insertAll_subset (shortlist : Shortlist) (games : List Game) :
    (shortlist.insertAll games).held ⊆ games ++ shortlist.held := by
  induction games generalizing shortlist with
  | nil => exact List.Subset.refl shortlist.held
  | cons game rest inductionHypothesis =>
      intro other member
      rcases List.mem_append.mp (inductionHypothesis (shortlist.insert game) member) with later | held
      · exact List.mem_append_left _ (List.mem_cons_of_mem game later)
      · rcases mem_insertByName held with same | before
        · exact same ▸ List.mem_cons_self
        · exact List.mem_append_right _ before

theorem eraseAll_subset (shortlist : Shortlist) (games : List Game) :
    (shortlist.eraseAll games).held ⊆ shortlist.held := by
  induction games generalizing shortlist with
  | nil => exact List.Subset.refl shortlist.held
  | cons game rest inductionHypothesis =>
      exact List.Subset.trans (inductionHypothesis (shortlist.erase game)) List.filter_sublist.subset

/-- An addition takes games from those on offer. -/
theorem add_subset {shortlist added : Shortlist} {selection : Option String} {offered : List Game}
    (accepted : (shortlist.add selection offered).value = .ok added) :
    added.held ⊆ offered ++ shortlist.held := by
  rw [add] at accepted
  cases picked : selectGames selection (sortByName offered) with
  | error fault =>
      rw [picked] at accepted
      cases accepted
  | ok games =>
      rw [picked] at accepted
      cases accepted
      have among : games ⊆ offered := fun game member =>
        (sortByName_perm offered).subset (selectGames_subset picked member)
      exact List.Subset.trans (shortlist.insertAll_subset games)
        (List.append_subset.mpr
          ⟨List.subset_append_of_subset_left _ among, List.subset_append_right _ _⟩)

/-- A removal leaves games that were held. -/
theorem remove_subset {shortlist left : Shortlist} {selection : Option String}
    (accepted : (shortlist.remove selection).value = .ok left) : left.held ⊆ shortlist.held := by
  rw [remove] at accepted
  cases picked : selectGames selection shortlist.held with
  | error fault =>
      rw [picked] at accepted
      cases accepted
  | ok games =>
      rw [picked] at accepted
      cases accepted
      exact shortlist.eraseAll_subset games

end Shortlist

/-- Whether a deed offers no games but those of a catalogue. -/
def Deed.OffersFrom (catalogue : List Game) : Deed → Prop
  | .add _ offered => offered ⊆ catalogue
  | _ => True

namespace Shelf

theorem held_subset_after [Machine] {shelf : Shelf} {catalogue : List Game} {deed : Deed}
    (held : shelf.shortlist.held ⊆ catalogue) (offers : deed.OffersFrom catalogue) :
    (shelf.after deed).shortlist.held ⊆ catalogue := by
  rw [shortlist_after]
  cases deed with
  | add selection offered =>
      rw [effect]
      cases picked : selectGames selection (sortByName offered) with
      | error fault => exact held
      | ok games =>
          have among : games ⊆ catalogue := fun game member =>
            offers ((sortByName_perm offered).subset (selectGames_subset picked member))
          exact List.Subset.trans (shelf.shortlist.insertAll_subset games)
            (List.append_subset.mpr ⟨among, held⟩)
  | remove selection =>
      rw [effect]
      cases selectGames selection shelf.shortlist.held with
      | error fault => exact held
      | ok games => exact List.Subset.trans (shelf.shortlist.eraseAll_subset games) held
  | clear => exact List.nil_subset catalogue
  | save target => exact held

/-- A shortlist that is offered games of a catalogue holds no others. -/
theorem held_subset_afterAll [Machine] (files : Store) {catalogue : List Game} {deeds : List Deed}
    (offers : ∀ deed ∈ deeds, deed.OffersFrom catalogue) :
    ((new files).afterAll deeds).shortlist.held ⊆ catalogue := by
  induction deeds using List.reverseRecOn with
  | nil => exact List.nil_subset catalogue
  | append_singleton deeds deed inductionHypothesis =>
      have earlier : ∀ other ∈ deeds, other.OffersFrom catalogue :=
        fun other member => offers other (List.mem_append_left _ member)
      rw [afterAll_concat]
      exact held_subset_after (inductionHypothesis earlier)
        (offers deed (List.mem_append_right _ (List.mem_singleton_self deed)))

end Shelf

/-!
## How deeds are refused

A deed that is refused should be refused with a report: what is wrong with the
selection, or that the file cannot be written.  There are two gaps.  A number
with too many digits in a selection is never compared with the numbers on
offer, and a file name is not looked at before its directory is made, so that a
NUL in it and too many missing directories come up unreported.

Apart from these, every deed is accepted or refused with a report.  Whatever
the fault, the held games stay as they are.
-/

/-- Whether a fault says what is wrong with a selection. -/
def SelectionFault.Reported : SelectionFault → Prop
  | .tooManyDigits _ => False
  | _ => True

/-- Whether a fault says that a file cannot be written. -/
def SavingFault.Reported : SavingFault → Prop
  | .refused _ => True
  | _ => False

/-- A selection fails without a report exactly when it is unreadable. -/
theorem selectGames_unreported (selection : Option String) (candidates : List Game) :
    (∃ fault, selectGames selection candidates = .error fault ∧ ¬fault.Reported) ↔
      Unreadable selection := by
  rw [← selectGames_tooManyDigits selection candidates]
  constructor
  · rintro ⟨fault, failed, unreported⟩
    cases fault with
    | tooManyDigits digits => exact ⟨digits, failed⟩
    | _ => exact absurd trivial unreported
  · rintro ⟨digits, failed⟩
    exact ⟨_, failed, id⟩

/-- A file name under which nothing can be saved without this being reported: it
lies below too many missing directories, or it holds a NUL and its directory is
not refused before. -/
def Unsavable [Machine] (files : Store) (name : String) : Prop :=
  let directory := (Path.ofString name).parent
  files.TooDeep directory ∨
    Char.ofNat 0 ∈ name.toList ∧
      ∀ refusal path, (files.makeDirectories directory).1 ≠ .error (.refused refusal path)

namespace Shortlist

/-- Saving goes too deep exactly when making the directory does. -/
theorem save_eq_tooDeep [Machine] (shortlist : Shortlist) (path : Path) (files : Store) :
    (shortlist.save path files).value.1 = .error .tooDeep ↔ files.TooDeep path.parent := by
  rw [← files.makeDirectories_tooDeep, save]
  rcases files.makeDirectories path.parent with ⟨_ | location, prepared⟩
  case error fault => cases fault <;> simp [SavingFault.ofTarget]
  case ok =>
    refine iff_of_false (fun failed => ?_) (fun made => nomatch made)
    simp only at failed
    cases written : prepared.write path shortlist.savedText.toUTF8 with
    | ok after =>
        rw [written] at failed
        cases failed
    | error fault =>
        rw [written] at failed
        cases fault <;> cases failed

/-- Saving meets a NUL exactly when the path holds one, unless making the
directory comes to another end before. -/
theorem save_eq_embeddedNul [Machine] (shortlist : Shortlist) (path : Path) (files : Store) :
    (shortlist.save path files).value.1 = .error .embeddedNul ↔
      path.holdsNul = true ∧ ¬files.TooDeep path.parent ∧
        ∀ refusal place, (files.makeDirectories path.parent).1 ≠ .error (.refused refusal place) := by
  rw [← files.makeDirectories_tooDeep, save]
  have met := files.makeDirectories_embeddedNul path.parent
  generalize files.makeDirectories path.parent = answer at met ⊢
  rcases answer with ⟨_ | location, prepared⟩
  case error fault =>
    cases fault with
    | refused refusal place => simp [SavingFault.ofTarget]
    | tooDeep => simp [SavingFault.ofTarget]
    | embeddedNul =>
        have held : path.holdsNul = true := Path.holdsNul_of_parent (met.mp rfl)
        simp [SavingFault.ofTarget, held]
  case ok =>
    simp only [reduceCtorEq, not_false_eq_true, ne_eq, implies_true, and_true]
    rw [← prepared.write_eq_embeddedNul path shortlist.savedText.toUTF8]
    cases prepared.write path shortlist.savedText.toUTF8 with
    | ok written => simp
    | error fault => cases fault <;> simp [SavingFault.ofTarget, TargetFault.ofFault]

theorem unreported_save [Machine] {shortlist : Shortlist} {path : Path} {files : Store} {fault : SavingFault}
    (failed : (shortlist.save path files).value.1 = .error fault) (unreported : ¬fault.Reported) :
    fault = .tooDeep ∨ fault = .embeddedNul := by
  cases fault with
  | refused => exact absurd trivial unreported
  | tooDeep => exact Or.inl rfl
  | embeddedNul => exact Or.inr rfl
  | notAPath kind =>
      rw [save] at failed
      split at failed
      · rename_i fault _ _
        cases fault <;> cases failed
      · split at failed
        · rename_i fault _
          cases fault <;> cases failed
        · cases failed

/-- Saving fails without a report exactly when the file name is unsavable. -/
theorem save_unreported [Machine] (shortlist : Shortlist) (name : String) (files : Store) :
    (∃ fault, (shortlist.save (.ofString name) files).value.1 = .error fault ∧ ¬fault.Reported) ↔
      Unsavable files name := by
  rw [Unsavable, ← Path.holdsNul_ofString]
  constructor
  · rintro ⟨fault, failed, unreported⟩
    rcases unreported_save failed unreported with deep | nul
    · exact Or.inl ((save_eq_tooDeep _ _ _).mp (deep ▸ failed))
    · have met := (save_eq_embeddedNul _ _ _).mp (nul ▸ failed)
      exact Or.inr ⟨met.1, met.2.2⟩
  · intro unsavable
    by_cases deep : files.TooDeep (Path.ofString name).parent
    · exact ⟨.tooDeep, (save_eq_tooDeep _ _ _).mpr deep, id⟩
    · have held := unsavable.resolve_left deep
      exact ⟨.embeddedNul, (save_eq_embeddedNul _ _ _).mpr ⟨held.1, deep, held.2⟩, id⟩

/-- An addition is refused for what is wrong with its selection. -/
theorem add_eq_error (shortlist : Shortlist) (selection : Option String) (offered : List Game)
    (fault : SelectionFault) :
    (shortlist.add selection offered).value = .error fault ↔
      selectGames selection (sortByName offered) = .error fault := by
  rw [add]
  cases selectGames selection (sortByName offered) <;> simp

/-- A removal is refused for what is wrong with its selection. -/
theorem remove_eq_error (shortlist : Shortlist) (selection : Option String) (fault : SelectionFault) :
    (shortlist.remove selection).value = .error fault ↔
      selectGames selection shortlist.held = .error fault := by
  rw [remove]
  cases selectGames selection shortlist.held <;> simp

end Shortlist

/-- Whether a deed was accepted, or refused for what is wrong with its selection. -/
def SettledBySelection (answer : Except DeedFault Unit) : Prop :=
  answer = .ok () ∨ ∃ fault, answer = .error (.selection fault) ∧ fault.Reported

/-- Whether a deed was accepted, or refused because its file cannot be written. -/
def SettledByWriting (answer : Except DeedFault Unit) : Prop :=
  answer = .ok () ∨ ∃ fault, answer = .error (.saving fault) ∧ fault.Reported

namespace Shelf

theorem settled_add [Machine] (shelf : Shelf) (selection : Option String) (offered : List Game) :
    SettledBySelection (shelf.perform (.add selection offered)).1 ↔ ¬Unreadable selection := by
  rw [SettledBySelection, perform, Shortlist.add,
    ← selectGames_unreported selection (sortByName offered)]
  cases selectGames selection (sortByName offered) with
  | ok games => simp
  | error fault => simp

theorem settled_remove [Machine] (shelf : Shelf) (selection : Option String) :
    SettledBySelection (shelf.perform (.remove selection)).1 ↔ ¬Unreadable selection := by
  rw [SettledBySelection, perform, Shortlist.remove,
    ← selectGames_unreported selection shelf.shortlist.held]
  cases selectGames selection shelf.shortlist.held with
  | ok games => simp
  | error fault => simp

theorem settled_save [Machine] (shelf : Shelf) (name : String) :
    SettledByWriting (shelf.perform (.save (.text name))).1 ↔ ¬Unsavable shelf.files name := by
  rw [SettledByWriting, perform, Shortlist.saveTo,
    ← shelf.shortlist.save_unreported name shelf.files]
  rcases (shelf.shortlist.save (.ofString name) shelf.files).value with ⟨_ | written, left⟩
  · simp
  · simp

/-- After any deeds on a new shortlist, additions and removals are settled unless
their selection is unreadable, and saving is settled unless the file name is
unsavable, and only then.  A deed that is refused for any reason leaves the held
games as they are. -/
theorem deeds_settle_iff [Machine] (files : Store) (deeds : List Deed) :
    let shelf := (new files).afterAll deeds
    (∀ selection offered,
      SettledBySelection (shelf.perform (.add selection offered)).1 ↔ ¬Unreadable selection) ∧
    (∀ selection,
      SettledBySelection (shelf.perform (.remove selection)).1 ↔ ¬Unreadable selection) ∧
    (∀ name,
      SettledByWriting (shelf.perform (.save (.text name))).1 ↔ ¬Unsavable shelf.files name) ∧
    ∀ deed fault, (shelf.perform deed).1 = .error fault →
      (shelf.after deed).shortlist = shelf.shortlist := by
  intro shelf
  exact ⟨shelf.settled_add, shelf.settled_remove, shelf.settled_save,
    fun deed fault refused => shortlist_after_refused refused⟩

section

attribute [local instance] Machine.usual

/-- A new shortlist does not settle the addition of a number with one digit too
many, nor saving under a name with a NUL. -/
theorem unsettled_deeds :
    ¬SettledBySelection ((new .empty).perform
      (.add (some (String.ofList (List.replicate (digitLimit + 1) '1'))) [{ name := "Go" }])).1 ∧
    ¬SettledByWriting ((new .empty).perform (.save (.text "a\x00b"))).1 := by
  rw [settled_add, settled_save, Classical.not_not, Classical.not_not]
  constructor
  · have digits : ∀ c ∈ List.replicate (digitLimit + 1) '1', isDecimal c = true ∧ isBlank c = false := by
      intro c member
      rw [List.eq_of_mem_replicate member]
      decide
    have token : trim (List.replicate (digitLimit + 1) '1') = List.replicate (digitLimit + 1) '1' :=
      trim_of_filled fun c member => (digits c member).2
    rw [Unreadable, Option.getD_some, String.toList_ofList, token]
    refine Or.inl ⟨isNumeral_iff.mpr ⟨?_, fun c member => (digits c member).1⟩, ?_⟩
    · exact List.cons_ne_nil _ _
    · rw [List.length_replicate]
      exact Nat.lt_succ_self digitLimit
  · have made : (Store.empty.makeDirectories (Path.ofString "a\x00b").parent).1 =
        .ok (.ofRoot .working) := rfl
    refine Or.inr ⟨by decide, fun refusal path refused => ?_⟩
    rw [new, made] at refused
    cases refused

end

end Shelf

end GameNight
