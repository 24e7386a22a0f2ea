import GameNight.Proofs.Console.Faults
import GameNight.Proofs.Game.Shown
import GameNight.Proofs.Shortlist.Refusal

namespace GameNight
namespace Console

open Text Number Journal Files Messages

/-!
# What lines leave as it is

Every command changes what it is for and nothing else.  The catalogue stays the
same throughout a session, filters alone choose the games that are left of it,
and three commands alone change the shortlist, which holds games of the
catalogue only, whatever has been filtered since they were added.

A line that is rejected changes neither the games that are left nor the
shortlist.  The same goes for a line that ends in a fault, whatever it had done
before, as long as the whole numbers of the games can be written.  Those of a
catalogue that has been loaded can, since they have been read.  Games with longer
numbers would be narrowed by a filter whose listing then breaks off.
-/

namespace Desk

/-! ## Lines that are rejected -/

/-- What makes the console reject a line: no command has its word, there is
nothing to sort by or to pick, no field has the name that is to be sorted by,
the selection picks nothing, or the list cannot be saved. -/
inductive Rejects [Machine] (desk : Desk) (line : String) : Prop
  | unknownCommand (unknown : ∀ entry ∈ commandWords, wordOf line ≠ entry.1)
  | missingArguments (word : wordOf line ∈ ["sort", "add", "remove"])
      (missing : argumentsOf line = "")
  | unknownSortField (word : wordOf line ∈ ["filter", "sort"]) (unknown : arrangementOf line = none)
  | invalidAddition (word : wordOf line = "add") (fault : SelectionFault)
      (refused :
        (desk.shortlist.add (some (argumentsOf line)) desk.planner.current).value = .error fault)
  | invalidRemoval (word : wordOf line = "remove") (fault : SelectionFault)
      (refused : (desk.shortlist.remove (some (argumentsOf line))).value = .error fault)
  | failedSave (word : wordOf line = "save") (fault : SavingFault)
      (refused :
        (desk.shortlist.saveTo (desk.target (argumentsOf line)) desk.files).value.1 = .error fault)

/-- A line that is rejected or fails has to leave the games that are left and the
shortlist untouched. -/
structure Untouched (desk : Desk) (turn : Turn) : Prop where
  left : turn.desk.planner.current = desk.planner.current
  shortlist : turn.desk.shortlist = desk.shortlist

/-! ## One line -/

/-- A line with none of the words that are for the shortlist leaves it as it is. -/
theorem shortlist_execute [Machine] {line : String} (desk : Desk)
    (other : wordOf line ∉ ["add", "remove", "clear"]) :
    (desk.execute line).value.desk.shortlist = desk.shortlist := by
  have step := step_execute desk line
  generalize (desk.execute line).value = turn at step
  cases step with
  | kept same => rw [same]
  | called filters asks call left => rw [left]
  | saved saves files left => rw [left]
  | added adds =>
      have word : wordOf line = "add" := Command.word_of_only adds (by decide)
      exact absurd (by simp [word]) other
  | removed removes =>
      have word : wordOf line = "remove" := Command.word_of_only removes (by decide)
      exact absurd (by simp [word]) other
  | cleared clears =>
      have word : wordOf line = "clear" := Command.word_of_only clears (by decide)
      exact absurd (by simp [word]) other

/-- A line with another word than that of filters leaves the planner as it is. -/
theorem planner_execute_of_word [Machine] {line : String} (desk : Desk) (other : wordOf line ≠ "filter") :
    (desk.execute line).value.desk.planner = desk.planner := by
  apply planner_execute desk
  refine Or.inl fun filters => other ?_
  exact Command.word_of_only filters (by decide)

theorem Rejects.planner_execute [Machine] {desk : Desk} {line : String} (rejects : desk.Rejects line) :
    (desk.execute line).value.desk.planner = desk.planner := by
  cases rejects with
  | unknownCommand unknown =>
      exact planner_execute_of_word desk (unknown ("filter", .filter) (by decide))
  | missingArguments word missing =>
      exact planner_execute_of_word desk fun filters => absurd (filters ▸ word) (by decide)
  | unknownSortField word unknown => exact Desk.planner_execute desk (Or.inr unknown)
  | invalidAddition word => exact planner_execute_of_word desk (by rw [word]; decide)
  | invalidRemoval word => exact planner_execute_of_word desk (by rw [word]; decide)
  | failedSave word => exact planner_execute_of_word desk (by rw [word]; decide)

/-- An addition without a selection, or with one that is refused, does nothing
to the desk. -/
theorem desk_add_refused [Machine] {desk : Desk} {arguments : String}
    (refused : arguments = "" ∨ ∃ fault,
      (desk.shortlist.add (some arguments) desk.planner.current).value = .error fault) :
    (desk.add arguments).value.desk = desk := by
  by_cases missing : arguments = ""
  · rw [missing, add_empty, desk_say]
  · rcases refused.resolve_left missing with ⟨fault, invalid⟩
    rw [add_eq_settle desk missing, invalid]
    exact desk_refuse desk arguments fault

theorem desk_remove_refused [Machine] {desk : Desk} {arguments : String}
    (refused : arguments = "" ∨ ∃ fault,
      (desk.shortlist.remove (some arguments)).value = .error fault) :
    (desk.remove arguments).value.desk = desk := by
  by_cases missing : arguments = ""
  · rw [missing, remove_empty, desk_say]
  · rcases refused.resolve_left missing with ⟨fault, invalid⟩
    rw [remove_eq_settle desk missing, invalid]
    exact desk_refuse desk arguments fault

theorem Rejects.shortlist_execute [Machine] {desk : Desk} {line : String} (rejects : desk.Rejects line) :
    (desk.execute line).value.desk.shortlist = desk.shortlist := by
  have adding (word : wordOf line = "add") :
      (desk.execute line).value = (desk.add (argumentsOf line)).value := by
    have adds : Command.ofWord? (wordOf line) = some .add := by rw [word]; rfl
    rw [execute_of_command desk adds, carryOut]
  have removing (word : wordOf line = "remove") :
      (desk.execute line).value = (desk.remove (argumentsOf line)).value := by
    have removes : Command.ofWord? (wordOf line) = some .remove := by rw [word]; rfl
    rw [execute_of_command desk removes, carryOut]
  cases rejects with
  | unknownCommand unknown =>
      apply Desk.shortlist_execute desk
      intro known
      simp only [List.mem_cons, List.not_mem_nil, or_false] at known
      rcases known with word | word | word
      · exact unknown ("add", .add) (by decide) word
      · exact unknown ("remove", .remove) (by decide) word
      · exact unknown ("clear", .clear) (by decide) word
  | missingArguments word missing =>
      simp only [List.mem_cons, List.not_mem_nil, or_false] at word
      rcases word with word | word | word
      · exact Desk.shortlist_execute desk (by rw [word]; decide)
      · rw [adding word, desk_add_refused (Or.inl missing)]
      · rw [removing word, desk_remove_refused (Or.inl missing)]
  | unknownSortField word unknown =>
      simp only [List.mem_cons, List.not_mem_nil, or_false] at word
      rcases word with word | word
      · exact Desk.shortlist_execute desk (by rw [word]; decide)
      · exact Desk.shortlist_execute desk (by rw [word]; decide)
  | invalidAddition word fault refused =>
      rw [adding word, desk_add_refused (Or.inr ⟨fault, refused⟩)]
  | invalidRemoval word fault refused =>
      rw [removing word, desk_remove_refused (Or.inr ⟨fault, refused⟩)]
  | failedSave word => exact Desk.shortlist_execute desk (by rw [word]; decide)

/-- A line that ends in a fault leaves the shortlist as it is. -/
theorem shortlist_of_fault [Machine] {desk : Desk} {line : String} {fault : Fault}
    (failed : (desk.execute line).value.fault = some fault) :
    (desk.execute line).value.desk.shortlist = desk.shortlist := by
  have step := step_execute desk line
  generalize (desk.execute line).value = turn at step failed
  cases step with
  | kept same => rw [same]
  | called filters asks call left => rw [left]
  | saved saves files left => rw [left]
  | added => cases failed
  | removed => cases failed
  | cleared => cases failed

/-- A line that ends in a fault leaves the planner as it is, unless it is a filter
whose listing breaks off. -/
theorem planner_of_fault [Machine] {desk : Desk} {line : String} {fault : Fault}
    (failed : (desk.execute line).value.fault = some fault) :
    (desk.execute line).value.desk.planner = desk.planner ∨
      wordOf line = "filter" ∧
        ∃ reason, fault = .writing reason ∧ BreaksOff line (desk.execute line).value reason := by
  have fails := fails_of_fault failed
  by_cases filters : wordOf line = "filter"
  · cases fails with
    | overreached _ _ _ _ _ kept => exact Or.inl (by rw [kept])
    | brokeOff breaks => exact Or.inr ⟨filters, _, rfl, breaks⟩
    | unread _ _ _ kept => exact Or.inl (by rw [kept])
    | unsaved saves =>
        rw [filters] at saves
        cases saves
  · exact Or.inl (planner_execute_of_word desk filters)

/-- Where the numbers of the games that are left can be written, nothing remains
of a line that ends in a fault. -/
theorem untouched_of_fault [Machine] {desk : Desk} {line : String} {fault : Fault}
    (writable : ∀ game ∈ (desk.execute line).value.desk.planner.current, game.Writable)
    (failed : (desk.execute line).value.fault = some fault) :
    desk.Untouched (desk.execute line).value := by
  refine ⟨?_, shortlist_of_fault failed⟩
  rcases planner_of_fault failed with same | ⟨_, reason, _, breaks⟩
  · rw [same]
  · exact absurd breaks (not_breaksOff writable)

/-! ## Games of the shortlist -/

/-- Where the games that are left and the games of the shortlist are games of a
catalogue, those of the shortlist stay so. -/
theorem held_execute [Machine] {desk : Desk} {catalogue : List Game}
    (offered : desk.planner.current ⊆ catalogue) (held : desk.shortlist.held ⊆ catalogue)
    (line : String) : (desk.execute line).value.desk.shortlist.held ⊆ catalogue := by
  have step := step_execute desk line
  generalize (desk.execute line).value = turn at step
  cases step with
  | kept same => rwa [same]
  | called filters asks call left => rwa [left]
  | added adds given shortlist accepted =>
      exact List.Subset.trans (Shortlist.add_subset accepted) (List.append_subset.mpr ⟨offered, held⟩)
  | removed removes given shortlist accepted =>
      exact List.Subset.trans (Shortlist.remove_subset accepted) held
  | cleared => exact List.nil_subset catalogue
  | saved saves files left => rwa [left]

theorem held_of_session [Machine] (games : List Game) (files : Store) (listFile : Json) (lines : List String) :
    ((opened games files listFile).afterLines lines).shortlist.held ⊆ distinctGames games := by
  induction lines using List.reverseRecOn with
  | nil => exact List.nil_subset _
  | append_singleton lines line inductionHypothesis =>
      have offered := (planner_of_session games files listFile lines).2.subset
      rw [afterLines_append]
      exact held_execute offered inductionHypothesis line

/-! ## Sessions -/

/-- What a line has to leave as it is, and which games it has to leave in the
shortlist. -/
structure Framed [Machine] (desk : Desk) (line : String) (turn : Turn) : Prop where
  catalogue : turn.desk.planner.games = desk.planner.games
  left : wordOf line ≠ "filter" → turn.desk.planner.current = desk.planner.current
  listed : wordOf line ∉ ["add", "remove", "clear"] → turn.desk.shortlist = desk.shortlist
  origin : turn.desk.shortlist.held ⊆ turn.desk.planner.games
  rejected : desk.Rejects line → desk.Untouched turn
  failed : ∀ fault, turn.fault = some fault →
    desk.Untouched turn ∨
      turn.desk.shortlist = desk.shortlist ∧ wordOf line = "filter" ∧
        ∃ reason, fault = .writing reason ∧ BreaksOff line turn reason

/-- In every session, each line keeps the catalogue and what it is not for, and
the games of the shortlist are games of the catalogue.  A line that is rejected
or ends in a fault changes neither the games that are left nor the shortlist.
For faults this is said of games with numbers that can be written, and so of
every catalogue that has been loaded; only a filter whose listing breaks off at
a number could narrow other games. -/
theorem framed_of_session [Machine] (games : List Game) (files : Store) (listFile : Json)
    (earlier : List String) (line : String) :
    let desk := (Desk.opened games files listFile).afterLines earlier
    let turn := (desk.execute line).value
    desk.planner.games = distinctGames games ∧ desk.Framed line turn ∧
      ((∀ game ∈ games, game.Writable) → turn.fault ≠ none → desk.Untouched turn) ∧
      ∀ surroundings wish timeout,
        (Catalogue.loadFor surroundings wish timeout).value.games = .ok games →
          turn.fault ≠ none → desk.Untouched turn := by
  intro desk turn
  have before := (planner_of_session games files listFile earlier).1
  have planned := planner_of_session games files listFile (earlier ++ [line])
  have held := held_of_session games files listFile (earlier ++ [line])
  rw [afterLines_append] at planned held
  have failing (writable : ∀ game ∈ games, game.Writable) (failed : turn.fault ≠ none) :
      desk.Untouched turn := by
    rcases Option.ne_none_iff_exists'.mp failed with ⟨fault, met⟩
    refine untouched_of_fault (fun game left => writable game ?_) met
    exact (distinctGames_sublist games).subset (planned.2.subset left)
  refine ⟨before, ?_, failing, fun surroundings wish timeout loaded =>
    failing (Catalogue.writable_of_loadFor loaded)⟩
  constructor
  case catalogue => exact planned.1.trans before.symm
  case left =>
    intro other
    rw [planner_execute_of_word desk other]
  case listed => exact shortlist_execute desk
  case origin =>
    intro game member
    exact planned.1.symm ▸ held member
  case rejected =>
    intro rejects
    exact ⟨by rw [rejects.planner_execute], rejects.shortlist_execute⟩
  case failed =>
    intro fault failed
    rcases planner_of_fault failed with same | brokeOff
    · exact Or.inl ⟨by rw [same], shortlist_of_fault failed⟩
    · exact Or.inr ⟨shortlist_of_fault failed, brokeOff⟩

section

attribute [local instance] Machine.usual

/-- A rank that has been read from a catalogue is too large to be compared, and the
filter leaves no trace. -/
theorem untouched_of_large_rank :
    ∃ game,
      (Catalogue.parse (Catalogue.textWith true Catalogue.plainHeader [largeRankLine])
        "<string>").value = .ok [game] ∧
      let desk := (Desk.opened [game] .empty (.text "games.txt")).afterLines ["add all"]
      let turn := (desk.execute "filter name==go, rank>0").value
      turn.fault = some (.tooLarge .forDouble) ∧ desk.Untouched turn := by
  have failed : (((Desk.opened [largeRankGame] .empty (.text "games.txt")).afterLines
      ["add all"]).execute "filter name==go, rank>0").value.fault = some (.tooLarge .forDouble) := by
    decide +kernel
  have framed := framed_of_session [largeRankGame] .empty (.text "games.txt") ["add all"]
    "filter name==go, rank>0"
  refine ⟨largeRankGame, parse_largeRankLine, failed,
    framed.2.2.1 (Catalogue.writable_of_parse parse_largeRankLine) ?_⟩
  rw [failed]
  exact Option.some_ne_none _

end

end Desk
end Console
end GameNight
