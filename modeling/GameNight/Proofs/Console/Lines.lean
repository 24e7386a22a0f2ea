import GameNight.Console
import GameNight.Program
import GameNight.Proofs.Planner.History
import GameNight.Proofs.Shortlist.History

namespace GameNight
namespace Console

open Text Number Journal Files Messages

/-!
# What a line does to the desk

A line acts through its command word and its arguments alone.  Only a filter
that names no unknown field calls the planner in a way that can change it, and
whatever a line does to the planner amounts to calls of it.  No line puts the
shortlist out of order.
-/

/-- The command word of a line, in small letters. -/
def wordOf (line : String) : String :=
  (Desk.wordAndArguments (trim line.toList)).1

/-- What follows the command word of a line, without the blanks around it. -/
def argumentsOf (line : String) : String :=
  (Desk.wordAndArguments (trim line.toList)).2

/-- The order in which the arguments of a filter ask the games to be shown, if
they name no unknown field: a field, and whether it goes upwards. -/
def filterArrangement (arguments : String) : Option (Field × Bool) :=
  if arguments.isEmpty then some (.name, true)
  else
    let clause := SortClause.parse arguments
    (Desk.sortField clause.field).toOption.map fun field => (field, clause.ascending)

/-- The order in which the arguments of a sort ask the games to be shown, if
they name a field that is known. -/
def sortArrangement (arguments : String) : Option (Field × Bool) :=
  if arguments.isEmpty then none
  else
    let clause := SortClause.parse ("sort " ++ arguments)
    clause.field.bind fun word =>
      (FieldName.word word).resolve.toOption.map fun field => (field, clause.ascending)

/-- The order in which a line asks the games to be shown.  Only filters and
sorts ask for one. -/
def arrangementOf (line : String) : Option (Field × Bool) :=
  match Command.ofWord? (wordOf line) with
  | some .filter => filterArrangement (argumentsOf line)
  | some .sort => sortArrangement (argumentsOf line)
  | _ => none

theorem printed_append (lines others : List String) :
    printed (lines ++ others) = printed lines ++ printed others := by
  rw [printed, List.map_append, String.join_append]
  rfl

/-- A command is carried out for each of its words, and for no other word. -/
theorem Command.ofWord?_eq_some {word : String} {command : Command} :
    Command.ofWord? word = some command ↔ (word, command) ∈ commandWords := by
  constructor
  · intro found
    rcases List.lookup_eq_some_iff.mp found with ⟨before, after, split, _⟩
    rw [split]
    exact List.mem_append_right _ List.mem_cons_self
  · intro member
    have each : ∀ entry ∈ commandWords, Command.ofWord? entry.1 = some entry.2 := by decide
    exact each _ member

/-- A command that has one word alone is given by that word. -/
theorem Command.word_of_only {word only : String} {command : Command}
    (given : Command.ofWord? word = some command)
    (alone : ∀ entry ∈ commandWords, entry.2 = command → entry.1 = only) : word = only :=
  alone (word, command) (Command.ofWord?_eq_some.mp given) rfl

namespace Desk

/-! ## Lines and their commands -/

theorem execute_of_command [Machine] {line : String} {command : Command} (desk : Desk)
    (given : Command.ofWord? (wordOf line) = some command) :
    (desk.execute line).value = (desk.carryOut (argumentsOf line) command).value := by
  by_cases blank : (trim line.toList).isEmpty
  · have none : wordOf line = "" := by
      rw [wordOf, List.isEmpty_iff.mp blank]
      rfl
    rw [none] at given
    cases given
  · simp only [execute, blank, Bool.false_eq_true, if_false, Logged.value_andThen]
    rw [wordOf] at given
    rw [given]
    rfl

/-- A line without a command is answered without further ado, if at all. -/
theorem execute_of_no_command [Machine] {line : String} (desk : Desk)
    (unknown : Command.ofWord? (wordOf line) = none) :
    ∃ output, (desk.execute line).value = ⟨desk, output, none, false⟩ := by
  by_cases blank : (trim line.toList).isEmpty
  · simp only [execute, blank, if_true, Logged.value_quiet]
    exact ⟨"", rfl⟩
  · simp only [execute, blank, Bool.false_eq_true, if_false, Logged.value_andThen]
    rw [wordOf] at unknown
    rw [unknown]
    exact ⟨_, rfl⟩

/-! ## What commands do to the desk -/

@[simp] theorem desk_say (desk : Desk) (line : String) : (desk.say line).desk = desk := rfl

@[simp] theorem desk_fail (desk : Desk) (fault : Fault) : (desk.fail fault).desk = desk := rfl

theorem desk_showGames [Machine] (desk : Desk) (games : List Game) (field : Field) :
    (desk.showGames games field).desk = desk := by
  rw [showGames]
  split <;> rfl

/-- Showing what a filter leaves puts the planner that it leaves on the desk. -/
theorem desk_narrowAndShow [Machine] (desk : Desk) (expression : String) (field : Field) (ascending : Bool) :
    (desk.narrowAndShow expression field ascending).value.desk =
      { desk with planner := desk.planner.after (.filter (some expression) (.known field) ascending) } := by
  simp only [narrowAndShow, Logged.value_andThen, Planner.after]
  cases answer : (desk.planner.filter (some expression) (.known field) ascending).value with
  | mk listed left =>
      cases listed with
      | error fault => rw [Planner.filter_failed answer]; rfl
      | ok games => exact desk_showGames _ games field

/-- Where a blank expression is asked for, only the answer is sorted. -/
theorem narrowAndShow_blank [Machine] (desk : Desk) (field : Field) (ascending : Bool) :
    (desk.narrowAndShow "" field ascending).value =
      desk.showGames (sortGames desk.planner.current field ascending) field := by
  simp only [narrowAndShow, Planner.filter_blank, Logged.value_andThen, Logged.value_quiet]
  rfl

/-- A filter without arguments shows the whole catalogue by name. -/
theorem filter_empty [Machine] (desk : Desk) :
    (desk.filter "").value =
      after (announce "cli.filter.reset" [])
        ({ desk with planner := desk.planner.reset }.showGames
          (sortGames desk.planner.games .name true) .name) := by
  change after _ (Desk.narrowAndShow _ "" .name true).value = _
  rw [narrowAndShow_blank]
  rfl

/-- A filter with arguments that name no unknown field narrows the games and
shows what is left. -/
theorem filter_arranged [Machine] {arguments : String} {field : Field} {ascending : Bool} (desk : Desk)
    (given : arguments.isEmpty = false)
    (asks : filterArrangement arguments = some (field, ascending)) :
    (desk.filter arguments).value =
      (desk.narrowAndShow (SortClause.parse arguments).expression field ascending).value := by
  simp only [filterArrangement, given, Bool.false_eq_true, if_false] at asks
  rcases Option.map_eq_some_iff.mp asks with ⟨other, known, same⟩
  cases same
  rw [Answer.toOption_eq_some] at known
  simp only [filter, given, Bool.false_eq_true, if_false, known]

theorem filter_refused [Machine] {arguments : String} (desk : Desk)
    (asks : filterArrangement arguments = none) :
    ∃ word, (desk.filter arguments).value = desk.unknownSortField word := by
  by_cases missing : arguments.isEmpty
  · simp [filterArrangement, missing] at asks
  · simp only [filterArrangement, missing, Bool.false_eq_true, if_false] at asks
    refine ⟨(SortClause.parse arguments).field.getD "", ?_⟩
    rcases Answer.toOption_eq_none.mp (Option.map_eq_none_iff.mp asks) with ⟨fault, unknown⟩
    simp only [filter, missing, Bool.false_eq_true, if_false, unknown]
    rfl

theorem sort_arranged [Machine] {arguments : String} {field : Field} {ascending : Bool} (desk : Desk)
    (asks : sortArrangement arguments = some (field, ascending)) :
    (desk.sort arguments).value =
      desk.showGames (sortGames desk.planner.current field ascending) field := by
  by_cases missing : arguments.isEmpty
  · simp [sortArrangement, missing] at asks
  · simp only [sortArrangement, missing, Bool.false_eq_true, if_false] at asks
    rcases Option.bind_eq_some_iff.mp asks with ⟨word, named, resolves⟩
    rcases Option.map_eq_some_iff.mp resolves with ⟨other, known, same⟩
    cases same
    rw [Answer.toOption_eq_some] at known
    simp only [sort, missing, Bool.false_eq_true, if_false, named, known, narrowAndShow_blank]

theorem sort_refused [Machine] {arguments : String} (desk : Desk) (asks : sortArrangement arguments = none) :
    (desk.sort arguments).value = desk.say (desk.helpText "sort") ∨
      ∃ word, (desk.sort arguments).value = desk.unknownSortField word := by
  by_cases missing : arguments.isEmpty
  · simp only [sort, missing, if_true]
    exact Or.inl rfl
  · simp only [sortArrangement, missing, Bool.false_eq_true, if_false] at asks
    simp only [sort, missing, Bool.false_eq_true, if_false]
    cases named : (SortClause.parse ("sort " ++ arguments)).field with
    | none => exact Or.inl rfl
    | some word =>
        rw [named, Option.bind_some, Option.map_eq_none_iff, Answer.toOption_eq_none] at asks
        rcases asks with ⟨fault, unknown⟩
        exact Or.inr ⟨word, by simp only [unknown, Logged.value_quiet]⟩

theorem desk_refuse [Machine] (desk : Desk) (selection : String) (fault : SelectionFault) :
    (desk.refuse selection fault).value.desk = desk := by
  cases fault <;> rfl

/-- What comes of a selection: it is refused, or the new shortlist is accepted. -/
def settle [Machine] (desk : Desk) (key selection : String) : Except SelectionFault Shortlist → Turn
  | .error fault => (desk.refuse selection fault).value
  | .ok shortlist => desk.accept key shortlist

theorem add_eq_settle [Machine] {arguments : String} (desk : Desk) (given : arguments ≠ "") :
    (desk.add arguments).value =
      desk.settle "cli.add.done" arguments
        (desk.shortlist.add (some arguments) desk.planner.current).value := by
  have filled : arguments.isEmpty = false := String.isEmpty_eq_false_iff.mpr given
  rw [add, filled]
  simp only [Bool.false_eq_true, if_false, Logged.value_andThen]
  cases (desk.shortlist.add (some arguments) desk.planner.current).value <;> rfl

theorem remove_eq_settle [Machine] {arguments : String} (desk : Desk) (given : arguments ≠ "") :
    (desk.remove arguments).value =
      desk.settle "cli.remove.done" arguments (desk.shortlist.remove (some arguments)).value := by
  have filled : arguments.isEmpty = false := String.isEmpty_eq_false_iff.mpr given
  rw [remove, filled]
  simp only [Bool.false_eq_true, if_false, Logged.value_andThen]
  cases (desk.shortlist.remove (some arguments)).value <;> rfl

/-- Without a selection, only the usage is told. -/
theorem add_empty [Machine] (desk : Desk) : (desk.add "").value = desk.say (announce "cli.add.usage" []) :=
  rfl

theorem remove_empty [Machine] (desk : Desk) :
    (desk.remove "").value = desk.say (announce "cli.remove.usage" []) :=
  rfl

/-- Saving does nothing to the desk but change the files. -/
theorem desk_save [Machine] (desk : Desk) (arguments : String) :
    ∃ files, (desk.save arguments).value.desk = { desk with files } := by
  simp only [save, Logged.value_andThen]
  generalize (if arguments.isEmpty then desk.listFile else Json.text arguments) = target
  rcases (desk.shortlist.saveTo target desk.files).value with ⟨outcome, files⟩
  refine ⟨files, ?_⟩
  cases outcome with
  | ok path => simp only [Logged.value_quiet, desk_say]
  | error fault => cases fault <;> simp only [Logged.value_quiet, desk_say, desk_fail]

theorem desk_help [Machine] (desk : Desk) (arguments : String) : (desk.help arguments).value.desk = desk := by
  simp only [help, Logged.value_quiet, desk_say]

theorem desk_list [Machine] (desk : Desk) : desk.list.value.desk = desk := by
  rw [list]
  split <;> simp only [Logged.value_quiet, desk_say]

/-- A filter that names no unknown field calls the planner once. -/
theorem desk_filter [Machine] {arguments : String} (desk : Desk) (asks : filterArrangement arguments ≠ none) :
    ∃ call, (desk.filter arguments).value.desk = { desk with planner := desk.planner.after call } := by
  rcases Option.ne_none_iff_exists'.mp asks with ⟨⟨field, ascending⟩, arranged⟩
  by_cases missing : arguments.isEmpty
  · rw [String.isEmpty_iff.mp missing, filter_empty, after]
    exact ⟨.reset, desk_showGames _ _ _⟩
  · rw [filter_arranged desk (Bool.eq_false_iff.mpr missing) arranged, desk_narrowAndShow]
    exact ⟨.filter (some _) (.known field) ascending, rfl⟩

theorem desk_sort [Machine] (desk : Desk) (arguments : String) : (desk.sort arguments).value.desk = desk := by
  cases asks : sortArrangement arguments with
  | none =>
      rcases sort_refused desk asks with help | ⟨word, unknown⟩
      · rw [help, desk_say]
      · rw [unknown, unknownSortField, desk_say]
  | some arrangement => rw [sort_arranged desk asks, desk_showGames]

/-! ## What a line can do to the desk -/

/-- What a line can do to the desk: nothing, or what its command word is for.
The planner is called by filters alone, a shortlist is changed by a selection
that is accepted or by clearing it, and only saving touches the files. -/
inductive Step [Machine] (desk : Desk) (line : String) : Turn → Prop
  | kept {turn : Turn} (same : turn.desk = desk) : Step desk line turn
  | called {turn : Turn} (filters : Command.ofWord? (wordOf line) = some .filter)
      (asks : arrangementOf line ≠ none) (call : Call)
      (left : turn.desk = { desk with planner := desk.planner.after call }) : Step desk line turn
  | added (adds : Command.ofWord? (wordOf line) = some .add) (given : argumentsOf line ≠ "")
      (shortlist : Shortlist)
      (accepted :
        (desk.shortlist.add (some (argumentsOf line)) desk.planner.current).value = .ok shortlist) :
      Step desk line (desk.accept "cli.add.done" shortlist)
  | removed (removes : Command.ofWord? (wordOf line) = some .remove) (given : argumentsOf line ≠ "")
      (shortlist : Shortlist)
      (accepted : (desk.shortlist.remove (some (argumentsOf line))).value = .ok shortlist) :
      Step desk line (desk.accept "cli.remove.done" shortlist)
  | cleared (clears : Command.ofWord? (wordOf line) = some .clear) :
      Step desk line ({ desk with shortlist := .empty }.say (announce "cli.clear.done" []))
  | saved {turn : Turn} (saves : Command.ofWord? (wordOf line) = some .save) (files : Store)
      (left : turn.desk = { desk with files }) : Step desk line turn

theorem step_filter [Machine] {desk : Desk} {line : String}
    (filters : Command.ofWord? (wordOf line) = some .filter) :
    Step desk line (desk.filter (argumentsOf line)).value := by
  have asked : arrangementOf line = filterArrangement (argumentsOf line) := by
    rw [arrangementOf, filters]
  by_cases asks : filterArrangement (argumentsOf line) = none
  · rcases filter_refused desk asks with ⟨word, unknown⟩
    rw [unknown]
    exact .kept rfl
  · rcases desk_filter desk asks with ⟨call, left⟩
    exact .called filters (asked ▸ asks) call left

theorem step_add [Machine] {desk : Desk} {line : String}
    (adds : Command.ofWord? (wordOf line) = some .add) :
    Step desk line (desk.add (argumentsOf line)).value := by
  by_cases missing : argumentsOf line = ""
  · rw [missing, add_empty]
    exact .kept rfl
  · rw [add_eq_settle desk missing]
    cases accepted : (desk.shortlist.add (some (argumentsOf line)) desk.planner.current).value with
    | error fault => exact .kept (desk_refuse desk _ fault)
    | ok shortlist => exact .added adds missing shortlist accepted

theorem step_remove [Machine] {desk : Desk} {line : String}
    (removes : Command.ofWord? (wordOf line) = some .remove) :
    Step desk line (desk.remove (argumentsOf line)).value := by
  by_cases missing : argumentsOf line = ""
  · rw [missing, remove_empty]
    exact .kept rfl
  · rw [remove_eq_settle desk missing]
    cases accepted : (desk.shortlist.remove (some (argumentsOf line))).value with
    | error fault => exact .kept (desk_refuse desk _ fault)
    | ok shortlist => exact .removed removes missing shortlist accepted

/-- Every line takes one of these steps. -/
theorem step_execute [Machine] (desk : Desk) (line : String) : Step desk line (desk.execute line).value := by
  cases given : Command.ofWord? (wordOf line) with
  | none =>
      rcases execute_of_no_command desk given with ⟨output, answered⟩
      rw [answered]
      exact .kept rfl
  | some command =>
      rw [execute_of_command desk given]
      cases command with
      | help =>
          rw [carryOut]
          exact .kept (desk_help desk _)
      | filter => exact step_filter given
      | sort =>
          rw [carryOut]
          exact .kept (desk_sort desk _)
      | list =>
          rw [carryOut]
          exact .kept (desk_list desk)
      | add => exact step_add given
      | remove => exact step_remove given
      | clear =>
          rw [carryOut, clear, Logged.value_quiet]
          exact .cleared given
      | save =>
          rw [carryOut]
          rcases desk_save desk (argumentsOf line) with ⟨files, changed⟩
          exact .saved given files changed
      | exit => exact .kept rfl

/-! ## The desk through a session -/

/-- A line that is no filter, or one by an unknown field, leaves the planner
as it is. -/
theorem planner_execute [Machine] {line : String} (desk : Desk)
    (idle : Command.ofWord? (wordOf line) ≠ some .filter ∨ arrangementOf line = none) :
    (desk.execute line).value.desk.planner = desk.planner := by
  have step := step_execute desk line
  generalize (desk.execute line).value = turn at step
  cases step with
  | kept same => rw [same]
  | called filters asks call left =>
      rcases idle with other | unclear
      · exact absurd filters other
      · exact absurd unclear asks
  | added => rfl
  | removed => rfl
  | cleared => rfl
  | saved saves files left => rw [left]

theorem planner_execute_calls [Machine] (desk : Desk) (line : String) :
    ∃ calls, (desk.execute line).value.desk.planner = desk.planner.afterAll calls := by
  have step := step_execute desk line
  generalize (desk.execute line).value = turn at step
  cases step with
  | kept same => exact ⟨[], by rw [same]; rfl⟩
  | called filters asks call left => exact ⟨[call], by rw [left]; rfl⟩
  | added => exact ⟨[], rfl⟩
  | removed => exact ⟨[], rfl⟩
  | cleared => exact ⟨[], rfl⟩
  | saved saves files left => exact ⟨[], by rw [left]; rfl⟩

theorem ordered_execute [Machine] {desk : Desk} (ordered : desk.shortlist.Ordered) (line : String) :
    (desk.execute line).value.desk.shortlist.Ordered := by
  have step := step_execute desk line
  generalize (desk.execute line).value = turn at step
  cases step with
  | kept same => rwa [same]
  | called filters asks call left => rwa [left]
  | added adds given shortlist accepted => exact ordered.add accepted
  | removed removes given shortlist accepted => exact ordered.remove accepted
  | cleared => exact Shortlist.ordered_empty
  | saved saves files left => rwa [left]

/-- The desk on which a session over a catalogue starts. -/
def opened (games : List Game) (files : Store) (listFile : Json) : Desk :=
  ⟨.ofGames games, .empty, files, listFile⟩

/-- The desk after some lines, whatever came of each of them. -/
def afterLines [Machine] (desk : Desk) (lines : List String) : Desk :=
  lines.foldl (fun desk line => (desk.execute line).value.desk) desk

theorem afterLines_append [Machine] (desk : Desk) (lines later : List String) :
    desk.afterLines (lines ++ later) = (desk.afterLines lines).afterLines later :=
  List.foldl_append

theorem planner_afterLines [Machine] (desk : Desk) (lines : List String) :
    ∃ calls, (desk.afterLines lines).planner = desk.planner.afterAll calls := by
  induction lines generalizing desk with
  | nil => exact ⟨[], rfl⟩
  | cons line rest inductionHypothesis =>
      rcases planner_execute_calls desk line with ⟨calls, first⟩
      rcases inductionHypothesis (desk.execute line).value.desk with ⟨later, others⟩
      refine ⟨calls ++ later, ?_⟩
      rw [Planner.afterAll_append, ← first]
      exact others

/-- No line changes where lists are saved unless another file is named. -/
theorem listFile_execute [Machine] (desk : Desk) (line : String) :
    (desk.execute line).value.desk.listFile = desk.listFile := by
  have step := step_execute desk line
  generalize (desk.execute line).value = turn at step
  cases step with
  | kept same => rw [same]
  | called filters asks call left => rw [left]
  | added => rfl
  | removed => rfl
  | cleared => rfl
  | saved saves files left => rw [left]

theorem listFile_afterLines [Machine] (desk : Desk) (lines : List String) :
    (desk.afterLines lines).listFile = desk.listFile := by
  induction lines generalizing desk with
  | nil => rfl
  | cons line rest inductionHypothesis =>
      exact (inductionHypothesis (desk.execute line).value.desk).trans (listFile_execute desk line)

/-- A session keeps its catalogue, and games of it are left in its order. -/
theorem planner_of_session [Machine] (games : List Game) (files : Store) (listFile : Json)
    (lines : List String) :
    ((opened games files listFile).afterLines lines).planner.games = distinctGames games ∧
      ((opened games files listFile).afterLines lines).planner.current.Sublist
        (distinctGames games) := by
  rcases planner_afterLines (opened games files listFile) lines with ⟨calls, planner⟩
  have reflects := Planner.reflects_ofGames games calls
  rw [planner, opened]
  refine ⟨reflects.games, ?_⟩
  rw [reflects.current]
  exact List.filter_sublist

theorem ordered_afterLines [Machine] {desk : Desk} (ordered : desk.shortlist.Ordered) (lines : List String) :
    (desk.afterLines lines).shortlist.Ordered := by
  induction lines generalizing desk with
  | nil => exact ordered
  | cons line rest inductionHypothesis => exact inductionHypothesis (ordered_execute ordered line)

end Desk
end Console
end GameNight
