import GameNight.Console
import GameNight.Proofs.Console.Lines
import GameNight.Proofs.Messages.Segments
import GameNight.Proofs.Text.Lines

namespace GameNight
namespace Console

open Text Number Journal Files Messages

/-!
# Sessions and what they print

What a session prints is put together from the answers to its lines, and answers repeat
what a user has written as it was written.
-/

/-!
## A session is its lines

A session does what its lines do, one after another, to a desk: the first line
with the word to leave is the last one that is answered, and what follows it is
not read.  All that a session adds is printed: a welcome, a prompt before each
line, and a goodbye.  Where the input ends before the user leaves, one more
prompt has been printed by then, and a line feed follows it.

The lines of an input are told by what they are, not by how they are cut: put
together they are the input, and a line feed stands at their ends and nowhere
else.
-/

/-! ### The lines of an input -/

/-- The lines of an input, each with the line feed that ends it. -/
def linesOf (input : String) : List String :=
  (physicalLines input.toList).map String.ofList

/-- What it is for an input to be cut into lines after each of its line feeds.
Only the last line may lack one, and no line is empty. -/
structure CutIntoLines (input : String) (lines : List String) : Prop where
  whole : String.join lines = input
  filled : ∀ line ∈ lines, line ≠ ""
  ended : ∀ line ∈ lines.dropLast, line.toList.getLast? = some '\n'
  nowhereElse : ∀ line ∈ lines, '\n' ∉ line.toList.dropLast

theorem join_map_ofList (lines : List (List Char)) :
    String.join (lines.map String.ofList) = String.ofList lines.flatten := by
  apply String.toList_injective
  rw [String.toList_join, List.flatMap_map, String.toList_ofList]
  simp only [String.toList_ofList]
  exact List.flatMap_id

theorem cutIntoLines_linesOf (input : String) : CutIntoLines input (linesOf input) := by
  constructor
  case whole => rw [linesOf, join_map_ofList, flatten_physicalLines, String.ofList_toList]
  case filled =>
    intro line member empty
    rcases List.mem_map.mp member with ⟨chars, inside, made⟩
    apply ne_nil_of_mem_linesFrom inside
    rw [← String.toList_ofList (l := chars), made, empty, String.toList_empty]
  case ended =>
    intro line member
    rw [linesOf, ← List.map_dropLast] at member
    rcases List.mem_map.mp member with ⟨chars, inside, rfl⟩
    rw [String.toList_ofList]
    exact getLast?_of_mem_dropLast_linesFrom inside
  case nowhereElse =>
    intro line member
    rcases List.mem_map.mp member with ⟨chars, inside, rfl⟩
    rw [String.toList_ofList]
    exact not_mem_dropLast_of_mem_physicalLines inside

/-! ### The lines of a session -/

/-- Whether a line makes the user leave: whether what stands before its first
space, without the blanks around the line and in small letters, is the word to
leave. -/
def leaving (line : String) : Bool :=
  lower (String.ofList ((trim line.toList).takeWhile fun c => c != ' ')) == "exit"

theorem leaving_eq (line : String) : leaving line = (wordOf line == "exit") := by
  rw [leaving, lower, String.toList_ofList]
  rfl

/-- The lines up to the first one that makes the user leave, and that line. -/
def executedLines (lines : List String) : List String :=
  lines.takeWhile (fun line => !leaving line) ++
    (lines.dropWhile fun line => !leaving line).take 1

/-- The lines behind the first one that makes the user leave. -/
def unreadLines (lines : List String) : List String :=
  (lines.dropWhile fun line => !leaving line).drop 1

theorem executedLines_cons_of_leaving {line : String} (leaves : leaving line = true)
    (rest : List String) : executedLines (line :: rest) = [line] := by
  simp [executedLines, leaves]

theorem executedLines_cons_of_staying {line : String} (stays : leaving line = false)
    (rest : List String) : executedLines (line :: rest) = line :: executedLines rest := by
  simp [executedLines, stays]

theorem unreadLines_cons_of_leaving {line : String} (leaves : leaving line = true)
    (rest : List String) : unreadLines (line :: rest) = rest := by
  simp [unreadLines, leaves]

theorem unreadLines_cons_of_staying {line : String} (stays : leaving line = false)
    (rest : List String) : unreadLines (line :: rest) = unreadLines rest := by
  simp [unreadLines, stays]

/-- What is printed at the end of a session, which the user has left or whose
input has ended. -/
def farewell [Machine] (left : Bool) : String :=
  (if left then "" else prompt ++ printed [""]) ++ printed [goodbye]

theorem farewell_left [Machine] : farewell true = printed [goodbye] :=
  String.empty_append

theorem farewell_ended [Machine] : farewell false = prompt ++ printed ["", goodbye] := by
  have apart : printed ["", goodbye] = printed [""] ++ printed [goodbye] := printed_append [""] [goodbye]
  rw [apart, ← String.append_assoc]
  rfl

/-- What is printed for lines, with a prompt before each of them. -/
def transcript [Machine] (turns : List Turn) : String :=
  String.join (turns.map fun turn => prompt ++ turn.output)

namespace Desk

/-- What comes of lines, one after another. -/
def turns [Machine] (desk : Desk) : List String → List Turn
  | [] => []
  | line :: rest => (desk.execute line).value :: (desk.execute line).value.desk.turns rest

/-! ### The word to leave -/

theorem leaves_showGames [Machine] (desk : Desk) (games : List Game) (field : Field) :
    (desk.showGames games field).leaves = false := by
  rw [showGames]
  split <;> rfl

theorem leaves_narrowAndShow [Machine] (desk : Desk) (expression : String) (field : Field)
    (ascending : Bool) : (desk.narrowAndShow expression field ascending).value.leaves = false := by
  rw [narrowAndShow, Logged.value_andThen]
  split
  · rfl
  · exact leaves_showGames _ _ _

theorem leaves_refuse [Machine] (desk : Desk) (selection : String) (fault : SelectionFault) :
    (desk.refuse selection fault).value.leaves = false := by
  cases fault <;> rfl

theorem leaves_settle [Machine] (desk : Desk) (key selection : String)
    (answer : Except SelectionFault Shortlist) : (desk.settle key selection answer).leaves = false := by
  cases answer with
  | error fault => exact leaves_refuse desk selection fault
  | ok shortlist => rfl

theorem leaves_add [Machine] (desk : Desk) (arguments : String) : (desk.add arguments).value.leaves = false := by
  by_cases missing : arguments = ""
  · rw [missing, add_empty]
    rfl
  · rw [add_eq_settle desk missing]
    exact leaves_settle _ _ _ _

theorem leaves_remove [Machine] (desk : Desk) (arguments : String) :
    (desk.remove arguments).value.leaves = false := by
  by_cases missing : arguments = ""
  · rw [missing, remove_empty]
    rfl
  · rw [remove_eq_settle desk missing]
    exact leaves_settle _ _ _ _

theorem leaves_save [Machine] (desk : Desk) (arguments : String) :
    (desk.save arguments).value.leaves = false := by
  rw [save, Logged.value_andThen]
  split
  split <;> rfl

theorem leaves_filter [Machine] (desk : Desk) (arguments : String) :
    (desk.filter arguments).value.leaves = false := by
  cases asks : filterArrangement arguments with
  | none =>
      rcases filter_refused desk asks with ⟨word, unknown⟩
      rw [unknown]
      rfl
  | some arrangement =>
      by_cases missing : arguments.isEmpty
      · rw [String.isEmpty_iff.mp missing, filter_empty]
        exact leaves_showGames _ _ _
      · rw [filter_arranged desk (Bool.eq_false_iff.mpr missing) asks]
        exact leaves_narrowAndShow _ _ _ _

theorem leaves_sort [Machine] (desk : Desk) (arguments : String) :
    (desk.sort arguments).value.leaves = false := by
  cases asks : sortArrangement arguments with
  | none =>
      rcases sort_refused desk asks with help | ⟨word, unknown⟩
      · rw [help]
        rfl
      · rw [unknown]
        rfl
  | some arrangement =>
      rw [sort_arranged desk asks]
      exact leaves_showGames _ _ _

theorem leaves_list [Machine] (desk : Desk) : desk.list.value.leaves = false := by
  rw [list]
  split <;> rfl

/-- One command alone ends a session. -/
theorem leaves_carryOut [Machine] (desk : Desk) (arguments : String) (command : Command) :
    (desk.carryOut arguments command).value.leaves = (command == .exit) := by
  cases command with
  | help => rfl
  | filter => exact leaves_filter desk arguments
  | sort => exact leaves_sort desk arguments
  | list => exact leaves_list desk
  | add => exact leaves_add desk arguments
  | remove => exact leaves_remove desk arguments
  | clear => rfl
  | save => exact leaves_save desk arguments
  | exit => rfl

/-- A line ends a session exactly if it makes the user leave. -/
theorem leaves_execute [Machine] (desk : Desk) (line : String) :
    (desk.execute line).value.leaves = leaving line := by
  cases given : Command.ofWord? (wordOf line) with
  | none =>
      have stays : leaving line = false := by
        rw [leaving_eq, beq_eq_false_iff_ne]
        intro exit
        rw [exit] at given
        cases given
      rcases execute_of_no_command desk given with ⟨output, answered⟩
      rw [stays, answered]
  | some command =>
      rw [execute_of_command desk given, leaves_carryOut, leaving_eq, Bool.eq_iff_iff, beq_iff_eq,
        beq_iff_eq]
      constructor
      · intro exit
        rw [exit] at given
        exact Command.word_of_only given (by decide)
      · intro exit
        rw [exit] at given
        exact (Option.some.inj given).symm

/-! ### Running lines -/

theorem turns_cons [Machine] (desk : Desk) (line : String) (rest : List String) :
    desk.turns (line :: rest) = (desk.execute line).value :: (desk.execute line).value.desk.turns rest :=
  rfl

theorem afterLines_cons [Machine] (desk : Desk) (line : String) (rest : List String) :
    desk.afterLines (line :: rest) = (desk.execute line).value.desk.afterLines rest :=
  rfl

end Desk

theorem transcript_cons [Machine] (turn : Turn) (rest : List Turn) :
    transcript (turn :: rest) = prompt ++ turn.output ++ transcript rest := by
  rw [transcript, List.map_cons, String.join_cons]
  rfl

/-- What comes of a session on the lines of an input: what these lines do to
the desk, up to the one that makes the user leave, and what they print. -/
def Desk.visit [Machine] (desk : Desk) (lines : List String) : Visit :=
  ⟨desk.afterLines (executedLines lines),
    transcript (desk.turns (executedLines lines)) ++ farewell (lines.any leaving), none,
    String.join (unreadLines lines)⟩

theorem Desk.visit_cons_of_leaving [Machine] {line : String} (leaves : leaving line = true) (desk : Desk)
    (rest : List String) :
    desk.visit (line :: rest) =
      ⟨(desk.execute line).value.desk, prompt ++ ((desk.execute line).value.output ++ printed [goodbye]),
        none, String.join rest⟩ := by
  have output : transcript (desk.turns [line]) = prompt ++ (desk.execute line).value.output := by
    rw [turns_cons, transcript_cons]
    exact String.append_empty
  rw [visit, executedLines_cons_of_leaving leaves, unreadLines_cons_of_leaving leaves, output,
    List.any_cons, leaves, Bool.true_or, farewell_left, String.append_assoc]
  rfl

theorem Desk.visit_cons_of_staying [Machine] {line : String} (stays : leaving line = false) (desk : Desk)
    (rest : List String) :
    desk.visit (line :: rest) =
      ((desk.execute line).value.desk.visit rest).behind (prompt ++ (desk.execute line).value.output) := by
  rw [visit, executedLines_cons_of_staying stays, unreadLines_cons_of_staying stays, List.any_cons,
    stays, Bool.false_or, turns_cons, transcript_cons, afterLines_cons, String.append_assoc]
  rfl

theorem answer_of_staying [Machine] {desk : Desk} {line : String} (stays : leaving line = false) :
    (answer desk (some line)).value = (desk.execute line).value := by
  rw [answer, Logged.value_andThen, Logged.value_quiet, Desk.leaves_execute, stays]
  rfl

theorem answer_of_leaving [Machine] {desk : Desk} {line : String} (leaves : leaving line = true) :
    (answer desk (some line)).value =
      ⟨(desk.execute line).value.desk, (desk.execute line).value.output ++ printed [goodbye],
        (desk.execute line).value.fault, true⟩ := by
  rw [answer, Logged.value_andThen, Logged.value_quiet, Desk.leaves_execute, leaves, if_pos rfl]

/-- The loop does what the lines do one after another, as long as none of
them ends in a fault. -/
theorem answerLines_eq_visit [Machine] {desk : Desk} {lines : List (List Char)}
    (answered : ∀ turn ∈ desk.turns (executedLines (lines.map String.ofList)), turn.fault = none) :
    (answerLines desk lines).value = desk.visit (lines.map String.ofList) := by
  induction lines generalizing desk with
  | nil =>
      rw [answerLines, answer, Logged.value_andThen, List.map_nil, Desk.visit, List.any_nil,
        farewell_ended]
      rfl
  | cons chars rest inductionHypothesis =>
      rw [List.map_cons] at answered ⊢
      cases leaves : leaving (String.ofList chars) with
      | true =>
          rw [executedLines_cons_of_leaving leaves, Desk.turns_cons, List.forall_mem_cons] at answered
          rw [answerLines, Logged.value_andThen, answer_of_leaving leaves]
          simp only [Turn.ends, Bool.or_true, if_true, Logged.value_quiet, answered.1]
          rw [Desk.visit_cons_of_leaving leaves, join_map_ofList]
      | false =>
          rw [executedLines_cons_of_staying leaves, Desk.turns_cons, List.forall_mem_cons] at answered
          have goesOn : (desk.execute (String.ofList chars)).value.ends = false := by
            rw [Turn.ends, answered.1, Desk.leaves_execute, leaves]
            rfl
          rw [answerLines, Logged.value_andThen, answer_of_staying leaves, Desk.visit_cons_of_staying leaves,
            ← inductionHypothesis answered.2]
          simp only [goesOn, Bool.false_eq_true, if_false, Logged.value_andThen, Logged.value_quiet]

/-- A session executes the lines of its input one after another, up to the
first one that makes the user leave, and all of them if there is none.  The
desk is left as these lines leave it, and each of them prints what it prints
by itself, behind a prompt; around that stand the welcome and the goodbye.
Nothing behind the line that makes the user leave is read. -/
theorem run_eq_lines [Machine] (desk : Desk) (input : String)
    (answered : ∀ turn ∈ desk.turns (executedLines (linesOf input)), turn.fault = none) :
    CutIntoLines input (linesOf input) ∧
      (run desk input).value =
        ⟨desk.afterLines (executedLines (linesOf input)),
          printed [welcome] ++ transcript (desk.turns (executedLines (linesOf input))) ++
            farewell ((linesOf input).any leaving),
          none, String.join (unreadLines (linesOf input))⟩ := by
  refine ⟨cutIntoLines_linesOf input, ?_⟩
  rw [run, Logged.value_andThen, Logged.value_quiet, answerLines_eq_visit answered, Visit.behind,
    ← linesOf, Desk.visit, String.append_assoc]

section

attribute [local instance] Machine.usual

/-- The word to leave may be written in any letters and with more words behind
it.  What follows the line that it stands on is left for others to read. -/
theorem run_help_and_leave :
    executedLines (linesOf "help\n\n  EXIT now\nlist") = ["help\n", "\n", "  EXIT now\n"] ∧
      (run (Desk.opened [] .empty (.text "games.txt")) "help\n\n  EXIT now\nlist").value.unread =
        "list" := by
  have lines := (run_eq_lines (Desk.opened [] .empty (.text "games.txt"))
    "help\n\n  EXIT now\nlist" (by decide +kernel)).2
  constructor
  · decide +kernel
  · rw [lines]
    decide +kernel

end

/-!
## What the console says back

Where the console answers with something that it was given, a command word, the
name of a field, the reason for which a selection is refused, or a path, this
stands in the answer as it is.
-/

theorem printed_singleton (line : String) : printed [line] = line ++ "\n" := by
  simp [printed]

/-! ### Words -/

theorem announce_unknown_command [Machine] (word : String) :
    announce "cli.invalid_command" [("command", .text word)] =
      "Unknown command: " ++ word ++ ". Type 'help' for a list of commands." := by
  have leads : bundled.template? "cli.invalid_command" = some (template [words "Unknown command: ",
      .field "command", words ". Type 'help' for a list of commands."]) := by
    decide +kernel
  refine (announce_of_texts [("command", word)] leads (by decide +kernel) rfl rfl
    (by simp)).trans ?_
  simp only [filled_words, filled_field, filled_nil, String.append_assoc]
  rfl

theorem announce_unknown_field [Machine] (word known : String) :
    announce "cli.filter.invalid_sort" [("field", .text word), ("fields", .text known)] =
      "Unknown sort field: " ++ word ++ ". Fields: " ++ known := by
  have leads : bundled.template? "cli.filter.invalid_sort" = some (template
      [words "Unknown sort field: ", .field "field", words ". Fields: ", .field "fields"]) := by
    decide +kernel
  refine (announce_of_texts [("field", word), ("fields", known)] leads (by decide +kernel)
    rfl rfl (by simp)).trans ?_
  simp only [filled_words, filled_field, filled_nil, String.append_empty, String.append_assoc]
  rfl

/-- A message that ends with what it was given. -/
theorem announce_ending [Machine] (key opening name : String)
    (leads : bundled.template? key = some (template [words opening, .field name]))
    (named : isName name = true) (free : name ∉ takenNames) (text : String) :
    announce key [(name, .text text)] = opening ++ text := by
  have named : ∀ other ∈ namesIn [words opening, .field name], isName other = true := by
    simpa using named
  have free : takenName? (texts [(name, text)]) = none := takenName?_texts (by simpa using free)
  refine (announce_of_texts [(name, text)] leads named free rfl (by simp)).trans ?_
  simp

/-- A number that is not too long stands in decimal beside the path. -/
theorem announce_saved [Machine] {count : Nat} (short : count < tenTo digitLimit) (path : String) :
    announce "cli.save.done" [("count", .number count), ("path", .text path)] =
      "Saved " ++ naturalText count ++ " games to " ++ path ++ "." := by
  have leads : bundled.template? "cli.save.done" = some (template
      [words "Saved ", .field "count", words " games to ", .field "path", words "."]) := by
    decide +kernel
  let value (name : String) := if name = "count" then naturalText count else path
  have given : ∀ name ∈ ["count", "path"],
      Shows [("count", .number count), ("path", .text path)] value name := by
    rw [List.forall_mem_cons, List.forall_mem_singleton]
    exact ⟨shows_number short rfl rfl, shows_text rfl⟩
  rw [announce_of_segments leads (by decide +kernel) rfl rfl given]
  simp only [filled_words, filled_field, filled_nil, String.append_assoc]
  rfl

/-! ### Answers -/

/-- The answers that hold what the console was given, letter by letter. -/
structure RepliesVerbatim [Machine] (desk : Desk) : Prop where
  unknownCommand : ∀ line, trim line.toList ≠ [] → Command.ofWord? (wordOf line) = none →
    (desk.execute line).value.output =
      "Unknown command: " ++ wordOf line ++ ". Type 'help' for a list of commands.\n"
  unknownFilterField : ∀ arguments word fault, arguments ≠ "" →
    (SortClause.parse arguments).field = some word → (FieldName.word word).resolve = .error fault →
    (desk.filter arguments).value.output =
      "Unknown sort field: " ++ word ++ ". Fields: " ++ fieldTokens ++ "\n"
  unknownSortField : ∀ arguments word fault, arguments ≠ "" →
    (SortClause.parse ("sort " ++ arguments)).field = some word →
    (FieldName.word word).resolve = .error fault →
    (desk.sort arguments).value.output =
      "Unknown sort field: " ++ word ++ ". Fields: " ++ fieldTokens ++ "\n"
  refusedAddition : ∀ selection fault, selection ≠ "" →
    (desk.shortlist.add (some selection) desk.planner.current).value = .error fault →
    (∀ digits, fault ≠ .tooManyDigits digits) →
    (desk.add selection).value.output = "Invalid selection: " ++ fault.message ++ "\n"
  refusedRemoval : ∀ selection fault, selection ≠ "" →
    (desk.shortlist.remove (some selection)).value = .error fault →
    (∀ digits, fault ≠ .tooManyDigits digits) →
    (desk.remove selection).value.output = "Invalid selection: " ++ fault.message ++ "\n"
  saved : ∀ arguments path files, desk.shortlist.count < tenTo digitLimit →
    (desk.shortlist.saveTo (if arguments.isEmpty then desk.listFile else .text arguments)
      desk.files).value = (.ok path, files) →
    (desk.save arguments).value.output =
      "Saved " ++ naturalText desk.shortlist.count ++ " games to " ++ path.text ++ ".\n"
  unsaved : ∀ arguments path files,
    (desk.shortlist.saveTo (if arguments.isEmpty then desk.listFile else .text arguments)
      desk.files).value = (.error (.refused path), files) →
    (desk.save arguments).value.output =
      "Could not save your game list: " ++ ("Error writing to file: " ++ path.text) ++ "\n"
  saveHelp : (desk.help "save").value.output =
    "save [file]\n  Writes your list to a file, one name per line. Default: " ++
      desk.listFile.display ++ "\n"

theorem output_say (desk : Desk) (line : String) : (desk.say line).output = line ++ "\n" :=
  printed_singleton line

theorem output_unknownSortField [Machine] (desk : Desk) (word : String) :
    (desk.unknownSortField word).output =
      "Unknown sort field: " ++ word ++ ". Fields: " ++ fieldTokens ++ "\n" := by
  rw [Desk.unknownSortField, output_say, announce_unknown_field]

theorem output_refuse [Machine] (desk : Desk) (selection : String) {fault : SelectionFault}
    (short : ∀ digits, fault ≠ .tooManyDigits digits) :
    (desk.refuse selection fault).value.output = "Invalid selection: " ++ fault.message ++ "\n" := by
  have worded := announce_ending "cli.invalid_selection" "Invalid selection: " "error"
    (by decide +kernel) (by decide +kernel) (by decide) fault.message
  rw [← worded, ← output_say desk]
  cases fault with
  | tooManyDigits digits => exact absurd rfl (short digits)
  | _ => rfl

theorem repliesVerbatim [Machine] (desk : Desk) : RepliesVerbatim desk where
  unknownCommand := by
    intro line filled unknown
    have given : (trim line.toList).isEmpty = false := List.isEmpty_eq_false_iff.mpr filled
    rw [wordOf] at unknown ⊢
    simp only [Desk.execute, given, Bool.false_eq_true, if_false, Logged.value_andThen, unknown,
      Logged.value_quiet, output_say, announce_unknown_command, String.append_assoc]
    rfl
  unknownFilterField := by
    intro arguments word fault filled named unknown
    have given : arguments.isEmpty = false := String.isEmpty_eq_false_iff.mpr filled
    simp only [Desk.filter, given, Bool.false_eq_true, if_false, named, Desk.sortField, unknown,
      Logged.value_quiet, Option.getD_some, output_unknownSortField]
  unknownSortField := by
    intro arguments word fault filled named unknown
    have given : arguments.isEmpty = false := String.isEmpty_eq_false_iff.mpr filled
    simp only [Desk.sort, given, Bool.false_eq_true, if_false, named, unknown, Logged.value_quiet,
      output_unknownSortField]
  refusedAddition := by
    intro selection fault filled refused short
    rw [Desk.add_eq_settle desk filled, refused]
    exact output_refuse desk selection short
  refusedRemoval := by
    intro selection fault filled refused short
    rw [Desk.remove_eq_settle desk filled, refused]
    exact output_refuse desk selection short
  saved := by
    intro arguments path files short done
    simp only [Desk.save, Logged.value_andThen, done, Logged.value_quiet, output_say,
      announce_saved short, String.append_assoc]
    rfl
  unsaved := by
    intro arguments path files failed
    have worded := announce_ending "cli.save.error" "Could not save your game list: " "error"
      (by decide +kernel) (by decide +kernel) (by decide) (SavingFault.refused path).message
    have reason : (SavingFault.refused path).message = "Error writing to file: " ++ path.text := rfl
    simp only [Desk.save, Logged.value_andThen, failed]
    rw [output_say, worded, reason]
  saveHelp := by
    have worded := announce_ending "cli.help.save"
      "save [file]\n  Writes your list to a file, one name per line. Default: " "default"
      (by decide +kernel) (by decide +kernel) (by decide) desk.listFile.display
    have topic : lower "save" = "save" := by decide +kernel
    have other : "save" ∉ ["filter", "sort"] := by decide
    rw [Desk.help, topic, Logged.value_quiet, output_say, Desk.helpText, if_neg other, if_pos rfl,
      worded]

/-- Texts that are given for the names in a template come out letter by letter, or
the template is said as it stands when one of them is missing.  All templates of
the console are of this sort, so that what the user gave stands in the answers as
it was given. -/
theorem said_verbatim [Machine] :
    (∀ (messages : Messages) (key : String) (segments : List Segment) (given : List (String × String)),
      valueAt? messages.tree (keyPath key) = some (.text (template segments)) →
      (∀ name ∈ namesIn segments, isName name = true) → given ≠ [] →
      (∀ pair ∈ given, pair.1 ∉ takenNames) → SaysVerbatim messages key segments given) ∧
    (∀ key text, valueAt? consoleMessages (keyPath key) = some (.text text) →
      ∃ segments, text = template segments ∧ (∀ name ∈ namesIn segments, isName name = true) ∧
        ∀ arguments value, takenName? arguments = none → arguments.isEmpty = false →
          (∀ name ∈ namesIn segments, Shows arguments value name) →
          announce key arguments = filled value segments) ∧
    ∀ desk : Desk, RepliesVerbatim desk := by
  refine ⟨fun messages key segments given => says_verbatim, ?_, repliesVerbatim⟩
  intro key text leads
  have plain := isPlainlyWritten_console (mem_textsInMembers leads)
  rcases exists_segments_of_isPlainlyWritten plain with ⟨segments, rfl, named⟩
  refine ⟨segments, rfl, named, fun arguments value free filled given => ?_⟩
  exact announce_of_segments (template?_console leads) named free filled given

section

attribute [local instance] Machine.usual

/-- A name that looks like a field, in a template with braces of its own. -/
theorem said_verbatim_of_greeting :
    let greeting : Messages := ⟨[("hello", .text "Hello \x7bname\x7d \x7b\x7b\x7d\x7d")]⟩
    greeting.say "hello" [("name", .text "\x7bname\x7d%s")] = .ok "Hello \x7bname\x7d%s \x7b\x7d" ∧
      greeting.say "hello" [("other", .text "x")] =
        .ok "Hello \x7bname\x7d \x7b\x7b\x7d\x7d" ∧
      ((Desk.opened [] .empty (.text "games.txt")).execute "\x7bx\x7d %s").value.output =
        "Unknown command: \x7bx\x7d. Type 'help' for a list of commands.\n" := by
  intro greeting
  let segments := [words "Hello ", .field "name", words " \x7b\x7d"]
  have written : template segments = "Hello \x7bname\x7d \x7b\x7b\x7d\x7d" := by decide +kernel
  have leads : valueAt? greeting.tree (keyPath "hello") = some (.text (template segments)) := by
    rw [written]
    rfl
  have named : ∀ name ∈ namesIn segments, isName name = true := by decide +kernel
  rcases said_verbatim with ⟨verbatim, _, replies⟩
  refine ⟨?_, ?_, ?_⟩
  · have supplied := verbatim greeting "hello" segments [("name", "\x7bname\x7d%s")] leads named (by simp)
      (by decide)
    exact supplied.inserted (fun _ => "\x7bname\x7d%s") (by decide)
  · have lacking := verbatim greeting "hello" segments [("other", "x")] leads named (by simp) (by decide)
    exact lacking.kept ⟨"name", by decide, rfl⟩
  · have word : wordOf "\x7bx\x7d %s" = "\x7bx\x7d" := by decide +kernel
    have answered := (replies (Desk.opened [] .empty (.text "games.txt"))).unknownCommand
      "\x7bx\x7d %s" (by decide +kernel) (by rw [word]; decide)
    rw [answered, word]
    rfl

end

end Console
end GameNight
