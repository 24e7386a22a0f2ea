import GameNight.Proofs.Console.Numbering
import GameNight.Proofs.Messages.Fallback
import GameNight.Proofs.Planner.Failure
import GameNight.Proofs.Shortlist.Refusal

namespace GameNight
namespace Console

open Text Number Journal Files Messages

/-!
# Lines that end in a fault

Mistakes of the user are answered in words.  What is left are numbers: one of a
game that is too large to be compared, one in a selection that has too many
digits to be read, and one of a game that has too many digits to be written;
and files whose name holds a NUL or lies below too many missing directories.

For games whose numbers can be written, each of the other faults comes up in
exactly one situation, which can be told from the line and the desk, and
nothing else keeps a line from being answered.
-/

/-- Where a list is saved: in the file that is named, or else in the one that is
meant for it. -/
def Desk.target (desk : Desk) (arguments : String) : Json :=
  if arguments.isEmpty then desk.listFile else .text arguments

/-- The clauses that the arguments of a filter ask for. -/
def clausesOfArguments (arguments : String) : List Clause :=
  (clausesOf (some (SortClause.parse arguments).expression)).value

/-- Whether the listing of a line breaks off at a game whose value in the field
of the listing cannot be written. -/
def BreaksOff (line : String) (turn : Turn) (fault : WritingFault) : Prop :=
  ∃ field ascending, arrangementOf line = some (field, ascending) ∧
    ∃ game ∈ turn.desk.planner.current, game.display field = .error fault

/-- What a line that ends in a fault has come to: the situations in which the
faults come up, and whether the desk is as it was. -/
inductive Desk.Fails [Machine] (desk : Desk) (line : String) (turn : Turn) : Fault → Prop
  | overreached (filters : Command.ofWord? (wordOf line) = some .filter)
      (asks : arrangementOf line ≠ none) (game : Game) (left : game ∈ desk.planner.current)
      (stumbles : Stumbles (clausesOfArguments (argumentsOf line)) game) (kept : turn.desk = desk) :
      Fails desk line turn (.tooLarge .forDouble)
  | brokeOff {fault : WritingFault} (breaks : BreaksOff line turn fault) :
      Fails desk line turn (.writing fault)
  | unread (picks : Command.ofWord? (wordOf line) = some .add ∨
        Command.ofWord? (wordOf line) = some .remove)
      (unreadable : Unreadable (some (argumentsOf line))) (digits : Nat) (kept : turn.desk = desk) :
      Fails desk line turn (.tooManyDigits digits)
  | unsaved (saves : Command.ofWord? (wordOf line) = some .save) {fault : SavingFault}
      (failed : (desk.shortlist.saveTo (desk.target (argumentsOf line)) desk.files).value.1 =
        .error fault) (unreported : ¬fault.Reported) :
      Fails desk line turn (.notSaved fault)

namespace Desk

/-! ## Listings -/

theorem failed_rows {numbered games : List Game} {field : Field} {fault : WritingFault}
    (failed : (rows numbered field games).2 = some fault) :
    ∃ game ∈ games, game.display field = .error fault := by
  induction games with
  | nil => cases failed
  | cons game rest inductionHypothesis =>
      rw [rows] at failed
      cases shown : game.display field with
      | error reason =>
          rw [shown] at failed
          exact ⟨game, List.mem_cons_self, by rw [shown, Option.some.inj failed]⟩
      | ok text =>
          rw [shown] at failed
          rcases inductionHypothesis failed with ⟨other, member, broken⟩
          exact ⟨other, List.mem_cons_of_mem game member, broken⟩

theorem failed_showGames [Machine] {desk : Desk} {games : List Game} {field : Field} {fault : Fault}
    (failed : (desk.showGames games field).fault = some fault) :
    ∃ reason, fault = .writing reason ∧ ∃ game ∈ games, game.display field = .error reason := by
  rw [showGames] at failed
  split at failed
  · cases failed
  · rcases Option.map_eq_some_iff.mp failed with ⟨reason, broke, same⟩
    exact ⟨reason, same.symm, failed_rows broke⟩

/-- A filter fails before it changes the desk, or its listing breaks off. -/
theorem failed_narrowAndShow [Machine] {desk : Desk} {expression : String} {field : Field} {ascending : Bool}
    {fault : Fault} (failed : (desk.narrowAndShow expression field ascending).value.fault = some fault) :
    (fault = .tooLarge .forDouble ∧ (desk.narrowAndShow expression field ascending).value.desk = desk ∧
        ∃ game ∈ desk.planner.current, Stumbles (clausesOf (some expression)).value game) ∨
      ∃ reason, fault = .writing reason ∧
        ∃ game ∈ (desk.narrowAndShow expression field ascending).value.desk.planner.current,
          game.display field = .error reason := by
  rw [desk_narrowAndShow, Planner.after]
  simp only [narrowAndShow, Logged.value_andThen] at failed
  cases answer : (desk.planner.filter (some expression) (.known field) ascending).value with
  | mk listed left =>
      rw [answer] at failed
      cases listed with
      | error reason =>
          have stumbled := (Planner.filter_eq_error _ _ _ _ _).mp (congrArg Prod.fst answer)
          refine Or.inl ⟨(Option.some.inj failed).symm, ?_, stumbled⟩
          rw [Planner.filter_failed answer]
      | ok games =>
          rcases failed_showGames failed with ⟨reason, same, game, member, broken⟩
          rw [Planner.filter_listed answer] at member
          exact Or.inr ⟨reason, same, game, (sortGames_perm _ _ _).mem_iff.mp member, broken⟩

theorem narrowAndShow_stumbles [Machine] {desk : Desk} {expression : String} (field : Field) (ascending : Bool)
    (stumbles : ∃ game ∈ desk.planner.current, Stumbles (clausesOf (some expression)).value game) :
    (desk.narrowAndShow expression field ascending).value.fault = some (.tooLarge .forDouble) := by
  have failed := (Planner.filter_eq_error desk.planner (some expression) (.known field) ascending
    .forDouble).mpr stumbles
  simp only [narrowAndShow, Logged.value_andThen]
  cases answer : (desk.planner.filter (some expression) (.known field) ascending).value with
  | mk listed left =>
      rw [answer] at failed
      rw [show listed = .error .forDouble from failed]
      rfl

/-! ## Filters and sorts -/

theorem failed_filter [Machine] {desk : Desk} {line : String}
    (filters : Command.ofWord? (wordOf line) = some .filter) {fault : Fault}
    (failed : (desk.filter (argumentsOf line)).value.fault = some fault) :
    desk.Fails line (desk.filter (argumentsOf line)).value fault := by
  have asked : arrangementOf line = filterArrangement (argumentsOf line) := by
    rw [arrangementOf, filters]
  cases asks : filterArrangement (argumentsOf line) with
  | none =>
      rcases filter_refused desk asks with ⟨word, unknown⟩
      rw [unknown] at failed
      cases failed
  | some arrangement =>
      rcases arrangement with ⟨field, ascending⟩
      rw [asks] at asked
      by_cases missing : (argumentsOf line).isEmpty
      · rw [String.isEmpty_iff.mp missing] at asks failed ⊢
        cases asks
        rw [filter_empty] at failed ⊢
        rcases failed_showGames failed with ⟨reason, same, game, member, broken⟩
        cases broken
      · rw [filter_arranged desk (Bool.eq_false_iff.mpr missing) asks] at failed ⊢
        rcases failed_narrowAndShow failed with ⟨same, kept, game, left, stumbles⟩ | ⟨reason, same, broken⟩
        · rw [same]
          exact .overreached filters (by rw [asked]; exact Option.some_ne_none _) game left stumbles kept
        · rw [same]
          exact .brokeOff ⟨field, ascending, asked, broken⟩

/-- A filter that stumbles on one of the games that are left fails. -/
theorem filter_stumbles [Machine] {desk : Desk} {arguments : String} (asks : filterArrangement arguments ≠ none)
    (stumbles : ∃ game ∈ desk.planner.current, Stumbles (clausesOfArguments arguments) game) :
    (desk.filter arguments).value.fault = some (.tooLarge .forDouble) := by
  rcases Option.ne_none_iff_exists'.mp asks with ⟨⟨field, ascending⟩, arranged⟩
  by_cases missing : arguments.isEmpty
  · have none : clausesOfArguments "" = [] := by decide +kernel
    rw [String.isEmpty_iff.mp missing, none] at stumbles
    rcases stumbles with ⟨game, _, stumbles⟩
    exact absurd stumbles (stumbles_nil game)
  · rw [filter_arranged desk (Bool.eq_false_iff.mpr missing) arranged]
    exact narrowAndShow_stumbles field ascending stumbles

theorem failed_sort [Machine] {desk : Desk} {line : String}
    (sorts : Command.ofWord? (wordOf line) = some .sort) {fault : Fault}
    (failed : (desk.sort (argumentsOf line)).value.fault = some fault) :
    desk.Fails line (desk.sort (argumentsOf line)).value fault := by
  have asked : arrangementOf line = sortArrangement (argumentsOf line) := by
    rw [arrangementOf, sorts]
  cases asks : sortArrangement (argumentsOf line) with
  | none =>
      rcases sort_refused desk asks with help | ⟨word, unknown⟩
      · rw [help] at failed
        cases failed
      · rw [unknown] at failed
        cases failed
  | some arrangement =>
      rcases arrangement with ⟨field, ascending⟩
      rw [asks] at asked
      rw [sort_arranged desk asks] at failed ⊢
      rcases failed_showGames failed with ⟨reason, same, game, member, broken⟩
      rw [same]
      refine .brokeOff ⟨field, ascending, asked, game, ?_, broken⟩
      rw [desk_showGames]
      exact (sortGames_perm _ _ _).mem_iff.mp member

/-! ## Selections and files -/

/-- A selection is refused in words, unless it has too many digits. -/
theorem failed_settle [Machine] {desk : Desk} {key selection : String}
    {answer : Except SelectionFault Shortlist} {fault : Fault}
    (failed : (desk.settle key selection answer).fault = some fault) :
    ∃ digits, fault = .tooManyDigits digits ∧ answer = .error (.tooManyDigits digits) := by
  cases answer with
  | ok shortlist => cases failed
  | error reason =>
      cases reason with
      | tooManyDigits digits => exact ⟨digits, (Option.some.inj failed).symm, rfl⟩
      | _ => cases failed

/-- An answer that depends on what a selection picks fails for a selection that
is unreadable only. -/
theorem fails_of_settle [Machine] {desk : Desk} {line key : String} {candidates : List Game}
    {answer : Except SelectionFault Shortlist} {fault : Fault}
    (picks : Command.ofWord? (wordOf line) = some .add ∨ Command.ofWord? (wordOf line) = some .remove)
    (chosen : ∀ reason, answer = .error reason ↔
      selectGames (some (argumentsOf line)) candidates = .error reason)
    (failed : (desk.settle key (argumentsOf line) answer).fault = some fault) :
    desk.Fails line (desk.settle key (argumentsOf line) answer) fault := by
  rcases failed_settle failed with ⟨digits, same, refused⟩
  have unreadable := (selectGames_tooManyDigits _ candidates).mp ⟨digits, (chosen _).mp refused⟩
  rw [same, refused]
  exact .unread picks unreadable digits (desk_refuse _ _ _)

theorem settle_unreadable [Machine] {selection : String} {candidates : List Game}
    {answer : Except SelectionFault Shortlist} (desk : Desk) (key : String)
    (chosen : ∀ reason, answer = .error reason ↔ selectGames (some selection) candidates = .error reason)
    (unreadable : Unreadable (some selection)) :
    ∃ digits, (desk.settle key selection answer).fault = some (.tooManyDigits digits) := by
  rcases (selectGames_tooManyDigits _ candidates).mpr unreadable with ⟨digits, picked⟩
  rw [(chosen _).mpr picked]
  exact ⟨digits, rfl⟩

theorem filled_of_unreadable {arguments : String} (unreadable : Unreadable (some arguments)) :
    arguments ≠ "" := by
  intro empty
  rw [empty] at unreadable
  exact Nat.not_lt_zero _ (digitLimit_lt_length unreadable)

theorem failed_add [Machine] {desk : Desk} {line : String} (adds : Command.ofWord? (wordOf line) = some .add)
    {fault : Fault} (failed : (desk.add (argumentsOf line)).value.fault = some fault) :
    desk.Fails line (desk.add (argumentsOf line)).value fault := by
  by_cases missing : argumentsOf line = ""
  · rw [missing, add_empty] at failed
    cases failed
  · rw [add_eq_settle desk missing] at failed ⊢
    exact fails_of_settle (Or.inl adds) (Shortlist.add_eq_error _ _ _) failed

theorem add_unreadable [Machine] (desk : Desk) {arguments : String} (unreadable : Unreadable (some arguments)) :
    ∃ digits, (desk.add arguments).value.fault = some (.tooManyDigits digits) := by
  rw [add_eq_settle desk (filled_of_unreadable unreadable)]
  exact desk.settle_unreadable _ (Shortlist.add_eq_error _ _ _) unreadable

theorem failed_remove [Machine] {desk : Desk} {line : String}
    (removes : Command.ofWord? (wordOf line) = some .remove) {fault : Fault}
    (failed : (desk.remove (argumentsOf line)).value.fault = some fault) :
    desk.Fails line (desk.remove (argumentsOf line)).value fault := by
  by_cases missing : argumentsOf line = ""
  · rw [missing, remove_empty] at failed
    cases failed
  · rw [remove_eq_settle desk missing] at failed ⊢
    exact fails_of_settle (Or.inr removes) (Shortlist.remove_eq_error _ _) failed

theorem remove_unreadable [Machine] (desk : Desk) {arguments : String}
    (unreadable : Unreadable (some arguments)) :
    ∃ digits, (desk.remove arguments).value.fault = some (.tooManyDigits digits) := by
  rw [remove_eq_settle desk (filled_of_unreadable unreadable)]
  exact desk.settle_unreadable _ (Shortlist.remove_eq_error _ _) unreadable

/-- Saving fails exactly where the shortlist cannot be saved and the reason is
not one to report. -/
theorem fault_save [Machine] (desk : Desk) (arguments : String) (fault : Fault) :
    (desk.save arguments).value.fault = some fault ↔
      ∃ reason, fault = .notSaved reason ∧ ¬reason.Reported ∧
        (desk.shortlist.saveTo (desk.target arguments) desk.files).value.1 = .error reason := by
  simp only [save, Logged.value_andThen]
  rw [target]
  generalize (if arguments.isEmpty then desk.listFile else Json.text arguments) = target
  rcases (desk.shortlist.saveTo target desk.files).value with ⟨outcome, files⟩
  cases outcome with
  | ok path => simp [say]
  | error reason => cases reason <;> simp [say, fail, SavingFault.Reported, eq_comm]

/-! ## All lines -/

/-- Whatever a line fails with, it has come to a situation in which this fault
comes up. -/
theorem fails_of_fault [Machine] {desk : Desk} {line : String} {fault : Fault}
    (failed : (desk.execute line).value.fault = some fault) :
    desk.Fails line (desk.execute line).value fault := by
  cases given : Command.ofWord? (wordOf line) with
  | none =>
      rcases execute_of_no_command desk given with ⟨output, answered⟩
      rw [answered] at failed
      cases failed
  | some command =>
      rw [execute_of_command desk given] at failed ⊢
      cases command with
      | filter =>
          rw [carryOut] at failed ⊢
          exact failed_filter given failed
      | sort =>
          rw [carryOut] at failed ⊢
          exact failed_sort given failed
      | add =>
          rw [carryOut] at failed ⊢
          exact failed_add given failed
      | remove =>
          rw [carryOut] at failed ⊢
          exact failed_remove given failed
      | save =>
          rw [carryOut] at failed
          rcases (fault_save _ _ _).mp failed with ⟨reason, same, unreported, refused⟩
          rw [same]
          exact .unsaved given refused unreported
      | list =>
          rw [carryOut, list] at failed
          split at failed <;> cases failed
      | help => cases failed
      | clear => cases failed
      | exit => cases failed

/-! ## Sessions -/

/-- Whether a line is a filter by no unknown field that compares a number too
large for a double: an active clause reaches a game that the clauses before
it let pass, with such a number in its field. -/
def Overreaches (desk : Desk) (line : String) : Prop :=
  wordOf line = "filter" ∧ arrangementOf line ≠ none ∧
    ∃ game ∈ desk.planner.current, Stumbles (clausesOfArguments (argumentsOf line)) game

end Desk

/-- Whether a line picks games by a number with more digits than are read. -/
def PicksUnreadably (line : String) : Prop :=
  (wordOf line = "add" ∨ wordOf line = "remove") ∧ Unreadable (some (argumentsOf line))

/-- The name of the file that a line saves to. -/
def fileNamed (listFile line : String) : String :=
  if (argumentsOf line).isEmpty then listFile else argumentsOf line

namespace Desk

/-- Whether a line saves under a name with a NUL, which is met: making the
directory of the file has come to no other end before. -/
def SavesUnderNul [Machine] (desk : Desk) (listFile line : String) : Prop :=
  let name := fileNamed listFile line
  let directory := (Path.ofString name).parent
  wordOf line = "save" ∧ Char.ofNat 0 ∈ name.toList ∧ ¬desk.files.TooDeep directory ∧
    ∀ refusal path, (desk.files.makeDirectories directory).1 ≠ .error (.refused refusal path)

/-- Whether a line saves below too many missing directories. -/
def SavesTooDeep [Machine] (desk : Desk) (listFile line : String) : Prop :=
  wordOf line = "save" ∧ desk.files.TooDeep (Path.ofString (fileNamed listFile line)).parent

/-- When a line has to end in a fault, and in which one. -/
structure FaultsExactly [Machine] (desk : Desk) (listFile line : String) (fault : Option Fault) : Prop where
  tooLarge : fault = some (.tooLarge .forDouble) ↔ desk.Overreaches line
  tooManyDigits : (∃ digits, fault = some (.tooManyDigits digits)) ↔ PicksUnreadably line
  embeddedNul : fault = some (.notSaved .embeddedNul) ↔ desk.SavesUnderNul listFile line
  tooDeep : fault = some (.notSaved .tooDeep) ↔ desk.SavesTooDeep listFile line
  answered : fault = none ↔
    ¬desk.Overreaches line ∧ ¬PicksUnreadably line ∧ ¬desk.SavesUnderNul listFile line ∧
      ¬desk.SavesTooDeep listFile line

theorem fault_of_overreaches [Machine] {desk : Desk} {line : String} (overreaches : desk.Overreaches line) :
    (desk.execute line).value.fault = some (.tooLarge .forDouble) := by
  rcases overreaches with ⟨word, asks, stumbles⟩
  have filters : Command.ofWord? (wordOf line) = some .filter := by rw [word]; rfl
  rw [arrangementOf, filters] at asks
  rw [execute_of_command desk filters, carryOut]
  exact filter_stumbles asks stumbles

theorem fault_of_picksUnreadably [Machine] (desk : Desk) {line : String} (picks : PicksUnreadably line) :
    ∃ digits, (desk.execute line).value.fault = some (.tooManyDigits digits) := by
  rcases picks with ⟨word | word, unreadable⟩
  · have adds : Command.ofWord? (wordOf line) = some .add := by rw [word]; rfl
    rw [execute_of_command desk adds, carryOut]
    exact add_unreadable desk unreadable
  · have removes : Command.ofWord? (wordOf line) = some .remove := by rw [word]; rfl
    rw [execute_of_command desk removes, carryOut]
    exact remove_unreadable desk unreadable

/-- With a text for the file that is meant for lists, a line saves under a name. -/
theorem saveTo_target [Machine] {desk : Desk} {listFile : String} (meant : desk.listFile = .text listFile)
    (line : String) :
    desk.shortlist.saveTo (desk.target (argumentsOf line)) desk.files =
      desk.shortlist.save (.ofString (fileNamed listFile line)) desk.files := by
  rw [target, fileNamed, meant]
  split <;> rfl

theorem fault_of_save [Machine] {desk : Desk} {listFile line : String} (meant : desk.listFile = .text listFile)
    (word : wordOf line = "save") {fault : SavingFault} (unreported : ¬fault.Reported) :
    (desk.execute line).value.fault = some (.notSaved fault) ↔
      (desk.shortlist.save (.ofString (fileNamed listFile line)) desk.files).value.1 =
        .error fault := by
  have saves : Command.ofWord? (wordOf line) = some .save := by rw [word]; rfl
  rw [execute_of_command desk saves, carryOut, fault_save, saveTo_target meant]
  constructor
  · rintro ⟨reason, same, _, failed⟩
    rwa [Fault.notSaved.inj same]
  · intro failed
    exact ⟨fault, rfl, unreported, failed⟩

theorem not_breaksOff {line : String} {turn : Turn} {fault : WritingFault}
    (writable : ∀ game ∈ turn.desk.planner.current, game.Writable) : ¬BreaksOff line turn fault := by
  rintro ⟨field, ascending, asks, game, member, broken⟩
  rcases (writable game member).display field with ⟨text, shown⟩
  rw [shown] at broken
  cases broken

theorem overreaches_of_fault [Machine] {desk : Desk} {line : String}
    (failed : (desk.execute line).value.fault = some (.tooLarge .forDouble)) :
    desk.Overreaches line := by
  cases fails_of_fault failed with
  | overreached filters asks game left stumbles =>
      exact ⟨Command.word_of_only filters (by decide), asks, game, left, stumbles⟩

theorem picksUnreadably_of_fault [Machine] {desk : Desk} {line : String} {digits : Nat}
    (failed : (desk.execute line).value.fault = some (.tooManyDigits digits)) :
    PicksUnreadably line := by
  cases fails_of_fault failed with
  | unread picks unreadable =>
      refine ⟨?_, unreadable⟩
      rcases picks with adds | removes
      · exact Or.inl (Command.word_of_only adds (by decide))
      · exact Or.inr (Command.word_of_only removes (by decide))

/-- What a line fails with when it saves is what saving fails with. -/
theorem saves_of_fault [Machine] {desk : Desk} {listFile line : String}
    (meant : desk.listFile = .text listFile) {fault : SavingFault}
    (failed : (desk.execute line).value.fault = some (.notSaved fault)) :
    wordOf line = "save" ∧
      (desk.shortlist.save (.ofString (fileNamed listFile line)) desk.files).value.1 = .error fault ∧
      ¬fault.Reported := by
  cases fails_of_fault failed with
  | unsaved saves refused unreported =>
      rw [saveTo_target meant] at refused
      exact ⟨Command.word_of_only saves (by decide), refused, unreported⟩

/-- A fault of saving that is not reported ends the program exactly if it is met. -/
theorem fault_notSaved_iff [Machine] {desk : Desk} {listFile line : String}
    (meant : desk.listFile = .text listFile) {fault : SavingFault} (unreported : ¬fault.Reported) :
    (desk.execute line).value.fault = some (.notSaved fault) ↔
      wordOf line = "save" ∧
        (desk.shortlist.save (.ofString (fileNamed listFile line)) desk.files).value.1 =
          .error fault := by
  constructor
  · intro failed
    have saves := saves_of_fault meant failed
    exact ⟨saves.1, saves.2.1⟩
  · rintro ⟨word, refused⟩
    exact (fault_of_save meant word unreported).mpr refused

theorem fault_embeddedNul_iff [Machine] {desk : Desk} {listFile : String}
    (meant : desk.listFile = .text listFile) (line : String) :
    (desk.execute line).value.fault = some (.notSaved .embeddedNul) ↔
      desk.SavesUnderNul listFile line := by
  rw [SavesUnderNul, ← Path.holdsNul_ofString, ← Shortlist.save_eq_embeddedNul desk.shortlist,
    fault_notSaved_iff meant id]

theorem fault_tooDeep_iff [Machine] {desk : Desk} {listFile : String} (meant : desk.listFile = .text listFile)
    (line : String) :
    (desk.execute line).value.fault = some (.notSaved .tooDeep) ↔ desk.SavesTooDeep listFile line := by
  rw [SavesTooDeep, ← Shortlist.save_eq_tooDeep desk.shortlist, fault_notSaved_iff meant id]

theorem faultsExactly_execute [Machine] {desk : Desk} {listFile line : String}
    (meant : desk.listFile = .text listFile)
    (writable : ∀ game ∈ (desk.execute line).value.desk.planner.current, game.Writable) :
    desk.FaultsExactly listFile line (desk.execute line).value.fault := by
  constructor
  case tooLarge => exact ⟨overreaches_of_fault, fault_of_overreaches⟩
  case tooManyDigits =>
    constructor
    · rintro ⟨digits, failed⟩
      exact picksUnreadably_of_fault failed
    · exact fault_of_picksUnreadably desk
  case embeddedNul => exact fault_embeddedNul_iff meant line
  case tooDeep => exact fault_tooDeep_iff meant line
  case answered =>
    constructor
    · intro answered
      refine ⟨fun overreaches => ?_, fun picks => ?_, fun nul => ?_, fun deep => ?_⟩
      · rw [fault_of_overreaches overreaches] at answered
        cases answered
      · rcases fault_of_picksUnreadably desk picks with ⟨digits, failed⟩
        rw [failed] at answered
        cases answered
      · rw [(fault_embeddedNul_iff meant line).mpr nul] at answered
        cases answered
      · rw [(fault_tooDeep_iff meant line).mpr deep] at answered
        cases answered
    · rintro ⟨reaches, readable, noNul, shallow⟩
      cases failed : (desk.execute line).value.fault with
      | none => rfl
      | some fault =>
          cases fault with
          | tooLarge fault =>
              cases fault
              exact absurd (overreaches_of_fault failed) reaches
          | writing fault =>
              cases fails_of_fault failed with
              | brokeOff breaks => exact absurd breaks (not_breaksOff writable)
          | tooManyDigits digits => exact absurd (picksUnreadably_of_fault failed) readable
          | notSaved fault =>
              have saves := saves_of_fault meant failed
              rcases Shortlist.unreported_save saves.2.1 saves.2.2 with deep | nul
              · exact absurd ((fault_tooDeep_iff meant line).mp (deep ▸ failed)) shallow
              · exact absurd ((fault_embeddedNul_iff meant line).mp (nul ▸ failed)) noNul

/-- In a session over games whose numbers can be written, a line ends in a fault
exactly in these situations: it is a filter that compares a number too large
for a double, an addition or a removal by a number with too many digits, or it
saves under a name with a NUL or below too many missing directories.  Telling
the user about anything never fails. -/
theorem faults_of_session [Machine] {games : List Game} (writable : ∀ game ∈ games, game.Writable)
    (files : Store) (listFile : String) (earlier : List String) (line : String) :
    let desk := (Desk.opened games files (.text listFile)).afterLines earlier
    desk.FaultsExactly listFile line (desk.execute line).value.fault ∧
      ∀ key arguments, takenName? arguments = none →
        ∃ message, bundled.say key arguments = .ok message := by
  intro desk
  have meant : desk.listFile = .text listFile := listFile_afterLines _ earlier
  have sound := Desk.sound_of_session writable files (.text listFile) (earlier ++ [line])
  rw [afterLines_append] at sound
  exact ⟨faultsExactly_execute meant sound.writable, fun key arguments => say_bundled key⟩

section

attribute [local instance] Machine.usual

/-- A number behind the last game is answered in words. -/
theorem faults_of_addition :
    let desk := (Desk.opened [{ name := "Go", rank := 258 }] .empty (.text "games.txt")).afterLines
      ["filter rank<300"]
    desk.FaultsExactly "games.txt" "add 7" (desk.execute "add 7").value.fault := by
  refine (faults_of_session ?writable .empty "games.txt" ["filter rank<300"] "add 7").1
  case writable =>
    intro game member field
    rw [List.mem_singleton.mp member]
    cases field <;> decide +kernel

end

/-- The name of a file that lies in directories one inside the other, as many as
there are levels with its own. -/
def nestedName (levels : Nat) : String :=
  String.ofList (List.replicate levels ['a', '/']).flatten

theorem tooDeep_nestedName [Machine] {levels : Nat} (deep : Machine.directories < levels) (short : 2 * levels ≤ pathLimit) :
    Store.empty.TooDeep (Path.ofString (nestedName (levels + 1))).parent := by
  rw [nestedName, Path.parts_ofString_replicate, Path.parent, List.dropLast_replicate,
    Nat.add_sub_cancel]
  exact Store.tooDeep_of_empty deep short

theorem nul_not_mem_nestedName (levels : Nat) : Char.ofNat 0 ∉ (nestedName levels).toList := by
  rw [nestedName, String.toList_ofList]
  intro member
  rcases List.mem_flatten.mp member with ⟨piece, repeated, inside⟩
  rw [List.eq_of_mem_replicate repeated] at inside
  exact absurd inside (by decide)

section

attribute [local instance] Machine.usual

/-- Saving below many missing directories ends in a fault, without any NUL. -/
theorem save_below_many_directories :
    ((Desk.opened [{ name := "Go" }] .empty (.text (nestedName 1500))).execute "save").value.fault =
        some (.notSaved .tooDeep) ∧
      Char.ofNat 0 ∉ (fileNamed (nestedName 1500) "save").toList := by
  have none : (argumentsOf "save").isEmpty = true := by decide +kernel
  have named (listFile : String) : fileNamed listFile "save" = listFile := if_pos none
  constructor
  · refine (fault_tooDeep_iff rfl "save").mpr ⟨by decide +kernel, ?_⟩
    rw [named]
    have below : Store.empty.TooDeep (Path.ofString (nestedName (1499 + 1))).parent :=
      tooDeep_nestedName (by decide) (by decide)
    exact below
  · rw [named]
    exact nul_not_mem_nestedName 1500

end

end Desk
end Console
end GameNight
