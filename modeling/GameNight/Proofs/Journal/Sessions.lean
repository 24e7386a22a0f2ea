import GameNight.Journal
import GameNight.Proofs.Files.Writing

namespace GameNight
namespace Journal

open Files

/-!
# Journals that are set up again

A program sets its journal up and sends records to it, in any order.  From the
first time on, the journal has one handler for the console and at most one for
a file.  Both stay when it is set up again, which changes levels only, so that
no record is written down twice in one place.

The level of the journal stands before the handlers.  A file handler takes
everything from `Level.debug` on, but it is only asked for the records that
reach the level of the journal.
-/

/-- The clock is not set. -/
theorem clock_setUp [Machine] (journal : Journal) (level : Level) (file : Option Path) (files : Store) :
    (journal.setUp level file files).2.1.clock = journal.clock := by
  rw [setUp]
  split
  · cases file with
    | none => rfl
    | some path =>
        dsimp only
        split
        · rfl
        · split <;> rfl
  · rfl

/-- What a program does with its journal. -/
inductive Step where
  | setUp (level : Level) (file : Option Path)
  | send (record : Record)

/-- A journal and what has been written so far. -/
structure Session where
  journal : Journal
  written : Transcript

namespace Session

def after [Machine] (session : Session) : Step → Session
  | .setUp level file =>
    let (_, journal, files) := session.journal.setUp level file session.written.files
    ⟨journal, { session.written with files := files }⟩
  | .send record => { session with written := session.journal.emit session.written record }

def afterAll [Machine] (session : Session) (steps : List Step) : Session :=
  steps.foldl after session

@[simp] theorem journal_after_send [Machine] (session : Session) (record : Record) :
    (session.after (.send record)).journal = session.journal := rfl

@[simp] theorem written_after_send [Machine] (session : Session) (record : Record) :
    (session.after (.send record)).written = session.journal.emit session.written record := rfl

theorem clock_after [Machine] (session : Session) (step : Step) :
    (session.after step).journal.clock = session.journal.clock := by
  cases step with
  | send record => rfl
  | setUp level file => exact clock_setUp session.journal level file session.written.files

/-- Records do not change the journal. -/
theorem journal_afterAll_send [Machine] (session : Session) (records : List Record) :
    (session.afterAll (records.map .send)).journal = session.journal := by
  induction records generalizing session with
  | nil => rfl
  | cons record rest inductionHypothesis => exact inductionHypothesis (session.after (.send record))

end Session

/-- The level that is left by several steps. -/
def lastLevel (level : Level) : List Step → Level
  | [] => level
  | .setUp next _ :: rest => lastLevel next rest
  | .send _ :: rest => lastLevel level rest

/-- The level from which on a journal takes records of the program: its own,
or else that of its surroundings. -/
def reach (level : Level) : Level :=
  if level = 0 then .warning else level

/-- The records that are sent while the level lets them pass, where every level
has a floor. -/
def heard (floor : Level → Level) (level : Level) : List Step → List Record
  | [] => []
  | .setUp next _ :: rest => heard floor next rest
  | .send record :: rest =>
    (if floor level ≤ record.level then [record] else []) ++ heard floor level rest

/-- The floor of a file: its handler has a level, too. -/
def fileReach (level : Level) : Level :=
  max (reach level) .debug

theorem fileReach_le_iff {level other : Level} :
    fileReach level ≤ other ↔ reach level ≤ other ∧ Level.debug ≤ other := Int.max_le

/-- The lines of several records. -/
def lines (journal : Journal) (records : List Record) : String :=
  String.join (records.map fun record => journal.line record ++ "\n")

@[simp] theorem lines_nil (journal : Journal) : lines journal [] = "" := rfl

theorem lines_singleton (journal : Journal) (record : Record) :
    lines journal [record] = journal.line record ++ "\n" := by
  simp [lines]

theorem lines_append (journal : Journal) (first second : List Record) :
    lines journal (first ++ second) = lines journal first ++ lines journal second := by
  rw [lines, List.map_append, String.join_append]
  rfl

/-- The lines of records depend on the clock only. -/
theorem lines_of_clock {journal other : Journal} (same : other.clock = journal.clock)
    (records : List Record) : lines other records = lines journal records := by
  simp only [lines, line, same]

/-! ## One record -/

theorem threshold_of_belongs (journal : Journal) {speaker : String} (ours : belongs speaker = true) :
    journal.threshold speaker = reach journal.level := by
  by_cases none : journal.level = 0 <;> simp [threshold, reach, ours, none]

/-- A record below the level is not written anywhere. -/
theorem emit_of_lt {journal : Journal} {record : Record} (ours : belongs record.speaker = true)
    (below : record.level < reach journal.level) (written : Transcript) :
    journal.emit written record = written := by
  rw [emit, threshold_of_belongs journal ours, if_pos (Or.inr below)]

/-- Whatever reaches a level also reaches the handler that has it. -/
theorem le_of_reach_le {level other : Level} (reached : reach level ≤ other) : level ≤ other := by
  rw [reach] at reached
  split at reached
  · rename_i none
    rw [none]
    exact Int.le_trans (by decide) reached
  · exact reached

/-- A record that reaches the level is written to the console, then by the
other handlers. -/
theorem emit_of_le {journal : Journal} {record : Record} {others : List Handler}
    (handlers : journal.handlers = .console journal.level :: others)
    (ours : belongs record.speaker = true) (counted : 1 ≤ record.level)
    (reached : reach journal.level ≤ record.level) (written : Transcript) :
    journal.emit written record =
      (others.filter fun handler => handler.level ≤ record.level).foldl
        (fun written handler => writeLine written (journal.line record) handler)
        { written with console := written.console ++ lines journal [record] } := by
  have passes : ¬(record.level ≤ 0 ∨ record.level < reach journal.level) := by
    rintro (uncounted | below)
    · exact absurd (Int.le_trans counted uncounted) (by decide)
    · exact Int.not_le.mpr below reached
  have first : decide ((Handler.console journal.level).level ≤ record.level) = true :=
    decide_eq_true (le_of_reach_le reached)
  rw [emit, threshold_of_belongs journal ours, if_neg passes, handlersOf, ours, if_pos rfl, handlers]
  simp only [List.filter_cons, first, if_true, List.foldl_cons, writeLine, lines_singleton,
    String.append_assoc]

/-! ## A journal that has been set up -/

/-- The handlers of a journal that was first set up with a file or without,
and the file of it is there. -/
structure Ready (file : Option Path) (session : Session) : Prop where
  handlers : session.journal.handlers =
    .console session.journal.level :: (file.map (Handler.file · .debug)).toList
  opened : ∀ path ∈ file,
    session.written.files.append path ByteArray.empty = .ok session.written.files

/-- Setting a journal up for the first time. -/
theorem ready_of_setUp [Machine] {session : Session} (bare : session.journal.handlers = []) {level : Level}
    {file : Option Path}
    (made : (session.journal.setUp level file session.written.files).1 = .ok ()) :
    Ready file (session.after (.setUp level file)) ∧
      (session.after (.setUp level file)).journal.level = level := by
  rw [Session.after]
  rw [setUp, bare] at made ⊢
  cases file with
  | none => exact ⟨⟨rfl, fun path none => nomatch none⟩, rfl⟩
  | some path =>
      revert made
      simp only [List.isEmpty_nil, if_true]
      cases session.written.files.makeDirectories path.parent with
      | mk outcome prepared =>
          cases outcome with
          | error fault => exact fun made => nomatch made
          | ok location =>
              cases appended : prepared.append path ByteArray.empty with
              | error fault =>
                  simp only [appended]
                  exact fun made => nomatch made
              | ok opened =>
                  simp only [appended]
                  refine fun _ => ⟨⟨rfl, ?_⟩, trivial⟩
                  rintro _ ⟨⟩
                  have again := Store.append_append ByteArray.empty appended
                  rwa [ByteArray.append_empty, appended] at again

/-- Setting it up again changes levels only. -/
theorem Ready.after_setUp [Machine] {file : Option Path} {session : Session} (ready : Ready file session)
    (level : Level) (other : Option Path) :
    session.after (.setUp level other) =
      { session with journal :=
          { session.journal with
            level := level
            handlers := .console level :: (file.map (Handler.file · .debug)).toList } } := by
  have releveled : session.journal.handlers.map (relevel level) =
      .console level :: (file.map (Handler.file · .debug)).toList := by
    rw [ready.handlers]
    cases file <;> rfl
  have filled : session.journal.handlers.isEmpty = false := by
    rw [ready.handlers]
    rfl
  rw [Session.after, setUp, filled, releveled]
  rfl

/-- What is written between two sessions: lines on the console, and lines at the
end of the file. -/
structure Adds (file : Option Path) (session : Session) (loud filed : List Record)
    (next : Session) : Prop where
  clock : next.journal.clock = session.journal.clock
  console : next.written.console = session.written.console ++ lines session.journal loud
  unfiled : file = none → next.written.files = session.written.files
  filed : ∀ path ∈ file,
    session.written.files.append path (lines session.journal filed).toUTF8 = .ok next.written.files

theorem Ready.adds_nothing {file : Option Path} {session next : Session} (ready : Ready file session)
    (clock : next.journal.clock = session.journal.clock) (written : next.written = session.written) :
    Adds file session [] [] next where
  clock := clock
  console := by rw [written, lines_nil, String.append_empty]
  unfiled := fun _ => by rw [written]
  filed := fun path named => by
    rw [written]
    exact ready.opened path named

theorem Adds.trans {file : Option Path} {session middle last : Session}
    {loud filed moreLoud moreFiled : List Record} (first : Adds file session loud filed middle)
    (second : Adds file middle moreLoud moreFiled last) :
    Adds file session (loud ++ moreLoud) (filed ++ moreFiled) last where
  clock := second.clock.trans first.clock
  console := by
    rw [second.console, first.console, lines_of_clock first.clock, lines_append, String.append_assoc]
  unfiled := fun none => (second.unfiled none).trans (first.unfiled none)
  filed := fun path named => by
    have added := second.filed path named
    rw [Store.append_append _ (first.filed path named), lines_of_clock first.clock] at added
    rw [lines_append]
    exact (congrArg (session.written.files.append path) String.toByteArray_append).trans added

/-- What is added to a file leaves it ready. -/
theorem Adds.ready {file : Option Path} {session next : Session} {loud filed : List Record}
    (adds : Adds file session loud filed next)
    (handlers : next.journal.handlers =
      .console next.journal.level :: (file.map (Handler.file · .debug)).toList) : Ready file next where
  handlers := handlers
  opened := fun path named => by
    rw [Store.append_append _ (adds.filed path named), ByteArray.append_empty]
    exact adds.filed path named

/-- Without a file, or below the level of its handler, only the console takes
what reaches the level of the journal. -/
theorem Ready.emit_brief [Machine] {file : Option Path} {session : Session} (ready : Ready file session)
    {record : Record} (ours : belongs record.speaker = true) (counted : 1 ≤ record.level)
    (reached : reach session.journal.level ≤ record.level)
    (brief : ∀ path ∈ file, ¬Level.debug ≤ record.level) :
    (session.after (.send record)).written = { session.written with
      console := session.written.console ++ lines session.journal [record] } := by
  rw [Session.written_after_send, emit_of_le ready.handlers ours counted reached]
  have skipped : (file.map (Handler.file · .debug)).toList.filter
      (fun handler => handler.level ≤ record.level) = [] := by
    cases file with
    | none => rfl
    | some path => exact List.filter_cons_of_neg fun kept => brief path rfl (of_decide_eq_true kept)
  rw [skipped, List.foldl_nil]

theorem Ready.emit_filed [Machine] {path : Path} {session : Session} (ready : Ready (some path) session)
    {record : Record} (ours : belongs record.speaker = true) (counted : 1 ≤ record.level)
    (reached : reach session.journal.level ≤ record.level) (detailed : Level.debug ≤ record.level)
    {files : Store}
    (added : session.written.files.append path (lines session.journal [record]).toUTF8 = .ok files) :
    (session.after (.send record)).written =
      ⟨session.written.console ++ lines session.journal [record], files⟩ := by
  rw [Session.written_after_send, emit_of_le ready.handlers ours counted reached]
  have taken : [Handler.file path .debug].filter (fun handler => handler.level ≤ record.level) =
      [Handler.file path .debug] := List.filter_cons_of_pos (decide_eq_true detailed)
  rw [Option.map_some, Option.toList_some, taken, List.foldl_cons, List.foldl_nil, writeLine]
  simp only [← lines_singleton, added]

/-- A record of the program is written to each place once or not at all. -/
theorem Ready.adds_send [Machine] {file : Option Path} {session : Session} (ready : Ready file session)
    {record : Record} (ours : belongs record.speaker = true) (counted : 1 ≤ record.level) :
    Adds file session
      (if reach session.journal.level ≤ record.level then [record] else [])
      (if fileReach session.journal.level ≤ record.level then [record] else [])
      (session.after (.send record)) := by
  by_cases reached : reach session.journal.level ≤ record.level
  · rw [if_pos reached]
    by_cases detailed : Level.debug ≤ record.level
    · rw [if_pos (fileReach_le_iff.mpr ⟨reached, detailed⟩)]
      cases file with
      | none =>
          have emitted := ready.emit_brief ours counted reached fun path none => nomatch none
          exact ⟨rfl, by rw [emitted], fun _ => by rw [emitted], fun path none => nomatch none⟩
      | some path =>
          rcases Store.exists_append (lines session.journal [record]).toUTF8 (ready.opened path rfl)
            with ⟨files, added⟩
          have emitted := ready.emit_filed ours counted reached detailed added
          refine ⟨rfl, by rw [emitted], (fun none => nomatch none), ?_⟩
          rintro _ ⟨⟩
          rw [emitted]
          exact added
    · rw [if_neg fun both => detailed (fileReach_le_iff.mp both).2]
      have emitted := ready.emit_brief ours counted reached fun _ _ => detailed
      refine ⟨rfl, by rw [emitted], fun _ => by rw [emitted], fun path named => ?_⟩
      rw [emitted]
      exact ready.opened path named
  · rw [if_neg reached, if_neg fun both => reached (fileReach_le_iff.mp both).1]
    exact ready.adds_nothing rfl (emit_of_lt ours (Int.not_le.mp reached) session.written)

/-! ## Several steps -/

/-- Records of others, or without a level, do not go to files. -/
theorem files_emit_of_not {record : Record} (other : ¬(belongs record.speaker = true ∧ 1 ≤ record.level))
    (journal : Journal) (written : Transcript) : (journal.emit written record).files = written.files := by
  rw [emit]
  split
  · rfl
  · rename_i passes
    have foreign : ¬belongs record.speaker = true := by
      intro ours
      have uncounted : ¬1 ≤ record.level := fun counted => other ⟨ours, counted⟩
      exact passes (Or.inl (Int.lt_add_one_iff.mp (Int.not_le.mp uncounted)))
    rw [handlersOf, if_neg foreign]
    dsimp only
    split <;> rfl

theorem Ready.after [Machine] {file : Option Path} {session : Session} (ready : Ready file session) (step : Step) :
    Ready file (session.after step) := by
  cases step with
  | setUp level other =>
      rw [ready.after_setUp]
      exact ⟨rfl, ready.opened⟩
  | send record =>
      by_cases ours : belongs record.speaker = true ∧ 1 ≤ record.level
      · exact (ready.adds_send ours.1 ours.2).ready ready.handlers
      · refine ⟨ready.handlers, fun path named => ?_⟩
        rw [Session.written_after_send, files_emit_of_not ours]
        exact ready.opened path named

theorem Ready.afterAll [Machine] {file : Option Path} {session : Session} (ready : Ready file session)
    (steps : List Step) : Ready file (session.afterAll steps) := by
  induction steps generalizing session with
  | nil => exact ready
  | cons step rest inductionHypothesis => exact inductionHypothesis (ready.after step)

/-- The level is always the one that was set last. -/
theorem Ready.level_afterAll [Machine] {file : Option Path} {session : Session} (ready : Ready file session)
    (steps : List Step) :
    (session.afterAll steps).journal.level = lastLevel session.journal.level steps := by
  induction steps generalizing session with
  | nil => rfl
  | cons step rest inductionHypothesis =>
      rw [Session.afterAll, List.foldl_cons]
      refine (inductionHypothesis (ready.after step)).trans ?_
      cases step with
      | setUp level other => rw [ready.after_setUp, lastLevel]
      | send record => rw [lastLevel, Session.journal_after_send]

/-- What several steps write, by what one of them writes. -/
theorem Ready.adds_steps [Machine] {file : Option Path} {session : Session} (ready : Ready file session)
    {steps : List Step}
    (ours : ∀ record, .send record ∈ steps → belongs record.speaker = true ∧ 1 ≤ record.level) :
    Adds file session (heard reach session.journal.level steps)
      (heard fileReach session.journal.level steps) (session.afterAll steps) := by
  induction steps generalizing session with
  | nil => exact ready.adds_nothing rfl rfl
  | cons step rest inductionHypothesis =>
      have later := inductionHypothesis (ready.after step) fun record sent =>
        ours record (List.mem_cons_of_mem step sent)
      cases step with
      | setUp level other =>
          have silent : Adds file session [] [] (session.after (.setUp level other)) := by
            apply ready.adds_nothing <;> rw [ready.after_setUp]
          have both := silent.trans later
          rw [ready.after_setUp] at both
          rwa [heard, heard, Session.afterAll, List.foldl_cons, ready.after_setUp]
      | send record =>
          rcases ours record List.mem_cons_self with ⟨belonging, counted⟩
          exact (ready.adds_send belonging counted).trans later

/-- The file of a session that is ready can be read. -/
theorem Ready.exists_read {path : Path} {session : Session} (ready : Ready (some path) session) :
    ∃ held, session.written.files.read path = .ok held :=
  ⟨_, Store.read_append (ready.opened path rfl)⟩

theorem Adds.read {path : Path} {session next : Session} {loud filed : List Record}
    (adds : Adds (some path) session loud filed next) {held : ByteArray}
    (reads : session.written.files.read path = .ok held) :
    next.written.files.read path = .ok (held ++ (lines session.journal filed).toUTF8) := by
  rw [Store.read_append (adds.filed path rfl), Store.contents, reads]

/-! ## From the first time on -/

/-- However often a journal is set up, it keeps the handlers of the first time,
takes the level of the last time, and writes every record of the program to
each place once, if the level that was set last before it lets it pass. -/
theorem written_once [Machine] {session : Session} (bare : session.journal.handlers = [])
    (earlier : List Record) {level : Level} {file : Option Path}
    (made : (session.journal.setUp level file
      (session.afterAll (earlier.map .send)).written.files).1 = .ok ())
    (steps : List Step)
    (ours : ∀ record, .send record ∈ steps → belongs record.speaker = true ∧ 1 ≤ record.level) :
    let first := (session.afterAll (earlier.map .send)).after (.setUp level file)
    let last := first.afterAll steps
    last.journal.level = lastLevel level steps ∧
      last.journal.handlers = .console (lastLevel level steps) ::
        (file.map (Handler.file · .debug)).toList ∧
      last.written.console = first.written.console ++ lines session.journal (heard reach level steps) ∧
      (file = none → last.written.files = first.written.files) ∧
      ∀ path, file = some path →
        let text := (lines session.journal (heard fileReach level steps)).toUTF8
        first.written.files.append path text = .ok last.written.files ∧
          ∃ held, first.written.files.read path = .ok held ∧
            last.written.files.read path = .ok (held ++ text) := by
  intro first last
  have same := session.journal_afterAll_send earlier
  rw [← same] at bare made
  rcases ready_of_setUp bare made with ⟨ready, set⟩
  have adds := ready.adds_steps ours
  have levels := ready.level_afterAll steps
  have clock : first.journal.clock = session.journal.clock :=
    ((session.afterAll _).clock_after _).trans (congrArg Journal.clock same)
  rw [set] at adds levels
  refine ⟨levels, ?_, ?_, adds.unfiled, ?_⟩
  · rw [← levels]
    exact (ready.afterAll steps).handlers
  · rw [← lines_of_clock clock]
    exact adds.console
  · rintro path rfl
    rcases ready.exists_read with ⟨held, reads⟩
    rw [← lines_of_clock clock]
    exact ⟨adds.filed path rfl, held, reads, adds.read reads⟩

/-- A program that has not set its journal up yet. -/
def unprepared : Session := ⟨{}, ⟨"", Store.empty⟩⟩

def plannerLog : Path := Path.ofString "planner.log"

def started : Record := ⟨.info, "bgplanner", "Starting"⟩

def narrowed : Record := ⟨.debug, "bgplanner.planner", "Narrowed"⟩

section

attribute [local instance] Machine.usual

/-- The same file is named twice, and still every record stands in it once. -/
theorem written_once_set_up_twice :
    let steps := [.send narrowed, .send started, .setUp .debug (some plannerLog), .send narrowed]
    let last := (unprepared.after (.setUp .info (some plannerLog))).afterAll steps
    last.journal.handlers = [.console .debug, .file plannerLog .debug] ∧
      last.written.console = "00:00:00 [INFO] bgplanner: Starting\n" ++
        "00:00:00 [DEBUG] bgplanner.planner: Narrowed\n" ∧
      last.written.files.read plannerLog = .ok ("00:00:00 [INFO] bgplanner: Starting\n" ++
        "00:00:00 [DEBUG] bgplanner.planner: Narrowed\n").toUTF8 := by
  intro steps last
  have ours : ∀ record, .send record ∈ steps → belongs record.speaker = true ∧ 1 ≤ record.level := by
    intro record sent
    have either : record = narrowed ∨ record = started := by
      simp only [steps, List.mem_cons, List.not_mem_nil, Step.send.injEq, reduceCtorEq, or_false,
        false_or] at sent
      rcases sent with same | same | same
      · exact Or.inl same
      · exact Or.inr same
      · exact Or.inl same
    rcases either with same | same <;> rw [same] <;> decide
  rcases @written_once _ unprepared rfl [] .info (some plannerLog) rfl steps ours with
    ⟨_, handlers, console, _, filed⟩
  rcases filed plannerLog rfl with ⟨_, held, first, read⟩
  have empty : held = ByteArray.empty := (Except.ok.inj first).symm
  refine ⟨handlers, console, ?_⟩
  rw [empty, ByteArray.empty_append] at read
  exact read

end

/-! ## What is left out of the file -/

theorem reach_le_debug_iff (level : Level) : reach level ≤ .debug ↔ level ≠ 0 ∧ level ≤ .debug := by
  rw [reach]
  split
  · rename_i none
    refine iff_of_false (by decide) fun both => both.1 none
  · rename_i some
    exact ⟨fun below => ⟨some, below⟩, fun both => both.2⟩

theorem append_line_ne (held : ByteArray) (text : String) : held ++ (text ++ "\n").toUTF8 ≠ held := by
  intro same
  have sizes := congrArg ByteArray.size same
  have longer : (text ++ "\n").toUTF8.size = text.toUTF8.size + 1 := by
    rw [String.toUTF8, String.toByteArray_append, ByteArray.size_append]
    rfl
  rw [ByteArray.size_append, longer] at sizes
  omega

/-- The file of a journal takes a record from `Level.debug` on if it reaches the level
of the journal, and no other one. -/
theorem Ready.read_after_send [Machine] {path : Path} {now : Session} (ready : Ready (some path) now)
    {held : ByteArray} (reads : now.written.files.read path = .ok held) {record : Record}
    (ours : belongs record.speaker = true) (detailed : Level.debug ≤ record.level) :
    (now.after (.send record)).written.files.read path =
      .ok (if reach now.journal.level ≤ record.level then
          held ++ (now.journal.line record ++ "\n").toUTF8
        else held) := by
  have counted : 1 ≤ record.level := Int.le_trans (by decide) detailed
  rw [(ready.adds_send ours counted).read reads]
  by_cases reached : reach now.journal.level ≤ record.level
  · rw [if_pos reached, if_pos (fileReach_le_iff.mpr ⟨reached, detailed⟩), lines_singleton]
  · rw [if_neg reached, if_neg fun both => reached (fileReach_le_iff.mp both).1, lines_nil]
    exact congrArg Except.ok ByteArray.append_empty

/-- The file takes a record from `Level.debug` on exactly if it reaches the level
of the journal, and so takes all of them exactly while that level is its own
and no more than `Level.debug`. -/
theorem file_takes_all_iff [Machine] {session : Session} (bare : session.journal.handlers = [])
    (earlier : List Record) {level : Level} {path : Path}
    (made : (session.journal.setUp level (some path)
      (session.afterAll (earlier.map .send)).written.files).1 = .ok ())
    (steps : List Step) :
    let now := ((session.afterAll (earlier.map .send)).after (.setUp level (some path))).afterAll steps
    let set := lastLevel level steps
    ∃ held, now.written.files.read path = .ok held ∧
      (∀ record, belongs record.speaker = true → Level.debug ≤ record.level →
        (now.after (.send record)).written.files.read path =
          .ok (if reach set ≤ record.level then held ++ (now.journal.line record ++ "\n").toUTF8
            else held)) ∧
      ((∀ record, belongs record.speaker = true → Level.debug ≤ record.level →
        (now.after (.send record)).written.files.read path =
          .ok (held ++ (now.journal.line record ++ "\n").toUTF8)) ↔ set ≠ 0 ∧ set ≤ .debug) := by
  intro now set
  have same := session.journal_afterAll_send earlier
  rw [← same] at bare made
  rcases ready_of_setUp bare made with ⟨opened, first⟩
  have ready : Ready (some path) now := opened.afterAll steps
  have levels : now.journal.level = set := by
    rw [opened.level_afterAll steps, first]
  rcases ready.exists_read with ⟨held, reads⟩
  have takes : ∀ record, belongs record.speaker = true → Level.debug ≤ record.level →
      (now.after (.send record)).written.files.read path =
        .ok (if reach set ≤ record.level then held ++ (now.journal.line record ++ "\n").toUTF8
          else held) := by
    intro record ours detailed
    rw [ready.read_after_send reads ours detailed, levels]
  refine ⟨held, reads, takes, ?_⟩
  rw [← reach_le_debug_iff]
  constructor
  · intro all
    apply Decidable.byContradiction
    intro above
    have least := all ⟨.debug, programSpeaker, ""⟩ (by decide) (Int.le_refl _)
    rw [takes _ (by decide) (Int.le_refl _), if_neg above] at least
    exact append_line_ne held _ (Except.ok.inj least).symm
  · intro below record ours detailed
    rw [takes record ours detailed, if_pos (Int.le_trans below detailed)]

section

attribute [local instance] Machine.usual

/-- A journal that shows everything on the console also puts it in the file. -/
theorem file_takes_all_of_debug :
    let first := unprepared.after (.setUp .debug (some plannerLog))
    ∃ held, first.written.files.read plannerLog = .ok held ∧
      ∀ record, belongs record.speaker = true → Level.debug ≤ record.level →
        (first.after (.send record)).written.files.read plannerLog =
          .ok (held ++ (first.journal.line record ++ "\n").toUTF8) := by
  rcases @file_takes_all_iff _ unprepared rfl [] .debug plannerLog rfl [] with ⟨held, reads, _, all⟩
  exact ⟨held, reads, all.mpr ⟨by decide, by decide⟩⟩

/-- Below the level of the journal, a record for which the file has a handler is
not in the file. -/
theorem detail_missing_from_file :
    let first := unprepared.after (.setUp .info (some plannerLog))
    (unprepared.journal.setUp .info (some plannerLog) unprepared.written.files).1 = .ok () ∧
      belongs narrowed.speaker = true ∧ Level.debug ≤ narrowed.level ∧
      first.journal.handlers = [.console .info, .file plannerLog .debug] ∧
      (first.after (.send narrowed)).written.files.read plannerLog = .ok ByteArray.empty :=
  ⟨rfl, by decide, by decide, rfl, rfl⟩

end

end Journal
end GameNight
