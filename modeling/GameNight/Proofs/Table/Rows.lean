import GameNight.Program
import GameNight.Proofs.Text.Lines
import GameNight.Table

namespace GameNight
namespace Table

open Text

/-!
# Lines and records of a table

How the records of a table follow from its lines: line by line, and for any number of
lines that are put one after another.
-/

/-!
## Reading a line of a table

A line that starts a record and leaves no quote open is a record by itself,
with a line feed behind it or without.  A line without double quotes leaves no
quote open.  Once a quote is open, only a double quote closes it.
-/

/-- The cells of the record that a line makes by itself, or nothing when the
line leaves a quote open. -/
def lineCells? (line : List Char) : Except Fault (Option (List String)) :=
  (Progress.start.takeLine line).map Progress.endLine?

/-- A line that makes a record by itself. -/
def Complete (line : List Char) : Prop :=
  ∃ cells, lineCells? line = .ok (some cells)

namespace Progress

/-- A line is taken in two parts, one after the other. -/
theorem takeLine_append_eq_ok (progress final : Progress) (line rest : List Char) :
    progress.takeLine (line ++ rest) = .ok final ↔
      ∃ reached, progress.takeLine line = .ok reached ∧ reached.takeLine rest = .ok final := by
  induction line generalizing progress with
  | nil => simp [takeLine]
  | cons c others inductionHypothesis =>
      rw [List.cons_append, takeLine, takeLine]
      cases progress.step c with
      | error fault => simp
      | ok next => exact inductionHypothesis next

/-- Only an open quote keeps a line from ending its record. -/
theorem endLine?_eq_none (progress : Progress) :
    progress.endLine? = none ↔ progress.position = .quoted := by
  rcases progress with ⟨position, cells, cell, size⟩
  cases position <;> simp [endLine?]

/-- A line feed ends the record where the end of the text would. -/
theorem step_lineFeed {progress : Progress} {cells : List String}
    (complete : progress.endLine? = some cells) :
    ∃ next, progress.step '\n' = .ok next ∧ next.endLine? = some cells := by
  rcases progress with ⟨position, past, cell, size⟩
  cases position with
  | quoted => cases complete
  | beforeRecord => exact ⟨_, rfl, complete⟩
  | beforeCell => exact ⟨_, rfl, complete⟩
  | plain => exact ⟨_, rfl, complete⟩
  | closing => exact ⟨_, rfl, complete⟩
  | afterCells => exact ⟨_, rfl, complete⟩

/-- No quote is open, and none has just been closed. -/
def Unquoted (progress : Progress) : Prop :=
  progress.position ≠ .quoted ∧ progress.position ≠ .closing

theorem unquoted_start : start.Unquoted :=
  ⟨Position.noConfusion, Position.noConfusion⟩

theorem unquoted_addChar {progress next : Progress} {c : Char}
    (added : progress.addChar .plain c = .ok next) : next.Unquoted := by
  rw [addChar] at added
  split at added
  · cases added
  · cases added
    exact ⟨Position.noConfusion, Position.noConfusion⟩

theorem unquoted_openCell {progress next : Progress} {c : Char} (unmarked : c ≠ '\x22')
    (opened : progress.openCell c = .ok next) : next.Unquoted := by
  rw [openCell, if_neg unmarked] at opened
  split at opened
  · cases opened
    exact ⟨Position.noConfusion, Position.noConfusion⟩
  · split at opened
    · cases opened
      exact ⟨Position.noConfusion, Position.noConfusion⟩
    · exact unquoted_addChar opened

/-- Only a double quote opens a quote. -/
theorem unquoted_step {progress next : Progress} {c : Char} (unquoted : progress.Unquoted)
    (unmarked : c ≠ '\x22') (taken : progress.step c = .ok next) : next.Unquoted := by
  rcases progress with ⟨position, cells, cell, size⟩
  cases position with
  | quoted => exact absurd rfl unquoted.1
  | closing => exact absurd rfl unquoted.2
  | beforeRecord =>
      simp only [step] at taken
      split at taken
      · cases taken
        exact ⟨Position.noConfusion, Position.noConfusion⟩
      · exact unquoted_openCell unmarked taken
  | beforeCell => exact unquoted_openCell unmarked taken
  | plain =>
      simp only [step] at taken
      split at taken
      · cases taken
        exact ⟨Position.noConfusion, Position.noConfusion⟩
      · split at taken
        · cases taken
          exact ⟨Position.noConfusion, Position.noConfusion⟩
        · exact unquoted_addChar taken
  | afterCells =>
      simp only [step] at taken
      split at taken
      · cases taken
        exact unquoted
      · cases taken

theorem unquoted_takeLine {progress reached : Progress} {line : List Char}
    (unquoted : progress.Unquoted) (unmarked : '\x22' ∉ line)
    (taken : progress.takeLine line = .ok reached) : reached.Unquoted := by
  induction line generalizing progress with
  | nil =>
      cases taken
      exact unquoted
  | cons c rest inductionHypothesis =>
      have here : c ≠ '\x22' := (List.ne_of_not_mem_cons unmarked).symm
      have later : '\x22' ∉ rest := List.not_mem_of_not_mem_cons unmarked
      rw [takeLine] at taken
      cases stepped : progress.step c with
      | error fault =>
          rw [stepped] at taken
          cases taken
      | ok next =>
          rw [stepped] at taken
          exact inductionHypothesis (unquoted_step unquoted here stepped) later taken

/-- Between quotes, characters other than double quotes are taken until the
cell outgrows its limit. -/
theorem takeLine_quoted {progress : Progress} (quoted : progress.position = .quoted)
    {line : List Char} (unmarked : '\x22' ∉ line) :
    (∃ reached, progress.takeLine line = .ok reached ∧ reached.position = .quoted) ∨
      progress.takeLine line = .error .cellTooLong := by
  induction line generalizing progress with
  | nil => exact Or.inl ⟨progress, rfl, quoted⟩
  | cons c rest inductionHypothesis =>
      have here : c ≠ '\x22' := (List.ne_of_not_mem_cons unmarked).symm
      have later : '\x22' ∉ rest := List.not_mem_of_not_mem_cons unmarked
      have stepped : progress.step c = progress.addChar .quoted c := by
        simp only [step, quoted, if_neg here]
      rw [takeLine, stepped, addChar]
      by_cases long : cellLimit ≤ progress.size
      · rw [if_pos long]
        exact Or.inr rfl
      · rw [if_neg long]
        exact inductionHypothesis rfl later

end Progress

/-- What a line makes by itself is what its end finds. -/
theorem lineCells?_eq_ok {line : List Char} {cells? : Option (List String)} :
    lineCells? line = .ok cells? ↔
      ∃ reached, Progress.start.takeLine line = .ok reached ∧ reached.endLine? = cells? :=
  Answer.map_eq_ok

/-- A line that makes no record by itself has a double quote, unless the rules
of the format are broken. -/
theorem complete_of_unmarked {line : List Char} (unmarked : '\x22' ∉ line)
    {cells? : Option (List String)} (read : lineCells? line = .ok cells?) : Complete line := by
  rcases lineCells?_eq_ok.mp read with ⟨reached, taken, _⟩
  have unquoted := Progress.unquoted_takeLine Progress.unquoted_start unmarked taken
  cases ended : reached.endLine? with
  | none => exact absurd ((Progress.endLine?_eq_none reached).mp ended) unquoted.1
  | some cells => exact ⟨cells, lineCells?_eq_ok.mpr ⟨reached, taken, ended⟩⟩

theorem complete_nil : Complete [] := ⟨[], rfl⟩

/-- A line feed at its end changes nothing about a complete line. -/
theorem lineCells?_lineFeed {line : List Char} {cells : List String}
    (read : lineCells? line = .ok (some cells)) :
    lineCells? (line ++ ['\n']) = .ok (some cells) := by
  rcases lineCells?_eq_ok.mp read with ⟨reached, taken, ended⟩
  rcases Progress.step_lineFeed ended with ⟨next, stepped, same⟩
  have fed : reached.takeLine ['\n'] = .ok next := by
    rw [Progress.takeLine, stepped]
    rfl
  have both := (Progress.takeLine_append_eq_ok .start next line ['\n']).mpr ⟨reached, taken, fed⟩
  exact lineCells?_eq_ok.mpr ⟨next, both, same⟩

/-- Nor does a line feed close a quote. -/
theorem complete_of_lineFeed {line : List Char} {cells : List String}
    (read : lineCells? (line ++ ['\n']) = .ok (some cells)) : Complete line := by
  rcases lineCells?_eq_ok.mp read with ⟨next, both, ended⟩
  rcases (Progress.takeLine_append_eq_ok .start next line ['\n']).mp both with
    ⟨reached, taken, fed⟩
  cases before : reached.endLine? with
  | some cells => exact ⟨cells, lineCells?_eq_ok.mpr ⟨reached, taken, before⟩⟩
  | none =>
      have quoted := (Progress.endLine?_eq_none reached).mp before
      rcases Progress.takeLine_quoted quoted (by decide : '\x22' ∉ ['\n']) with
        ⟨other, alsoFed, stillOpen⟩ | overflow
      · rw [Except.ok.inj (fed.symm.trans alsoFed)] at ended
        rw [(Progress.endLine?_eq_none other).mpr stillOpen] at ended
        cases ended
      · rw [overflow] at fed
        cases fed

/-! ### Reading on behind a line -/

theorem readLines_of_complete {progress reached : Progress} {chars : List Char}
    {cells : List String} (taken : progress.takeLine chars = .ok reached)
    (ended : reached.endLine? = some cells) (line : Nat) (rest : List (List Char)) :
    readLines progress line (chars :: rest) =
      ⟨⟨cells, line + 1⟩ :: (readLines .start (line + 1) rest).records,
        (readLines .start (line + 1) rest).fault⟩ := by
  rw [readLines, taken]
  simp only [ended]

/-- A quote that is open is passed to the lines behind it. -/
theorem readLines_of_open {progress reached : Progress} {chars : List Char}
    (taken : progress.takeLine chars = .ok reached) (ended : reached.endLine? = none) (line : Nat)
    (rest : List (List Char)) :
    readLines progress line (chars :: rest) = readLines reached (line + 1) rest := by
  rw [readLines, taken]
  simp only [ended]

/-- The first line of a text without faults can be read by itself. -/
theorem lineCells?_of_sound {chars : List Char} {number : Nat} {rest : List (List Char)}
    (sound : (readLines .start number (chars :: rest)).fault = none) :
    ∃ cells?, lineCells? chars = .ok cells? := by
  rw [readLines] at sound
  cases taken : Progress.start.takeLine chars with
  | error fault =>
      rw [taken] at sound
      cases sound
  | ok reached => exact ⟨reached.endLine?, lineCells?_eq_ok.mpr ⟨reached, taken, rfl⟩⟩

/-!
## How the records of a table lie in its lines

The records of a table that is read to its end take up all of its lines, one behind
another.  Each one has some lines of its own, at least one, and would be read from
these alone in the same way; its number is that of the last of them.  So no line is
passed over, and the numbers of the records rise.
-/

/-- Whether records lie in lines, of which some number has been read before: they
stand on pieces of the lines, one behind another, and each one is what its piece
makes by itself. -/
inductive Lays : Nat → List (List Char) → List Record → Prop
  | nil (number : Nat) : Lays number [] []
  | record {number : Nat} {piece rest : List (List Char)} {cells : List String} {records : List Record}
      (filled : piece ≠ []) (alone : readLines .start 0 piece = ⟨[⟨cells, piece.length⟩], none⟩)
      (others : Lays (number + piece.length) rest records) :
      Lays number (piece ++ rest) (⟨cells, number + piece.length⟩ :: records)

/-- Every record ends behind the lines that were read before it, and the records end
on one line after another. -/
theorem Lays.rising {number : Nat} {lines : List (List Char)} {records : List Record}
    (lays : Lays number lines records) :
    (∀ record ∈ records, number < record.line) ∧ records.Pairwise fun a b => a.line < b.line := by
  induction lays with
  | nil number => exact ⟨fun record member => absurd member List.not_mem_nil, .nil⟩
  | @record number piece rest cells records filled alone others inductionHypothesis =>
      have more := List.length_pos_iff.mpr filled
      constructor
      · refine List.forall_mem_cons.mpr ⟨Nat.lt_add_of_pos_right more, fun other member => ?_⟩
        have behind := inductionHypothesis.1 other member
        omega
      · exact List.pairwise_cons.mpr inductionHypothesis

/-- No record ends behind the last line, and there are no more records than lines. -/
theorem Lays.bounded {number : Nat} {lines : List (List Char)} {records : List Record}
    (lays : Lays number lines records) :
    (∀ record ∈ records, record.line ≤ number + lines.length) ∧ records.length ≤ lines.length := by
  induction lays with
  | nil number => exact ⟨fun record member => absurd member List.not_mem_nil, Nat.le_refl 0⟩
  | @record number piece rest cells records filled alone others inductionHypothesis =>
      have more := List.length_pos_iff.mpr filled
      rw [List.length_append, List.length_cons]
      constructor
      · refine List.forall_mem_cons.mpr ⟨by simp, fun other member => ?_⟩
        have within := inductionHypothesis.1 other member
        omega
      · have fewer := inductionHypothesis.2
        omega

/-- Whether reading some lines from the start of a record leads to where the reader
stands, whatever follows them. -/
def LeadsTo (before : List (List Char)) (progress : Progress) : Prop :=
  ∀ number rest, readLines .start number (before ++ rest) = readLines progress (number + before.length) rest

theorem leadsTo_start : LeadsTo [] .start := fun _ _ => rfl

theorem LeadsTo.concat {before : List (List Char)} {progress reached : Progress} {line : List Char}
    (leads : LeadsTo before progress) (taken : progress.takeLine line = .ok reached)
    (ended : reached.endLine? = none) : LeadsTo (before ++ [line]) reached := by
  intro number rest
  rw [List.append_assoc, leads, List.singleton_append, readLines_of_open taken ended, List.length_append]
  rfl

/-- What makes a record at the end of some lines makes it from these lines alone. -/
theorem LeadsTo.alone {before : List (List Char)} {progress reached : Progress} {line : List Char}
    {cells : List String} (leads : LeadsTo before progress) (taken : progress.takeLine line = .ok reached)
    (ended : reached.endLine? = some cells) :
    readLines .start 0 (before ++ [line]) = ⟨[⟨cells, (before ++ [line]).length⟩], none⟩ := by
  rw [leads, readLines_of_complete taken ended, Nat.zero_add, List.length_append]
  rfl

/-- The lines that are left complete the record that is being read, and hold the ones
behind it.  The lines before them belong to that record, since a quote is open if there
are any. -/
theorem lays_of_progress {before : List (List Char)} {progress : Progress} {number : Nat}
    {lines : List (List Char)} (leads : LeadsTo before progress)
    (begun : before = [] ∧ progress = .start ∨ before ≠ [] ∧ progress.position = .quoted)
    (sound : (readLines progress (number + before.length) lines).fault = none) :
    Lays number (before ++ lines) (readLines progress (number + before.length) lines).records := by
  induction lines generalizing before progress number with
  | nil =>
      rcases begun with ⟨rfl, rfl⟩ | ⟨filled, quoted⟩
      · exact .nil number
      · have left (line : Nat) : readLines progress line [] =
            ⟨[⟨(progress.closeCell .afterCells).finished, line⟩], none⟩ := by
          rw [readLines, Progress.leftover, if_pos quoted]
        have alone := leads 0 []
        rw [List.append_nil, left, Nat.zero_add] at alone
        rw [left]
        exact .record filled alone (.nil _)
  | cons line rest inductionHypothesis =>
      cases taken : progress.takeLine line with
      | error fault =>
          rw [readLines, taken] at sound
          cases sound
      | ok reached =>
          have behind : number + (before ++ [line]).length = number + before.length + 1 := by
            rw [List.length_append, List.length_singleton, Nat.add_assoc]
          cases ended : reached.endLine? with
          | none =>
              rw [readLines_of_open taken ended, ← behind] at sound ⊢
              rw [List.append_cons]
              exact inductionHypothesis (leads.concat taken ended)
                (Or.inr ⟨by simp, (reached.endLine?_eq_none).mp ended⟩) sound
          | some cells =>
              rw [readLines_of_complete taken ended, ← behind] at sound ⊢
              rw [List.append_cons]
              exact .record (by simp) (leads.alone taken ended)
                (inductionHypothesis leadsTo_start (Or.inl ⟨rfl, rfl⟩) sound)

/-- The records of a table that is read to its end lie in its lines. -/
theorem lays_read {chars : List Char} (sound : (read chars).fault = none) :
    Lays 0 (Text.physicalLines chars) (read chars).records :=
  lays_of_progress leadsTo_start (Or.inl ⟨rfl, rfl⟩) sound

/-- Blank lines and lines between quotes are counted. -/
example : (read ['a', '\n', '\n', '\x22', 'b', '\n', 'c', '\x22', '\n']).records =
    [⟨["a"], 1⟩, ⟨[], 2⟩, ⟨["b\nc"], 4⟩] := by
  rfl

/-!
## Rows of a table, line by line

Reading a table forgets a line once its record is complete, so that what
follows a complete line is read as if it stood alone.  The rows of a text of
complete lines are the rows of its lines, one after another.  Only a line that
leaves a quote open reaches beyond itself, and if no double quote follows, it
takes the whole rest of the text with it.

What is said here about records leaves the numbers of their lines aside.
-/

/-! ### Lines one after another -/

/-- The records of a reading as rows of cells; blank records are no rows. -/
def Reading.rows (reading : Reading) : List (List String) :=
  (reading.records.filter fun record => !record.cells.isEmpty).map Record.cells

/-- A text with these rows in front of its first fault, if there is one.  The
number of its first line does not matter. -/
def Holds (chars : List Char) (rows : List (List String)) (fault : Option Fault) : Prop :=
  ∀ line, (readLines .start line (physicalLines chars)).fault = fault ∧
    (readLines .start line (physicalLines chars)).rows = rows

/-- The rows of one record: none if it is blank. -/
def rowsOfCells (cells : List String) : List (List String) :=
  if cells.isEmpty then [] else [cells]

/-- The rows of a line that is read by itself. -/
def rowsOfLine (line : List Char) : List (List String) :=
  match lineCells? line with
  | .ok (some cells) => rowsOfCells cells
  | _ => []

theorem length_rowsOfCells_le (cells : List String) : (rowsOfCells cells).length ≤ 1 := by
  rw [rowsOfCells]
  split
  · exact Nat.zero_le 1
  · exact Nat.le_refl 1

theorem rowsOfLine_of_read {line : List Char} {cells : List String}
    (read : lineCells? line = .ok (some cells)) : rowsOfLine line = rowsOfCells cells := by
  rw [rowsOfLine, read]

theorem rows_cons (cells : List String) (line : Nat) (records : List Record)
    (fault : Option Fault) :
    (Reading.mk (⟨cells, line⟩ :: records) fault).rows =
      rowsOfCells cells ++ (Reading.mk records fault).rows := by
  rw [Reading.rows, rowsOfCells, List.filter_cons]
  cases cells.isEmpty <;> rfl

/-- A complete line adds its record to what is read behind it. -/
theorem readLines_cons {chars : List Char} {cells : List String}
    (read : lineCells? chars = .ok (some cells)) (line : Nat) (rest : List (List Char)) :
    readLines .start line (chars :: rest) =
      ⟨⟨cells, line + 1⟩ :: (readLines .start (line + 1) rest).records,
        (readLines .start (line + 1) rest).fault⟩ := by
  rcases lineCells?_eq_ok.mp read with ⟨reached, taken, ended⟩
  exact readLines_of_complete taken ended line rest

theorem holds_nil : Holds [] [] none := fun _ => ⟨rfl, rfl⟩

/-- The rows of a complete line come before those of the text behind it. -/
theorem Holds.cons {line rest : List Char} {cells : List String} {rows : List (List String)}
    {fault : Option Fault} (whole : '\n' ∉ line) (read : lineCells? line = .ok (some cells))
    (others : Holds rest rows fault) :
    Holds (line ++ '\n' :: rest) (rowsOfCells cells ++ rows) fault := by
  intro number
  rw [physicalLines_append whole, readLines_cons (lineCells?_lineFeed read)]
  rcases others (number + 1) with ⟨sound, same⟩
  refine ⟨sound, ?_⟩
  rw [rows_cons, ← same]

theorem holds_single {chars : List Char} {cells : List String}
    (single : physicalLines chars = [chars]) (read : lineCells? chars = .ok (some cells)) :
    Holds chars (rowsOfCells cells) none := by
  intro number
  rw [single, readLines_cons read]
  refine ⟨rfl, ?_⟩
  rw [rows_cons]
  exact List.append_nil _

/-- A complete line may end the text without a line feed. -/
theorem holds_line {line : List Char} {cells : List String} (whole : '\n' ∉ line)
    (read : lineCells? line = .ok (some cells)) : Holds line (rowsOfCells cells) none := by
  by_cases filled : line = []
  · subst filled
    cases read
    exact holds_nil
  · exact holds_single (physicalLines_of_whole whole filled) read

/-- A complete line by itself, with or without a line feed. -/
theorem holds_textOfLines_singleton {ended : Bool} {line : List Char} {cells : List String}
    (whole : '\n' ∉ line) (read : lineCells? line = .ok (some cells)) :
    Holds (textOfLines ended [line]) (rowsOfCells cells) none := by
  cases ended with
  | true =>
      have fed := holds_nil.cons whole read
      rwa [List.append_nil] at fed
  | false => exact holds_line whole read

/-- The rows of complete lines come one after another before those of the
lines that end the text. -/
theorem holds_textOfLines_append {ended : Bool} {lines rest : List (List Char)}
    {rows : List (List String)} {fault : Option Fault} (whole : ∀ line ∈ lines, '\n' ∉ line)
    (complete : ∀ line ∈ lines, Complete line) (more : rest ≠ [])
    (others : Holds (textOfLines ended rest) rows fault) :
    Holds (textOfLines ended (lines ++ rest)) (lines.flatMap rowsOfLine ++ rows) fault := by
  induction lines with
  | nil => exact others
  | cons line lines inductionHypothesis =>
      rcases complete line List.mem_cons_self with ⟨cells, read⟩
      have behind := inductionHypothesis
        (fun other member => whole other (List.mem_cons_of_mem line member))
        (fun other member => complete other (List.mem_cons_of_mem line member))
      have filled : lines ++ rest ≠ [] := by
        intro equal
        exact more (List.append_eq_nil_iff.mp equal).2
      rw [List.cons_append, textOfLines_cons ended line filled, List.flatMap_cons,
        rowsOfLine_of_read read, List.append_assoc]
      exact behind.cons (whole line List.mem_cons_self) read

theorem holds_textOfLines {ended : Bool} {lines : List (List Char)}
    (whole : ∀ line ∈ lines, '\n' ∉ line) (complete : ∀ line ∈ lines, Complete line) :
    Holds (textOfLines ended lines) (lines.flatMap rowsOfLine) none := by
  rcases List.eq_nil_or_concat lines with empty | ⟨first, last, equal⟩
  · subst empty
    exact holds_nil
  · subst equal
    rcases complete last (by simp) with ⟨cells, read⟩
    have wholeLast : '\n' ∉ last := whole last (by simp)
    have lastAlone : Holds (textOfLines ended [last]) (rowsOfLine last) none := by
      rw [rowsOfLine_of_read read]
      exact holds_textOfLines_singleton wholeLast read
    have joined := holds_textOfLines_append
      (fun line (member : line ∈ first) => whole line (by simp [member]))
      (fun line member => complete line (by simp [member])) (List.cons_ne_nil last []) lastAlone
    simpa using joined

/-! ### A line that leaves a quote open -/

/-- A quote that is still open where the text ends makes one row. -/
theorem rows_leftover {progress : Progress} (quoted : progress.position = .quoted) (line : Nat) :
    (Reading.mk (progress.leftover line) none).rows =
      [(progress.closeCell .afterCells).finished] := by
  have filled : (progress.closeCell .afterCells).finished.isEmpty = false := by
    simp [Progress.closeCell, Progress.finished]
  rw [Progress.leftover, if_pos quoted, rows_cons, rowsOfCells, filled]
  rfl

/-- Lines without double quotes belong to the quote that is open before them:
they make one row at the end of the text, unless its cell outgrows the limit. -/
theorem readLines_quoted {progress : Progress} (quoted : progress.position = .quoted)
    {lines : List (List Char)} (unmarked : ∀ line ∈ lines, '\x22' ∉ line) :
    (∃ cells, ∀ number, (readLines progress number lines).fault = none ∧
        (readLines progress number lines).rows = [cells]) ∨
      ∀ number, readLines progress number lines = ⟨[], some .cellTooLong⟩ := by
  induction lines generalizing progress with
  | nil => exact Or.inl ⟨_, fun number => ⟨rfl, rows_leftover quoted number⟩⟩
  | cons line rest inductionHypothesis =>
      rcases Progress.takeLine_quoted quoted (unmarked line List.mem_cons_self) with
        ⟨reached, taken, stillOpen⟩ | overflow
      · have ended : reached.endLine? = none := (Progress.endLine?_eq_none reached).mpr stillOpen
        rcases inductionHypothesis stillOpen
          (fun other member => unmarked other (List.mem_cons_of_mem line member)) with
            ⟨cells, row⟩ | overflow
        · refine Or.inl ⟨cells, fun number => ?_⟩
          rw [readLines_of_open taken ended]
          exact row (number + 1)
        · apply Or.inr
          intro number
          rw [readLines_of_open taken ended]
          exact overflow (number + 1)
      · apply Or.inr
        intro number
        rw [readLines, overflow]

/-- A line that leaves a quote open passes it to the lines behind it. -/
theorem readLines_open {chars : List Char} (read : lineCells? chars = .ok none) :
    ∃ reached : Progress, reached.position = .quoted ∧ ∀ number rest,
      readLines .start number (chars :: rest) = readLines reached (number + 1) rest := by
  rcases lineCells?_eq_ok.mp read with ⟨reached, taken, ended⟩
  exact ⟨reached, (Progress.endLine?_eq_none reached).mp ended, readLines_of_open taken ended⟩

/-- A last line makes at most one row, also when it leaves a quote open. -/
theorem holds_last {chars : List Char} (single : physicalLines chars = [chars])
    {cells? : Option (List String)} (read : lineCells? chars = .ok cells?) :
    ∃ rows, rows.length ≤ 1 ∧ Holds chars rows none := by
  cases cells? with
  | some cells => exact ⟨rowsOfCells cells, length_rowsOfCells_le cells, holds_single single read⟩
  | none =>
      rcases readLines_open read with ⟨reached, quoted, passed⟩
      refine ⟨[(reached.closeCell .afterCells).finished], Nat.le_refl 1, fun number => ?_⟩
      rw [single, passed]
      exact ⟨rfl, rows_leftover quoted (number + 1)⟩

/-- A quote that a line leaves open takes the text behind it with it. -/
theorem holds_open {line rest : List Char} (whole : '\n' ∉ line)
    (read : lineCells? (line ++ ['\n']) = .ok none) (unmarked : '\x22' ∉ rest) :
    (∃ cells, Holds (line ++ '\n' :: rest) [cells] none) ∨
      Holds (line ++ '\n' :: rest) [] (some .cellTooLong) := by
  rcases readLines_open read with ⟨reached, quoted, passed⟩
  have unmarkedLines : ∀ other ∈ physicalLines rest, '\x22' ∉ other := by
    intro other member inside
    have within := List.mem_flatten_of_mem member inside
    rw [flatten_physicalLines] at within
    exact unmarked within
  rcases readLines_quoted quoted unmarkedLines with ⟨cells, row⟩ | overflow
  · refine Or.inl ⟨cells, fun number => ?_⟩
    rw [physicalLines_append whole, passed]
    exact row (number + 1)
  · apply Or.inr
    intro number
    rw [physicalLines_append whole, passed, overflow]
    exact ⟨rfl, rfl⟩

/-! ### One more line among complete ones -/

/-- A line as it stands in a text, with lines behind it or not. -/
def standing (ended : Bool) (line : List Char) (after : List (List Char)) : List Char :=
  textOfLines (ended || !after.isEmpty) [line]

/-- A line that leaves no quote open for the lines behind it adds at most one
row, and the rows of the other lines stay. -/
theorem holds_inserted {ended : Bool} {before after : List (List Char)} {line : List Char}
    (wholeBefore : ∀ other ∈ before, '\n' ∉ other)
    (completeBefore : ∀ other ∈ before, Complete other)
    (wholeAfter : ∀ other ∈ after, '\n' ∉ other)
    (completeAfter : ∀ other ∈ after, Complete other)
    (whole : '\n' ∉ line) {cells? : Option (List String)}
    (read : lineCells? (standing ended line after) = .ok cells?)
    (closed : Complete line ∨ after = []) :
    ∃ rows, rows.length ≤ 1 ∧ Holds (textOfLines ended [line]) rows none ∧
      Holds (textOfLines ended (before ++ line :: after))
        (before.flatMap rowsOfLine ++ (rows ++ after.flatMap rowsOfLine)) none := by
  have prepended : ∀ rows, Holds (textOfLines ended (line :: after)) rows none →
      Holds (textOfLines ended (before ++ line :: after)) (before.flatMap rowsOfLine ++ rows) none :=
    fun rows => holds_textOfLines_append wholeBefore completeBefore (List.cons_ne_nil line after)
  by_cases complete : Complete line
  · rcases complete with ⟨cells, readAlone⟩
    refine ⟨rowsOfCells cells, length_rowsOfCells_le cells,
      holds_textOfLines_singleton whole readAlone, prepended _ ?_⟩
    have behind : Holds (textOfLines ended (line :: after)) ((line :: after).flatMap rowsOfLine) none :=
      holds_textOfLines (List.forall_mem_cons.mpr ⟨whole, wholeAfter⟩)
        (List.forall_mem_cons.mpr ⟨⟨cells, readAlone⟩, completeAfter⟩)
    rwa [List.flatMap_cons, rowsOfLine_of_read readAlone] at behind
  · have last : after = [] := closed.resolve_left complete
    subst last
    rw [standing, List.isEmpty_nil, Bool.not_true, Bool.or_false] at read
    have filled : line ≠ [] := by
      intro equal
      exact complete (equal ▸ complete_nil)
    rcases holds_last (physicalLines_textOfLines whole filled ended) read with ⟨rows, few, alone⟩
    refine ⟨rows, few, alone, ?_⟩
    rw [List.flatMap_nil, List.append_nil]
    exact prepended rows alone

/-- A line that leaves a quote open takes the lines behind it with it, and the
rows of the lines before it stay. -/
theorem holds_inserted_open {ended : Bool} {before after : List (List Char)} {line : List Char}
    (wholeBefore : ∀ other ∈ before, '\n' ∉ other)
    (completeBefore : ∀ other ∈ before, Complete other)
    (unmarkedAfter : ∀ other ∈ after, '\x22' ∉ other)
    (whole : '\n' ∉ line) {cells? : Option (List String)}
    (read : lineCells? (standing ended line after) = .ok cells?)
    (incomplete : ¬Complete line) (more : after ≠ []) :
    (∃ cells, Holds (textOfLines ended (before ++ line :: after))
        (before.flatMap rowsOfLine ++ [cells]) none) ∨
      Holds (textOfLines ended (before ++ line :: after)) (before.flatMap rowsOfLine)
        (some .cellTooLong) := by
  have fed : standing ended line after = line ++ ['\n'] := by
    rw [standing, List.isEmpty_eq_false_iff.mpr more, Bool.not_false, Bool.or_true]
    rfl
  have readOpen : lineCells? (line ++ ['\n']) = .ok none := by
    rw [fed] at read
    cases cells? with
    | none => exact read
    | some cells => exact absurd (complete_of_lineFeed read) incomplete
  have tail := holds_open whole readOpen (unmarked_textOfLines ended unmarkedAfter)
  rw [← textOfLines_cons ended line more] at tail
  rcases tail with ⟨cells, row⟩ | overflow
  · exact Or.inl ⟨cells,
      holds_textOfLines_append wholeBefore completeBefore (List.cons_ne_nil line after) row⟩
  · have joined :=
      holds_textOfLines_append wholeBefore completeBefore (List.cons_ne_nil line after) overflow
    rw [List.append_nil] at joined
    exact Or.inr joined

end Table
end GameNight
