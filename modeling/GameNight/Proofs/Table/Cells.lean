import GameNight.Proofs.Table.Rows
import GameNight.Proofs.Text.Letters
import GameNight.Proofs.Text.Lines
import Mathlib.Algebra.GroupWithZero.Nat

namespace GameNight
namespace Table

open Text

/-!
# Cells of a record

What a cell holds is traced back to its line, and any text can be written as a cell that
reads back as it.
-/

/-!
## Line feeds in cells

A line feed gets into a cell only where a quote is open at the end of a line.
A record that is complete within one line has none in its cells, and a record
that is left over when the lines run out may have one at the end of its last
cell, where trimming drops it.
-/

namespace Progress

/-- What taking a character does to the cells: it leaves them as they are, finishes
the cell that is being read, or joins it.  A line end joins it only between quotes. -/
inductive Takes (progress : Progress) (c : Char) (next : Progress) : Prop
  | apart (cells : next.cells = progress.cells) (cell : next.cell = progress.cell)
  | finishes (position : Position) (closed : next = progress.closeCell position)
  | joins (position : Position) (added : progress.addChar position c = .ok next)
      (between : isLineEnd c = true → position = .quoted)

theorem takes_of_openCell {progress next : Progress} {c : Char}
    (opened : progress.openCell c = .ok next) : Takes progress c next := by
  rw [openCell] at opened
  split at opened
  · exact .finishes _ (Except.ok.inj opened).symm
  · rename_i within
    split at opened
    · exact Except.ok.inj opened ▸ .apart rfl rfl
    · split at opened
      · exact .finishes _ (Except.ok.inj opened).symm
      · exact .joins _ opened fun ends => absurd ends within

theorem takes_of_step {progress next : Progress} {c : Char} (taken : progress.step c = .ok next) :
    Takes progress c next := by
  rw [step] at taken
  cases stands : progress.position with
  | beforeRecord =>
      simp only [stands] at taken
      split at taken
      · exact Except.ok.inj taken ▸ .apart rfl rfl
      · exact takes_of_openCell taken
  | beforeCell =>
      simp only [stands] at taken
      exact takes_of_openCell taken
  | plain =>
      simp only [stands] at taken
      split at taken
      · exact .finishes _ (Except.ok.inj taken).symm
      · rename_i within
        split at taken
        · exact .finishes _ (Except.ok.inj taken).symm
        · exact .joins _ taken fun ends => absurd ends within
  | quoted =>
      simp only [stands] at taken
      split at taken
      · exact Except.ok.inj taken ▸ .apart rfl rfl
      · exact .joins _ taken fun _ => rfl
  | closing =>
      simp only [stands] at taken
      split at taken
      · exact .joins _ taken fun _ => rfl
      · split at taken
        · exact .finishes _ (Except.ok.inj taken).symm
        · split at taken
          · exact .finishes _ (Except.ok.inj taken).symm
          · rename_i within
            exact .joins _ taken fun ends => absurd ends within
  | afterCells =>
      simp only [stands] at taken
      split at taken
      · exact Except.ok.inj taken ▸ .apart rfl rfl
      · cases taken

/-- What an added character leaves. -/
theorem addChar_eq_ok {progress next : Progress} {position : Position} {c : Char}
    (added : progress.addChar position c = .ok next) :
    next.position = position ∧ next.cells = progress.cells ∧ next.cell = c :: progress.cell := by
  rw [addChar] at added
  split at added
  · cases added
  · cases added
    exact ⟨rfl, rfl, rfl⟩

/-- Whether no line feed has been read into a cell. -/
def Unbroken (progress : Progress) : Prop :=
  (∀ cell ∈ progress.cells, '\n' ∉ cell) ∧ '\n' ∉ progress.cell

theorem unbroken_start : start.Unbroken :=
  ⟨fun _ member => absurd member List.not_mem_nil, List.not_mem_nil⟩

theorem Unbroken.closeCell {progress : Progress} (unbroken : progress.Unbroken)
    (position : Position) : (progress.closeCell position).Unbroken := by
  refine ⟨List.forall_mem_cons.mpr ⟨?_, unbroken.1⟩, List.not_mem_nil⟩
  rw [List.mem_reverse]
  exact unbroken.2

theorem Unbroken.step {progress next : Progress} (unbroken : progress.Unbroken) {c : Char}
    (within : c ≠ '\n') (taken : progress.step c = .ok next) : next.Unbroken := by
  cases takes_of_step taken with
  | apart cells cell =>
      rw [Unbroken, cells, cell]
      exact unbroken
  | finishes position closed =>
      rw [closed]
      exact unbroken.closeCell position
  | joins position added =>
      rcases addChar_eq_ok added with ⟨_, sameCells, longer⟩
      rw [Unbroken, sameCells, longer]
      exact ⟨unbroken.1, List.not_mem_cons_of_ne_of_not_mem within.symm unbroken.2⟩

theorem Unbroken.takeLine {progress reached : Progress} (unbroken : progress.Unbroken)
    {line : List Char} (whole : '\n' ∉ line) (taken : progress.takeLine line = .ok reached) :
    reached.Unbroken := by
  induction line generalizing progress with
  | nil =>
      cases taken
      exact unbroken
  | cons c rest inductionHypothesis =>
      have here : c ≠ '\n' := (List.ne_of_not_mem_cons whole).symm
      have later : '\n' ∉ rest := List.not_mem_of_not_mem_cons whole
      rw [Progress.takeLine] at taken
      cases stepped : progress.step c with
      | error fault =>
          rw [stepped] at taken
          cases taken
      | ok next =>
          rw [stepped] at taken
          exact inductionHypothesis (unbroken.step here stepped) later taken

/-- A line feed at the end of a line joins a cell only where a quote is open. -/
theorem Unbroken.step_lineFeed {progress next : Progress} (unbroken : progress.Unbroken)
    (taken : progress.step '\n' = .ok next) :
    next.Unbroken ∨ next.position = .quoted ∧ next.cells = progress.cells ∧
      next.cell = '\n' :: progress.cell := by
  cases takes_of_step taken with
  | apart cells cell =>
      refine Or.inl ?_
      rw [Unbroken, cells, cell]
      exact unbroken
  | finishes position closed => exact Or.inl (closed ▸ unbroken.closeCell position)
  | joins position added between =>
      rcases addChar_eq_ok added with ⟨stands, parts⟩
      exact Or.inr ⟨stands.trans (between rfl), parts⟩

/-- After a line, a line feed can only be the last character of the cell that is
being read, and only with a quote open. -/
theorem unbroken_of_line {line : List Char} (whole : '\n' ∉ line.dropLast) {reached : Progress}
    (taken : start.takeLine line = .ok reached) :
    reached.Unbroken ∨ reached.position = .quoted ∧ ∃ before : Progress, before.Unbroken ∧
      reached.cells = before.cells ∧ reached.cell = '\n' :: before.cell := by
  rcases List.eq_nil_or_concat line with empty | ⟨body, c, parts⟩
  · subst empty
    exact Or.inl (unbroken_start.takeLine List.not_mem_nil taken)
  · rw [List.concat_eq_append] at parts
    subst parts
    rw [List.dropLast_concat] at whole
    rcases (takeLine_append_eq_ok _ _ _ _).mp taken with ⟨before, takenBody, takenLast⟩
    have unbroken : before.Unbroken := unbroken_start.takeLine whole takenBody
    by_cases feeds : c = '\n'
    · have stepped : before.step '\n' = .ok reached := by
        rw [feeds, takeLine] at takenLast
        cases next : before.step '\n' with
        | error fault =>
            rw [next] at takenLast
            cases takenLast
        | ok after =>
            rw [next] at takenLast
            exact takenLast
      exact (unbroken.step_lineFeed stepped).imp_right fun joined =>
        ⟨joined.1, before, unbroken, joined.2⟩
    · exact Or.inl (unbroken.takeLine (by simpa using Ne.symm feeds) takenLast)

theorem Unbroken.finished {progress : Progress} (unbroken : progress.Unbroken) :
    ∀ cell ∈ progress.finished, '\n' ∉ cell.toList := by
  intro cell member
  rcases List.mem_map.mp (List.mem_reverse.mp member) with ⟨chars, among, written⟩
  rw [← written, String.toList_ofList]
  exact unbroken.1 chars among

/-- A complete line has no line feeds in its cells. -/
theorem unbroken_cells {line : List Char} (whole : '\n' ∉ line.dropLast) {reached : Progress}
    (taken : start.takeLine line = .ok reached) {cells : List String}
    (ended : reached.endLine? = some cells) : ∀ cell ∈ cells, '\n' ∉ cell.toList := by
  have unquoted : reached.position ≠ .quoted := by
    intro quoted
    rw [(endLine?_eq_none reached).mpr quoted] at ended
    cases ended
  have unbroken : reached.Unbroken :=
    (unbroken_of_line whole taken).resolve_right fun broken => unquoted broken.1
  rw [endLine?] at ended
  cases stands : reached.position with
  | quoted => exact absurd stands unquoted
  | beforeRecord | afterCells =>
      simp only [stands, Option.some.injEq] at ended
      exact ended ▸ unbroken.finished
  | beforeCell | plain | closing =>
      simp only [stands, Option.some.injEq] at ended
      exact ended ▸ (unbroken.closeCell .afterCells).finished

/-- The record that is left over behind the last line has none but at the end of
its last cell. -/
theorem not_mem_trim_leftover {line : List Char} (whole : '\n' ∉ line.dropLast) {reached : Progress}
    (taken : start.takeLine line = .ok reached) (number : Nat) :
    ∀ record ∈ reached.leftover number, ∀ cell ∈ record.cells, '\n' ∉ trim cell.toList := by
  intro record left cell member
  rw [leftover] at left
  split at left
  · rw [List.mem_singleton.mp left] at member
    rcases unbroken_of_line whole taken with unbroken | ⟨_, before, unbroken, sameCells, longer⟩
    · exact fun inside =>
        (unbroken.closeCell .afterCells).finished cell member (trim_subset _ inside)
    · rcases List.mem_map.mp (List.mem_reverse.mp member) with ⟨chars, among, written⟩
      rw [← written, String.toList_ofList]
      rcases List.mem_cons.mp among with last | earlier
      · rw [last, longer, List.reverse_cons, trim_concat_of_isBlank (by decide)]
        exact fun inside => unbroken.2 (List.mem_reverse.mp (trim_subset _ inside))
      · rw [sameCells] at earlier
        exact fun inside => unbroken.1 chars earlier (trim_subset _ inside)
  · cases left

end Progress

/-- Whether no line but the last leaves a quote open when it is read by itself. -/
def EachOnOneLine (lines : List (List Char)) : Prop :=
  ∀ line ∈ lines.dropLast, lineCells? line ≠ .ok none

/-- Where every record stands on one line, no cell has a line feed inside. -/
theorem not_mem_trim_of_mem_readLines {lines : List (List Char)}
    (whole : ∀ line ∈ lines, '\n' ∉ line.dropLast) (single : EachOnOneLine lines) (number : Nat) :
    ∀ record ∈ (readLines .start number lines).records, ∀ cell ∈ record.cells,
      '\n' ∉ trim cell.toList := by
  induction lines generalizing number with
  | nil =>
      intro record member
      cases member
  | cons line rest inductionHypothesis =>
      have wholeLine : '\n' ∉ line.dropLast := whole line List.mem_cons_self
      intro record member
      cases taken : Progress.start.takeLine line with
      | error fault =>
          rw [readLines, taken] at member
          cases member
      | ok reached =>
          cases ended : reached.endLine? with
          | some cells =>
              rw [readLines_of_complete taken ended] at member
              rcases List.mem_cons.mp member with here | later
              · intro cell among inside
                rw [here] at among
                exact Progress.unbroken_cells wholeLine taken ended cell among (trim_subset _ inside)
              · refine inductionHypothesis (fun other among => whole other (List.mem_cons_of_mem line among))
                  (fun other among => single other ?_) (number + 1) record later
                cases rest with
                | nil => cases among
                | cons next others => exact List.mem_cons_of_mem line among
          | none =>
              rw [readLines_of_open taken ended] at member
              cases rest with
              | nil => exact Progress.not_mem_trim_leftover wholeLine taken (number + 1) record member
              | cons next others =>
                  have opens : lineCells? line = .ok none := lineCells?_eq_ok.mpr ⟨reached, taken, ended⟩
                  exact absurd opens (single line List.mem_cons_self)

/-!
## Tables of quoted cells

Any text can be written as a cell: between double quotes, with each double
quote in it written twice.  Commas and line ends in it then stand for
themselves, so that a row may go over several lines.

A table whose cells are all written that way is read as the rows that were
written, whatever their cells hold.  Only a cell that is longer than the reader
allows cannot be read back, and a row without cells is written as a blank
line.

The reader works line by line, but a line feed between quotes changes nothing
about where it stands.  So the rows are followed character by character, and
only the line feed that ends a row closes a record.
-/

/-! ### Writing -/

/-- How a row ends: with a line feed, or with a carriage return before it. -/
inductive RowEnd where
  | feed
  | returnAndFeed
  deriving DecidableEq, Repr

def RowEnd.chars : RowEnd → List Char
  | .feed => ['\n']
  | .returnAndFeed => ['\r', '\n']

/-- A double quote is written twice between quotes, all else once. -/
def escapedChar (c : Char) : List Char :=
  if c = '\x22' then ['\x22', '\x22'] else [c]

/-- A cell as it is written between double quotes. -/
def quotedCell (cell : String) : List Char :=
  '\x22' :: (cell.toList.flatMap escapedChar ++ ['\x22'])

/-- A row of a table: its cells and its end. -/
structure WrittenRow where
  cells : List String
  ending : RowEnd
  deriving DecidableEq, Repr

/-- A row with all of its cells between quotes and commas between them. -/
def WrittenRow.chars (row : WrittenRow) : List Char :=
  List.intercalate [','] (row.cells.map quotedCell) ++ row.ending.chars

/-- Rows one after another. -/
def writtenRows (rows : List WrittenRow) : List Char :=
  rows.flatMap WrittenRow.chars

/-! ### Reading character by character -/

/-- A character that ends no line is taken before the rest of its line. -/
theorem readLines_cons_of_step {progress next : Progress} {c : Char} (within : c ≠ '\n')
    (taken : progress.step c = .ok next) {rest : List Char} (more : rest ≠ []) (line : Nat) :
    readLines progress line (physicalLines (c :: rest)) =
      readLines next line (physicalLines rest) := by
  rcases physicalLines_cons_of_ne within more with ⟨first, others, cutRest, cut⟩
  rw [cut, cutRest, readLines, readLines, Progress.takeLine, taken]

theorem physicalLines_feed (rest : List Char) :
    physicalLines ('\n' :: rest) = ['\n'] :: physicalLines rest :=
  physicalLines_append List.not_mem_nil rest

theorem takeLine_feed {progress next : Progress} (taken : progress.step '\n' = .ok next) :
    progress.takeLine ['\n'] = .ok next := by
  rw [Progress.takeLine, taken]
  rfl

/-- A line feed between quotes only makes the line number go up. -/
theorem readLines_feed_of_quoted {progress next : Progress} (taken : progress.step '\n' = .ok next)
    (quoted : next.position = .quoted) (line : Nat) (rest : List Char) :
    readLines progress line (physicalLines ('\n' :: rest)) =
      readLines next (line + 1) (physicalLines rest) := by
  rw [physicalLines_feed, readLines_of_open (takeLine_feed taken)
    ((Progress.endLine?_eq_none next).mpr quoted)]

/-- A line feed elsewhere closes the record. -/
theorem readLines_feed_of_complete {progress next : Progress}
    (taken : progress.step '\n' = .ok next) {cells : List String}
    (ended : next.endLine? = some cells) (line : Nat) (rest : List Char) :
    readLines progress line (physicalLines ('\n' :: rest)) =
      ⟨⟨cells, line + 1⟩ :: (readLines .start (line + 1) (physicalLines rest)).records,
        (readLines .start (line + 1) (physicalLines rest)).fault⟩ := by
  rw [physicalLines_feed, readLines_of_complete (takeLine_feed taken) ended]

/-- Between quotes, a character is read as it was before it was written, if the cell
has room for it. -/
theorem readLines_escapedChar (cells : List (List Char)) (done : List Char) {size : Nat}
    (room : size < cellLimit) (c : Char) {rest : List Char} (more : rest ≠ []) (line : Nat) :
    readLines ⟨.quoted, cells, done, size⟩ line (physicalLines (escapedChar c ++ rest)) =
      readLines ⟨.quoted, cells, c :: done, size + 1⟩ (line + [c].count '\n')
        (physicalLines rest) := by
  have added (position : Position) :
      Progress.addChar ⟨position, cells, done, size⟩ .quoted c =
        .ok ⟨.quoted, cells, c :: done, size + 1⟩ := by
    rw [Progress.addChar, if_neg (Nat.not_le.mpr room)]
  by_cases quotes : c = '\x22'
  · -- the first of the two quotes might close the cell, and the second one joins it
    subst quotes
    have first : Progress.step ⟨.quoted, cells, done, size⟩ '\x22' =
        .ok ⟨.closing, cells, done, size⟩ := rfl
    have second : Progress.step ⟨.closing, cells, done, size⟩ '\x22' =
        .ok ⟨.quoted, cells, '\x22' :: done, size + 1⟩ := added .closing
    exact (readLines_cons_of_step (by decide) first (List.cons_ne_nil _ _) line).trans
      (readLines_cons_of_step (by decide) second more line)
  · have stepped : Progress.step ⟨.quoted, cells, done, size⟩ c =
        .ok ⟨.quoted, cells, c :: done, size + 1⟩ := by
      rw [Progress.step, if_neg quotes]
      exact added .quoted
    rw [escapedChar, if_neg quotes, List.singleton_append, List.count_singleton]
    by_cases feeds : c = '\n'
    · subst feeds
      exact readLines_feed_of_quoted stepped rfl line rest
    · rw [if_neg (by simpa using feeds)]
      exact readLines_cons_of_step feeds stepped more line

/-- Between quotes, characters are read as they were before they were written, as
long as the cell has room for them. -/
theorem readLines_escaped (cells : List (List Char)) (cell done : List Char) (size : Nat)
    (room : size + cell.length ≤ cellLimit) {rest : List Char} (more : rest ≠ []) (line : Nat) :
    readLines ⟨.quoted, cells, done, size⟩ line
        (physicalLines (cell.flatMap escapedChar ++ rest)) =
      readLines ⟨.quoted, cells, cell.reverse ++ done, size + cell.length⟩
        (line + cell.count '\n') (physicalLines rest) := by
  induction cell generalizing done size line with
  | nil => rfl
  | cons c others inductionHypothesis =>
      rw [List.length_cons] at room
      have filled : others.flatMap escapedChar ++ rest ≠ [] :=
        fun empty => more (List.append_eq_nil_iff.mp empty).2
      rw [List.flatMap_cons, List.append_assoc,
        readLines_escapedChar cells done (by omega) c filled line,
        inductionHypothesis (c :: done) (size + 1) (by omega)]
      have counted : (c :: others).count '\n' = [c].count '\n' + others.count '\n' := by
        rw [← List.singleton_append, List.count_append]
      rw [List.reverse_cons, List.append_assoc, List.singleton_append, List.length_cons, counted,
        Nat.add_assoc, Nat.add_assoc, Nat.add_comm 1]

/-! ### Reading rows -/

/-- A quoted cell is read up to its closing quote.  It may start a record or
follow a comma. -/
theorem readLines_quotedCell {position : Position}
    (before : position = .beforeRecord ∨ position = .beforeCell) (cells : List (List Char))
    {cell : String} (short : cell.length ≤ cellLimit) {rest : List Char} (more : rest ≠ [])
    (line : Nat) :
    readLines ⟨position, cells, [], 0⟩ line (physicalLines (quotedCell cell ++ rest)) =
      readLines ⟨.closing, cells, cell.toList.reverse, cell.toList.length⟩
        (line + cell.toList.count '\n') (physicalLines rest) := by
  have opened : Progress.step ⟨position, cells, [], 0⟩ '\x22' = .ok ⟨.quoted, cells, [], 0⟩ := by
    rcases before with same | same <;> subst same <;> rfl
  have closed : Progress.step ⟨.quoted, cells, cell.toList.reverse, cell.toList.length⟩ '\x22' =
      .ok ⟨.closing, cells, cell.toList.reverse, cell.toList.length⟩ := rfl
  have room : 0 + cell.toList.length ≤ cellLimit := by
    rwa [Nat.zero_add, String.length_toList]
  have inside := readLines_escaped cells cell.toList [] 0 room
    (List.cons_ne_nil '\x22' rest) line
  rw [List.append_nil, Nat.zero_add] at inside
  have written : quotedCell cell ++ rest =
      '\x22' :: (cell.toList.flatMap escapedChar ++ '\x22' :: rest) := by
    simp [quotedCell]
  rw [written, readLines_cons_of_step (by decide) opened (by simp), inside,
    readLines_cons_of_step (by decide) closed more]

/-- The end of a row closes its last cell and its record. -/
theorem readLines_ending (ending : RowEnd) (cells : List (List Char)) (cell : List Char)
    (size line : Nat) (rest : List Char) :
    readLines ⟨.closing, cells, cell, size⟩ line (physicalLines (ending.chars ++ rest)) =
      ⟨⟨((cell.reverse :: cells).map String.ofList).reverse, line + 1⟩ ::
          (readLines .start (line + 1) (physicalLines rest)).records,
        (readLines .start (line + 1) (physicalLines rest)).fault⟩ := by
  have closed (c : Char) (ends : c = '\n' ∨ c = '\r') :
      Progress.step ⟨.closing, cells, cell, size⟩ c =
        .ok ⟨.afterCells, cell.reverse :: cells, [], 0⟩ := by
    rcases ends with same | same <;> subst same <;> rfl
  have fed : Progress.step ⟨.afterCells, cell.reverse :: cells, [], 0⟩ '\n' =
      .ok ⟨.afterCells, cell.reverse :: cells, [], 0⟩ := rfl
  cases ending with
  | feed => exact readLines_feed_of_complete (closed '\n' (Or.inl rfl)) rfl line rest
  | returnAndFeed =>
      exact (readLines_cons_of_step (by decide) (closed '\r' (Or.inr rfl))
        (List.cons_ne_nil '\n' rest) line).trans (readLines_feed_of_complete fed rfl line rest)

/-- The line feeds in the cells of a row. -/
def feedsIn (cells : List String) : Nat :=
  (cells.map fun cell => cell.toList.count '\n').sum

/-- A row that has been read in part makes one record, on the line of its end. -/
theorem readLines_cells {position : Position}
    (before : position = .beforeRecord ∨ position = .beforeCell) {cells : List String}
    (filled : cells ≠ []) (short : ∀ cell ∈ cells, cell.length ≤ cellLimit) (ending : RowEnd)
    (done : List (List Char)) (line : Nat) (rest : List Char) :
    readLines ⟨position, done, [], 0⟩ line
        (physicalLines (List.intercalate [','] (cells.map quotedCell) ++ (ending.chars ++ rest))) =
      ⟨⟨(done.map String.ofList).reverse ++ cells, line + feedsIn cells + 1⟩ ::
          (readLines .start (line + feedsIn cells + 1) (physicalLines rest)).records,
        (readLines .start (line + feedsIn cells + 1) (physicalLines rest)).fault⟩ := by
  induction cells generalizing position done line with
  | nil => exact absurd rfl filled
  | cons cell others inductionHypothesis =>
      have shortCell : cell.length ≤ cellLimit := short cell List.mem_cons_self
      have tail : ending.chars ++ rest ≠ [] := by
        cases ending <;> exact List.cons_ne_nil _ _
      cases others with
      | nil =>
          rw [List.map_singleton, List.intercalate_singleton,
            readLines_quotedCell before done shortCell tail, readLines_ending]
          simp [feedsIn]
      | cons next others =>
          have comma : Progress.step
              ⟨.closing, done, cell.toList.reverse, cell.toList.length⟩ ',' =
                .ok ⟨.beforeCell, cell.toList.reverse.reverse :: done, [], 0⟩ := rfl
          rw [List.reverse_reverse] at comma
          have later := inductionHypothesis (Or.inr rfl) (List.cons_ne_nil next others)
            (fun other member => short other (List.mem_cons_of_mem cell member))
            (cell.toList :: done) (line + cell.toList.count '\n')
          have feeds : line + feedsIn (cell :: next :: others) =
              line + cell.toList.count '\n' + feedsIn (next :: others) := by
            simp only [feedsIn, List.map_cons, List.sum_cons, Nat.add_assoc]
          rw [List.map_cons, List.map_cons, List.intercalate_cons_cons, List.append_assoc,
            List.append_assoc, List.singleton_append,
            readLines_quotedCell before done shortCell (List.cons_ne_nil _ _),
            readLines_cons_of_step (by decide) comma (by simp [tail]),
            ← List.map_cons, later, feeds]
          simp

/-- Rows that were written are read as they were, one record for each. -/
theorem readLines_writtenRows {rows : List WrittenRow} (filled : ∀ row ∈ rows, row.cells ≠ [])
    (short : ∀ row ∈ rows, ∀ cell ∈ row.cells, cell.length ≤ cellLimit) (line : Nat) :
    (readLines .start line (physicalLines (writtenRows rows))).fault = none ∧
      (readLines .start line (physicalLines (writtenRows rows))).records.map Record.cells =
        rows.map WrittenRow.cells := by
  induction rows generalizing line with
  | nil => exact ⟨rfl, rfl⟩
  | cons row others inductionHypothesis =>
      have here := readLines_cells (Or.inl rfl) (filled row List.mem_cons_self)
        (short row List.mem_cons_self) row.ending [] line (writtenRows others)
      have later := inductionHypothesis
        (fun other member => filled other (List.mem_cons_of_mem row member))
        (fun other member => short other (List.mem_cons_of_mem row member))
        (line + feedsIn row.cells + 1)
      have written : writtenRows (row :: others) =
          List.intercalate [','] (row.cells.map quotedCell) ++
            (row.ending.chars ++ writtenRows others) := by
        rw [writtenRows, List.flatMap_cons, WrittenRow.chars, List.append_assoc, ← writtenRows]
      rw [written, Progress.start, here]
      exact ⟨later.1, congrArg (row.cells :: ·) later.2⟩

/-- A table of quoted cells is read to its end, as the rows that were written. -/
theorem read_writtenRows {rows : List WrittenRow} (filled : ∀ row ∈ rows, row.cells ≠ [])
    (short : ∀ row ∈ rows, ∀ cell ∈ row.cells, cell.length ≤ cellLimit) :
    (read (writtenRows rows)).fault = none ∧
      (read (writtenRows rows)).records.map Record.cells = rows.map WrittenRow.cells :=
  readLines_writtenRows filled short 0

end Table
end GameNight
