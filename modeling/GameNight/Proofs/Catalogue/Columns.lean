import GameNight.Proofs.Catalogue.Entries
import GameNight.Proofs.Table.Cells
import Mathlib.Data.List.Perm.Basic

namespace GameNight
namespace Catalogue

open Text Number

/-!
# Columns of a catalogue

A catalogue may have its columns in any order and more of them than a game
needs.  Where the headings differ from one another, every field has one column,
and a row makes a game exactly when what it holds in these columns is a name
and numbers.

Catalogues whose cells are all quoted are considered as a whole.  Their cells
may hold anything, and so each one is read as the table that was written, from
which the games are told row by row.
-/

/-! ## Rows -/

/-- The cells of a row, each with the heading that stands over it, as far as
both go. -/
def headed (headings cells : List String) : List (String × String) :=
  headings.zip cells

/-- Under headings that differ from one another, there is one place to look for a
cell. -/
theorem cellUnder_eq_some {headings : List String} (distinct : headings.Nodup)
    {column cell : String} {cells : List String} :
    cellUnder column headings cells = some cell ↔ (column, cell) ∈ headed headings cells := by
  induction headings generalizing cells with
  | nil => simp [cellUnder, headed]
  | cons heading rest inductionHypothesis =>
      rcases List.nodup_cons.mp distinct with ⟨fresh, others⟩
      rw [cellUnder]
      cases cells with
      | nil =>
          have nothing : cellUnder column rest [] ≠ some cell := by
            rw [ne_eq, inductionHypothesis others, headed, List.zip_nil_right]
            exact List.not_mem_nil
          simp [headed, nothing]
      | cons first cells =>
          rw [headed, List.zip_cons_cons, List.mem_cons, ← headed, ← inductionHypothesis others,
            List.tail_cons, List.head?_cons]
          by_cases later : column ∈ rest
          · have elsewhere : (column, cell) ≠ (heading, first) := by
              intro same
              exact fresh ((Prod.mk.inj same).1 ▸ later)
            simp [later, elsewhere]
          · have nothing : cellUnder column rest cells ≠ some cell := by
              rw [ne_eq, inductionHypothesis others]
              exact fun member => later (List.of_mem_zip member).1
            simp [later, nothing, eq_comm]

/-- A game that a row describes: its name is what stands under the column of
names, without the blanks around it, and its numbers are what can be read under
the columns of the other fields. -/
structure Describes (headings cells : List String) (game : Game) : Prop where
  name : ∃ cell, (Field.name.column, cell) ∈ headed headings cells ∧ game.name = strip cell ∧
    game.name ≠ ""
  integers : ∀ field : IntegerField, ∃ cell, (field.column, cell) ∈ headed headings cells ∧
    readInteger (trim cell.toList) = .ok (game.integer field)
  scores : ∀ field : ScoreField, ∃ cell, (field.column, cell) ∈ headed headings cells ∧
    readDouble? (trim cell.toList) = some (game.score field)

/-- Games that rows describe: one for each row that describes a game, in the order
of the rows, and none for any other row. -/
inductive Yields (headings : List String) : List (List String) → List Game → Prop where
  | nil : Yields headings [] []
  | game {cells : List String} {rows : List (List String)} {game : Game} {games : List Game} :
      Describes headings cells game → Yields headings rows games →
        Yields headings (cells :: rows) (game :: games)
  | nothing {cells : List String} {rows : List (List String)} {games : List Game} :
      (∀ game, ¬Describes headings cells game) → Yields headings rows games →
        Yields headings (cells :: rows) games

/-- A row makes the game that it describes. -/
theorem game_eq_ok_iff_describes {headings : List String} (distinct : headings.Nodup)
    {cells : List String} {object : Nat} {game : Game} :
    (Row.mk headings cells).game object = .ok game ↔
      Describes headings cells game ∧ ∀ field, (game.scored field).object = object := by
  rw [Row.game_eq_ok, Row.name_eq_ok]
  simp only [Row.integer_eq_ok, Row.score_eq_ok, cellUnder_eq_some distinct]
  constructor
  · rintro ⟨⟨cell, stands, filled, named⟩, integers, scores, objects⟩
    refine ⟨⟨⟨cell, stands, named, ?_⟩, integers, scores⟩, objects⟩
    rw [named, strip]
    intro empty
    exact filled (String.ofList_eq_empty_iff.mp empty)
  · rintro ⟨⟨⟨cell, stands, named, filled⟩, integers, scores⟩, objects⟩
    refine ⟨⟨cell, stands, ?_, named⟩, integers, scores, objects⟩
    intro empty
    rw [named, strip, empty] at filled
    exact filled rfl

/-- The objects of the scores are no part of what a row describes. -/
theorem Describes.withObject {headings cells : List String} {game : Game}
    (described : Describes headings cells game) (object : Nat) :
    Describes headings cells (game.withObject object) where
  name := described.name
  integers field := by cases field <;> exact described.integers _
  scores field := by cases field <;> exact described.scores _

/-- The games of records are those that their rows describe. -/
theorem yields_gamesOf {headings : List String} (distinct : headings.Nodup)
    {records : List Table.Record} (filled : ∀ record ∈ records, record.cells ≠ []) :
    Yields headings (records.map Table.Record.cells) (gamesOf headings records) := by
  induction records with
  | nil => exact .nil
  | cons record rest inductionHypothesis =>
      have later := inductionHypothesis fun other member =>
        filled other (List.mem_cons_of_mem record member)
      have kept : (!record.cells.isEmpty) = true := by
        simpa using filled record List.mem_cons_self
      rw [gamesOf, filledRecords] at later ⊢
      rw [List.map_cons, List.filter_cons, if_pos kept, List.filterMap_cons, gameOf]
      cases made : (Row.mk headings record.cells).game record.line with
      | ok game => exact .game ((game_eq_ok_iff_describes distinct).mp made).1 later
      | error fault =>
          refine .nothing (fun game described => ?_) later
          have placed := described.withObject record.line
          have objects : ∀ field, ((game.withObject record.line).scored field).object = record.line :=
            fun field => by cases field <;> rfl
          rw [(game_eq_ok_iff_describes distinct).mpr ⟨placed, objects⟩] at made
          cases made

/-! ## Columns in another order -/

/-- Rows that hold the same under the columns of all fields make the same game. -/
theorem entryOf?_congr {headings others cells otherCells : List String}
    (distinct : headings.Nodup) (otherDistinct : others.Nodup)
    (same : ∀ (field : Field) (cell : String),
      (field.column, cell) ∈ headed headings cells ↔
        (field.column, cell) ∈ headed others otherCells) :
    entryOf? headings cells = entryOf? others otherCells := by
  have found (field : Field) :
      cellUnder field.column headings cells = cellUnder field.column others otherCells := by
    ext cell
    rw [cellUnder_eq_some distinct, cellUnder_eq_some otherDistinct]
    exact same field cell
  have read (field : Field) :
      (Row.mk headings cells).text field = (Row.mk others otherCells).text field := by
    rw [Row.text, Row.text, found field]
  simp only [entryOf?, Row.game, Row.name, Row.integer, Row.score, read]

/-- The columns of a table: each heading with what every row has at its place. -/
def columnsOf (headings : List String) (rows : List (List String)) :
    List (String × List (Option String)) :=
  headings.zipIdx.map fun heading => (heading.1, rows.map fun cells => cells[heading.2]?)

/-- Whether a field is read from the column with a heading. -/
def isFieldColumn (heading : String) : Bool :=
  Field.all.any fun field => field.column == heading

theorem isFieldColumn_column (field : Field) : isFieldColumn field.column = true :=
  List.any_eq_true.mpr ⟨field, Field.mem_all field, beq_self_eq_true _⟩

/-- The columns of a table that fields are read from. -/
def fieldColumns (headings : List String) (rows : List (List String)) :
    List (String × List (Option String)) :=
  (columnsOf headings rows).filter fun column => isFieldColumn column.1

/-- Where a heading names a field, its column is one that the field is read from. -/
theorem column_mem_fieldColumns {headings : List String} (rows : List (List String))
    {place : Nat} {field : Field} (heading : headings[place]? = some field.column) :
    (field.column, rows.map fun cells => cells[place]?) ∈ fieldColumns headings rows :=
  List.mem_filter.mpr ⟨List.mem_map.mpr
    ⟨(field.column, place), List.mem_zipIdx_iff_getElem?.mpr heading, rfl⟩,
    isFieldColumn_column field⟩

/-- A row holds a cell under a column when the column holds it at the place of the
row. -/
theorem mem_headed_iff {headings : List String} {rows : List (List String)} {number : Nat}
    {cells : List String} (row : rows[number]? = some cells) (field : Field) (cell : String) :
    (field.column, cell) ∈ headed headings cells ↔
      ∃ column ∈ fieldColumns headings rows, column.1 = field.column ∧
        column.2[number]? = some (some cell) := by
  constructor
  · intro stands
    rcases List.mem_iff_getElem?.mp stands with ⟨place, found⟩
    rcases List.getElem?_zip_eq_some.mp found with ⟨heading, held⟩
    refine ⟨_, column_mem_fieldColumns rows heading, rfl, ?_⟩
    rw [List.getElem?_map, row, Option.map_some, held]
  · rintro ⟨column, among, named, held⟩
    rcases List.mem_map.mp (List.mem_filter.mp among).1 with ⟨heading, placed, same⟩
    subst same
    rw [List.getElem?_map, row, Option.map_some, Option.some.injEq] at held
    apply List.mem_iff_getElem?.mpr
    refine ⟨heading.2, List.getElem?_zip_eq_some.mpr ⟨?_, held⟩⟩
    rw [List.mem_zipIdx_iff_getElem?.mp placed, named]

/-- The column of names tells how many rows a table has. -/
theorem length_rows_of_perm {headings others : List String}
    (named : Field.name.column ∈ headings) {rows otherRows : List (List String)}
    (same : (fieldColumns headings rows).Perm (fieldColumns others otherRows)) :
    rows.length = otherRows.length := by
  rcases List.mem_iff_getElem?.mp named with ⟨place, heading⟩
  have among := same.mem_iff.mp (column_mem_fieldColumns rows heading)
  rcases List.mem_map.mp (List.mem_filter.mp among).1 with ⟨other, _, equal⟩
  have lengths := congrArg (fun column => column.2.length) equal
  simpa using lengths.symm

/-- Tables with the same columns for all fields, in any order, have the same
entries. -/
theorem entriesOf_of_perm {headings others : List String} (distinct : headings.Nodup)
    (otherDistinct : others.Nodup) (named : Field.name.column ∈ headings)
    {rows otherRows : List (List String)}
    (same : (fieldColumns headings rows).Perm (fieldColumns others otherRows)) :
    entriesOf headings rows = entriesOf others otherRows := by
  have count : rows.length = otherRows.length := length_rows_of_perm named same
  have each : rows.map (entryOf? headings) = otherRows.map (entryOf? others) := by
    apply List.ext_getElem?
    intro number
    rw [List.getElem?_map, List.getElem?_map]
    cases row : rows[number]? with
    | none =>
        rw [List.getElem?_eq_none_iff, count] at row
        rw [List.getElem?_eq_none row]
        rfl
    | some cells =>
        have inside : number < otherRows.length := by
          rw [← count]
          exact (List.getElem?_eq_some_iff.mp row).1
        have otherRow : otherRows[number]? = some otherRows[number] :=
          List.getElem?_eq_getElem inside
        rw [otherRow, Option.map_some, Option.map_some]
        apply congrArg some
        apply entryOf?_congr distinct otherDistinct
        intro field cell
        rw [mem_headed_iff row, mem_headed_iff otherRow]
        simp only [same.mem_iff]
  have told := congrArg (List.filterMap id) each
  rwa [List.filterMap_map, List.filterMap_map] at told

/-! ## Quoted catalogues -/

/-- A catalogue whose cells are all quoted: byte order marks in front, headings
that differ from one another without the blanks around them and name the columns
of all fields, and rows of any number of cells.  No cell is longer than the
reader allows. -/
structure QuotedCatalogue where
  marks : Nat
  header : Table.WrittenRow
  rows : List Table.WrittenRow
  distinct : (headingsOf header.cells).Nodup
  columns : ∀ field : Field, field.column ∈ headingsOf header.cells
  filled : ∀ row ∈ rows, row.cells ≠ []
  short : ∀ row ∈ header :: rows, ∀ cell ∈ row.cells, cell.length ≤ Table.cellLimit

namespace QuotedCatalogue

def headings (catalogue : QuotedCatalogue) : List String :=
  headingsOf catalogue.header.cells

def cells (catalogue : QuotedCatalogue) : List (List String) :=
  catalogue.rows.map Table.WrittenRow.cells

def text (catalogue : QuotedCatalogue) : String :=
  String.ofList (List.replicate catalogue.marks (Char.ofNat 0xFEFF) ++
    Table.writtenRows (catalogue.header :: catalogue.rows))

/-- There is a heading, that of the column of names. -/
theorem header_ne_nil (catalogue : QuotedCatalogue) : catalogue.header.cells ≠ [] := by
  intro empty
  have named := catalogue.columns .name
  rw [empty] at named
  cases named

/-- A quote is no byte order mark. -/
theorem dropMarks_text (catalogue : QuotedCatalogue) :
    catalogue.text.toList.dropWhile isByteOrderMark =
      Table.writtenRows (catalogue.header :: catalogue.rows) := by
  have marks :
      ∀ c ∈ List.replicate catalogue.marks (Char.ofNat 0xFEFF), isByteOrderMark c = true := by
    intro c member
    rw [(List.mem_replicate.mp member).2]
    decide
  rw [text, String.toList_ofList, List.dropWhile_append_of_pos marks, Table.writtenRows,
    List.flatMap_cons, Table.WrittenRow.chars]
  cases held : catalogue.header.cells with
  | nil => exact absurd held catalogue.header_ne_nil
  | cons cell others => cases others <;> rfl

/-- A quoted catalogue is read as the rows that were written. -/
theorem parse_text [Machine] (catalogue : QuotedCatalogue) (source : String) :
    ∃ records : List Table.Record, records.map Table.Record.cells = catalogue.cells ∧
      (parse catalogue.text source).value = .ok (gamesOf catalogue.headings records) := by
  have filled : ∀ row ∈ catalogue.header :: catalogue.rows, row.cells ≠ [] :=
    List.forall_mem_cons.mpr ⟨catalogue.header_ne_nil, catalogue.filled⟩
  rcases Table.read_writtenRows filled catalogue.short with ⟨sound, same⟩
  rw [List.map_cons] at same
  rcases List.map_eq_cons_iff.mp same with ⟨header, records, reading, sameHeader, sameRows⟩
  have named : missingColumns (headingsOf catalogue.header.cells) = [] := by
    rw [missingColumns, List.filter_eq_nil_iff]
    intro column among
    rcases List.mem_map.mp among with ⟨field, _, same⟩
    simpa [← same] using catalogue.columns field
  refine ⟨records, sameRows, ?_⟩
  rw [parse, catalogue.dropMarks_text, reading, sound]
  simp only [ofTable, sameHeader, named, List.isEmpty_nil, Bool.not_true, Bool.false_eq_true,
    if_false]
  rfl

theorem filled_of_records {catalogue : QuotedCatalogue} {records : List Table.Record}
    (same : records.map Table.Record.cells = catalogue.cells) :
    ∀ record ∈ records, record.cells ≠ [] := by
  intro record member
  have among : record.cells ∈ catalogue.cells := same ▸ List.mem_map_of_mem member
  rcases List.mem_map.mp among with ⟨row, written, equal⟩
  exact equal ▸ catalogue.filled row written

/-- Records with the cells of a catalogue make its entries. -/
theorem entries_gamesOf {catalogue : QuotedCatalogue} {records : List Table.Record}
    (same : records.map Table.Record.cells = catalogue.cells) :
    (gamesOf catalogue.headings records).map Game.entry =
      entriesOf catalogue.headings catalogue.cells := by
  have kept : records.filter (fun record => !record.cells.isEmpty) = records := by
    rw [List.filter_eq_self]
    intro record member
    simpa using filled_of_records same record member
  rw [gamesOf_entries _ ⟨records, none⟩, Table.Reading.rows, kept, same]

/-- The games of a quoted catalogue are those that its rows describe, and only the
columns of the fields matter for them, in whatever order they stand. -/
theorem parse_quoted [Machine] (catalogue : QuotedCatalogue) (source : String) :
    ∃ games, (parse catalogue.text source).value = .ok games ∧
      Yields catalogue.headings catalogue.cells games ∧
      ∀ (other : QuotedCatalogue) (otherSource : String),
        (fieldColumns catalogue.headings catalogue.cells).Perm
          (fieldColumns other.headings other.cells) →
        ∃ others, (parse other.text otherSource).value = .ok others ∧ Alike games others := by
  rcases catalogue.parse_text source with ⟨records, same, loaded⟩
  have described := yields_gamesOf catalogue.distinct (filled_of_records same)
  refine ⟨_, loaded, same ▸ described, ?_⟩
  intro other otherSource sameColumns
  rcases other.parse_text otherSource with ⟨otherRecords, otherSame, otherLoaded⟩
  refine ⟨_, otherLoaded, ?_⟩
  rw [Alike, entries_gamesOf same, entries_gamesOf otherSame]
  exact entriesOf_of_perm catalogue.distinct other.distinct (catalogue.columns .name) sameColumns

theorem columns_of_all {headings : List String}
    (named : ∀ field ∈ Field.all, field.column ∈ headings) (field : Field) :
    field.column ∈ headings :=
  named field (Field.mem_all field)

/-- A game whose name goes over two lines and holds a comma and quotes. -/
def gathered : QuotedCatalogue where
  marks := 0
  header := ⟨Field.all.map Field.column, .feed⟩
  rows := [⟨["Go, \x22the\r\ngame\x22", "188", "7.62", "3.95", "258", "2", "2", "30", "180",
    "-2200"], .feed⟩]
  distinct := by decide +kernel
  columns := columns_of_all (by decide +kernel)
  filled := by decide
  short := by decide +kernel

/-- The same game with its columns in reverse, blanks around the headings, a column
of notes, and byte order marks in front. -/
def scattered : QuotedCatalogue where
  marks := 2
  header := ⟨(Field.all.reverse.map fun field => " " ++ field.column) ++ ["notes"], .returnAndFeed⟩
  rows := [⟨["-2200", "180", "30", "2", "2", "258", "3.95", "7.62", "188",
    "Go, \x22the\r\ngame\x22", "\n,\x22"], .returnAndFeed⟩]
  distinct := by decide +kernel
  columns := columns_of_all (by decide +kernel)
  filled := by decide
  short := by decide +kernel

section

attribute [local instance] Machine.usual

theorem parse_scattered :
    ∃ games others, games ≠ [] ∧ (parse gathered.text "<string>").value = .ok games ∧
      (parse scattered.text "<string>").value = .ok others ∧ Alike games others := by
  have same : (fieldColumns gathered.headings gathered.cells).Perm
      (fieldColumns scattered.headings scattered.cells) := by
    decide +kernel
  have made : ((Row.mk gathered.headings gathered.cells.head!).game 0).toOption.isSome = true := by
    decide +kernel
  rcases parse_quoted gathered "<string>" with ⟨games, loaded, yields, rearranged⟩
  rcases rearranged scattered "<string>" same with ⟨others, otherLoaded, alike⟩
  refine ⟨games, others, ?_, loaded, otherLoaded, alike⟩
  intro none
  subst none
  rcases Option.isSome_iff_exists.mp made with ⟨game, found⟩
  cases yields with
  | nothing without _ =>
      have described := (game_eq_ok_iff_describes gathered.distinct).mp (Answer.toOption_eq_some.mp found)
      exact without game described.1

end

end QuotedCatalogue

end Catalogue
end GameNight
