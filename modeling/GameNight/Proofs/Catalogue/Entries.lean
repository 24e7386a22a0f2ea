import GameNight.Catalogue
import GameNight.Program
import GameNight.Proofs.Table.Rows

namespace GameNight

open Text Number Answer

/-!
# Games of a catalogue

The games of a catalogue come from its rows, each of them from one row by itself.
-/

namespace Game

/-- A game whose scores are held by a given object. -/
def withObject (game : Game) (object : Nat) : Game :=
  { game with
    difficulty := ⟨game.score .difficulty, object⟩
    rating := ⟨game.score .rating, object⟩ }

theorem withObject_of_objects {game : Game} {object : Nat}
    (objects : ∀ field, (game.scored field).object = object) : game.withObject object = game := by
  have difficulty : ⟨game.score .difficulty, object⟩ = game.difficulty := by
    rw [← objects .difficulty]
    rfl
  have rating : ⟨game.score .rating, object⟩ = game.rating := by
    rw [← objects .rating]
    rfl
  rw [withObject, difficulty, rating]

/-- A game without the objects of its scores. -/
def entry (game : Game) : Game :=
  game.withObject 0

end Game

namespace Catalogue

/-!
## What the game of a row holds

The game of a row holds what each field can be read as, and nothing else.  So
a game of a catalogue can be traced to the cells of one record.
-/

namespace Row

/-- A row makes a game exactly when every field can be read as what the game
holds. -/
theorem game_eq_ok {row : Row} {object : Nat} {game : Game} :
    row.game object = .ok game ↔
      row.name = .ok game.name ∧ (∀ field, row.integer field = .ok (game.integer field)) ∧
        (∀ field, row.score field = .ok (game.score field)) ∧
        ∀ field, (game.scored field).object = object := by
  simp only [Row.game, bind_eq_ok, pure, Except.pure, Except.ok.injEq]
  constructor
  · rintro ⟨name, named, id, idRead, rating, rated, difficulty, difficult, rank, ranked,
      minPlayers, minPlayersRead, maxPlayers, maxPlayersRead, minTime, minTimeRead, maxTime,
      maxTimeRead, year, yearRead, made⟩
    subst made
    refine ⟨named, fun field => ?_, fun field => ?_, fun field => ?_⟩
    · cases field <;> assumption
    · cases field <;> assumption
    · cases field <;> rfl
  · rintro ⟨named, integers, scores, objects⟩
    have same : game.withObject object = game := Game.withObject_of_objects objects
    exact ⟨_, named, _, integers .id, _, scores .rating, _, scores .difficulty, _, integers .rank,
      _, integers .minPlayers, _, integers .maxPlayers, _, integers .minTime, _, integers .maxTime,
      _, integers .year, same⟩

/-- A name is read from its cell without the blanks around it. -/
theorem name_eq_ok {row : Row} {name : String} :
    row.name = .ok name ↔
      ∃ cell, cellUnder Field.name.column row.headings row.cells = some cell ∧
        trim cell.toList ≠ [] ∧ name = strip cell := by
  rw [Row.name, Row.text]
  cases cellUnder Field.name.column row.headings row.cells with
  | none => simp
  | some cell =>
      simp only [Option.some.injEq, exists_eq_left']
      by_cases blank : trim cell.toList = []
      · simp [blank]
      · simp only [List.isEmpty_iff, blank, if_false, ne_eq, not_false_eq_true, true_and,
          Except.ok.injEq]
        exact eq_comm

theorem integer_eq_ok {row : Row} {field : IntegerField} {value : Int} :
    row.integer field = .ok value ↔
      ∃ cell, cellUnder field.column row.headings row.cells = some cell ∧
        readInteger (trim cell.toList) = .ok value := by
  rw [Row.integer, Row.text, Field.column, NumericField.column]
  cases cellUnder field.column row.headings row.cells with
  | none => simp
  | some cell =>
      simp only [Option.some.injEq, exists_eq_left']
      exact mapError_eq_ok

theorem score_eq_ok {row : Row} {field : ScoreField} {value : Double} :
    row.score field = .ok value ↔
      ∃ cell, cellUnder field.column row.headings row.cells = some cell ∧
        readDouble? (trim cell.toList) = some value := by
  rw [Row.score, Row.text, Field.column, NumericField.column]
  cases cellUnder field.column row.headings row.cells with
  | none => simp
  | some cell =>
      simp only [Option.some.injEq, exists_eq_left']
      cases readDouble? (trim cell.toList) <;> simp

end Row

/-- What stands under a heading is one of the cells. -/
theorem mem_of_cellUnder {column cell : String} {headings cells : List String}
    (found : cellUnder column headings cells = some cell) : cell ∈ cells := by
  induction headings generalizing cells with
  | nil => cases found
  | cons heading rest inductionHypothesis =>
      rw [cellUnder] at found
      split at found
      · exact List.mem_of_mem_tail (inductionHypothesis found)
      · split at found
        · exact List.mem_of_mem_head? (Option.mem_def.mpr found)
        · cases found

/-- A game of a catalogue is the game of one of its records. -/
theorem mem_gamesOf {headings : List String} {records : List Table.Record} {game : Game} :
    game ∈ gamesOf headings records ↔
      ∃ record ∈ filledRecords records, gameOf headings record = .ok game := by
  simp only [gamesOf, List.mem_filterMap, toOption_eq_some]

/-- A table whose records make games has all columns and no fault, and keeps a report of
each record that makes no game and a last one of the number of the games. -/
theorem ofTable_eq_ok [Machine] {source : String} {headings : List String} {records : List Table.Record}
    {fault : Option Table.Fault} {games : List Game}
    (made : (ofTable source headings records fault).value = .ok games) :
    missingColumns headings = [] ∧ fault = none ∧ games = gamesOf headings records ∧
      (ofTable source headings records fault).records =
        skippedRecords source headings records ++ [loaded source games.length] := by
  by_cases complete : missingColumns headings = []
  · cases fault with
    | some fault =>
        simp only [ofTable, complete, List.isEmpty_nil, Bool.not_true] at made
        cases made
    | none =>
        simp only [ofTable, complete, List.isEmpty_nil, Bool.not_true] at made ⊢
        cases made
        exact ⟨trivial, trivial, rfl, rfl⟩
  · have lacking : (missingColumns headings).isEmpty = false := List.isEmpty_eq_false_iff.mpr complete
    simp only [ofTable, lacking] at made
    cases made

/-- A catalogue that is loaded is a table without faults.  Its first record has the
headings, and its games are those of the other records. -/
theorem parse_eq_ok [Machine] {text source : String} {games : List Game}
    (made : (parse text source).value = .ok games) :
    ∃ header records,
      Table.read (text.toList.dropWhile isByteOrderMark) = ⟨header :: records, none⟩ ∧
      games = gamesOf (headingsOf header.cells) records ∧
      (parse text source).records =
        skippedRecords source (headingsOf header.cells) records ++ [loaded source games.length] := by
  rw [parse] at made ⊢
  generalize Table.read (text.toList.dropWhile isByteOrderMark) = reading at made ⊢
  rcases reading with ⟨_ | ⟨header, records⟩, fault⟩
  · cases fault with
    | some fault => cases made
    | none => cases (ofTable_eq_ok made).1
  · rcases ofTable_eq_ok made with ⟨_, rfl, same, kept⟩
    exact ⟨header, records, rfl, same, kept⟩

/-- Whatever a catalogue is loaded from, its games are those of a text. -/
theorem exists_parse_of_loadFor [Machine] {surroundings : Surroundings} {wish : Wish} {timeout : Timeout}
    {games : List Game} (loaded : (loadFor surroundings wish timeout).value.games = .ok games) :
    ∃ text source, (parse text source).value = .ok games := by
  rw [loadFor] at loaded
  cases found : wish.source with
  | error fault =>
      rw [found] at loaded
      cases loaded
  | ok source =>
      rw [found] at loaded
      dsimp only at loaded
      rw [load] at loaded
      generalize fetch surroundings timeout source = fetched at loaded
      rcases fetched with ⟨_ | text, name, requests⟩
      · cases loaded
      · exact ⟨text, name, loaded⟩

/-- The name of a game is what stands in some cell of its catalogue, without the
blanks around it. -/
theorem name_of_mem_parse [Machine] {text source : String} {games : List Game}
    (loaded : (parse text source).value = .ok games) {game : Game} (member : game ∈ games) :
    ∃ record ∈ (Table.read (text.toList.dropWhile isByteOrderMark)).records,
      ∃ cell ∈ record.cells, game.name = strip cell := by
  rcases parse_eq_ok loaded with ⟨header, records, read, same, _⟩
  rw [same] at member
  rcases mem_gamesOf.mp member with ⟨record, filled, made⟩
  rcases Row.name_eq_ok.mp (Row.game_eq_ok.mp made).1 with ⟨cell, found, _, named⟩
  refine ⟨record, ?_, cell, mem_of_cellUnder found, named⟩
  rw [read]
  exact List.mem_cons_of_mem header (List.mem_filter.mp filled).1

/-!
## The entries of a catalogue

The lines of a catalogue only tell apart the objects that hold its scores.  Without
these objects, the games of a catalogue are those of its rows, one after another,
and each row can be taken by itself.
-/

theorem Row.game_entry (row : Row) (object : Nat) :
    Game.entry <$> row.game object = row.game 0 := by
  simp only [Row.game, map_bind, map_pure, Game.entry, Game.withObject, Game.score, Game.scored]

/-- The entry of a row under headings, if it makes a game. -/
def entryOf? (headings cells : List String) : Option Game :=
  ((Row.mk headings cells).game 0).toOption

/-- The entries of rows under headings, in order. -/
def entriesOf (headings : List String) (rows : List (List String)) : List Game :=
  rows.filterMap (entryOf? headings)

theorem entriesOf_append (headings : List String) (rows others : List (List String)) :
    entriesOf headings (rows ++ others) = entriesOf headings rows ++ entriesOf headings others :=
  List.filterMap_append

theorem length_entriesOf_le (headings : List String) (rows : List (List String)) :
    (entriesOf headings rows).length ≤ rows.length :=
  List.length_filterMap_le _ rows

theorem gamesOf_entries (headings : List String) (reading : Table.Reading) :
    (gamesOf headings reading.records).map Game.entry = entriesOf headings reading.rows := by
  rw [gamesOf, entriesOf, Table.Reading.rows, filledRecords, List.map_filterMap,
    List.filterMap_map]
  congr 1
  funext record
  rw [Function.comp, entryOf?, gameOf, ← Row.game_entry _ record.line]
  cases (Row.mk headings record.cells).game record.line <;> rfl

/-! ### Texts with a header line -/

/-- A line with these headings, behind any byte order marks; no column is
missing among them. -/
structure IsHeader (header : List Char) (headings : List String) : Prop where
  whole : '\n' ∉ header
  read : ∃ cells, Table.lineCells? (header.dropWhile isByteOrderMark) = .ok (some cells) ∧
    headingsOf cells = headings
  named : missingColumns headings = []

/-- A catalogue with a header line and further lines, the last of which ends
with a line feed or not. -/
def textWith (ended : Bool) (header : List Char) (lines : List (List Char)) : String :=
  String.ofList (header ++ '\n' :: textOfLines ended lines)

theorem dropMarks_append {header : List Char} (rest : List Char) :
    (header ++ '\n' :: rest).dropWhile isByteOrderMark =
      header.dropWhile isByteOrderMark ++ '\n' :: rest := by
  induction header with
  | nil => rfl
  | cons c others inductionHypothesis =>
      rw [List.cons_append, List.dropWhile_cons, List.dropWhile_cons, inductionHypothesis]
      split <;> rfl

theorem IsHeader.value_parse [Machine] {header : List Char} {headings : List String}
    (isHeader : IsHeader header headings) (chars : List Char) (source : String) :
    (parse (String.ofList (header ++ '\n' :: chars)) source).value =
      match (Table.readLines .start 1 (physicalLines chars)).fault with
      | some fault => .error (.malformed fault)
      | none => .ok (gamesOf headings (Table.readLines .start 1 (physicalLines chars)).records) := by
  rcases isHeader with ⟨whole, ⟨cells, read, same⟩, named⟩
  have wholeRest : '\n' ∉ header.dropWhile isByteOrderMark :=
    fun member => whole ((List.dropWhile_sublist _).subset member)
  have reading : Table.read ((header ++ '\n' :: chars).dropWhile isByteOrderMark) =
      ⟨⟨cells, 1⟩ :: (Table.readLines .start 1 (physicalLines chars)).records,
        (Table.readLines .start 1 (physicalLines chars)).fault⟩ := by
    rw [dropMarks_append, Table.read, physicalLines_append wholeRest,
      Table.readLines_cons (Table.lineCells?_lineFeed read)]
  rw [parse, String.toList_ofList, reading]
  simp only [ofTable, same, named, List.isEmpty_nil, Bool.not_true]
  cases (Table.readLines .start 1 (physicalLines chars)).fault <;> rfl

/-- The entries of a catalogue are those of the rows below its header line. -/
theorem IsHeader.parse_of_holds [Machine] {header : List Char} {headings : List String}
    (isHeader : IsHeader header headings) {chars : List Char} {rows : List (List String)}
    (holds : Table.Holds chars rows none) (source : String) :
    ∃ games, (parse (String.ofList (header ++ '\n' :: chars)) source).value = .ok games ∧
      games.map Game.entry = entriesOf headings rows := by
  rcases holds 1 with ⟨sound, same⟩
  refine ⟨gamesOf headings (Table.readLines .start 1 (physicalLines chars)).records, ?_, ?_⟩
  · rw [isHeader.value_parse, sound]
  · rw [gamesOf_entries, same]

/-- A fault below the header line is the fault of the catalogue. -/
theorem IsHeader.parse_of_fault [Machine] {header : List Char} {headings : List String}
    (isHeader : IsHeader header headings) {chars : List Char} {rows : List (List String)}
    {fault : Table.Fault} (holds : Table.Holds chars rows (some fault)) (source : String) :
    (parse (String.ofList (header ++ '\n' :: chars)) source).value =
      .error (.malformed fault) := by
  rw [isHeader.value_parse, (holds 1).1]

/-- The header line with the columns of all fields, in the order of the fields. -/
def plainHeader : List Char :=
  List.intercalate [','] (Field.all.map fun field => field.column.toList)

theorem isHeader_plainHeader : IsHeader plainHeader (Field.all.map Field.column) where
  whole := by decide +kernel
  read := ⟨Field.all.map Field.column, rfl, by decide +kernel⟩
  named := by decide +kernel

/-! ### Lines that are games -/

/-- A line without double quotes that is the one game of a catalogue in which
only this header stands before it. -/
structure IsGameLine [Machine] (source : String) (header line : List Char) : Prop where
  whole : '\n' ∉ line
  unmarked : '\x22' ∉ line
  alone : ∃ game, (parse (textWith true header [line]) source).value = .ok [game]

theorem IsGameLine.complete [Machine] {source : String} {header line : List Char} {headings : List String}
    (isHeader : IsHeader header headings) (isGame : IsGameLine source header line) :
    Table.Complete line := by
  rcases isGame with ⟨whole, unmarked, game, alone⟩
  rw [textWith, isHeader.value_parse] at alone
  have single : physicalLines (textOfLines true [line]) = [line ++ ['\n']] :=
    physicalLines_append whole []
  rw [single] at alone
  have sound : (Table.readLines .start 1 [line ++ ['\n']]).fault = none := by
    cases ended : (Table.readLines .start 1 [line ++ ['\n']]).fault with
    | none => rfl
    | some fault =>
        rw [ended] at alone
        cases alone
  rcases Table.lineCells?_of_sound sound with ⟨cells?, read⟩
  rcases Table.complete_of_unmarked (by simp [unmarked]) read with ⟨cells, readFed⟩
  exact Table.complete_of_lineFeed readFed

theorem IsGameLine.length_entriesOf [Machine] {source : String} {header line : List Char}
    {headings : List String} (isHeader : IsHeader header headings)
    (isGame : IsGameLine source header line) :
    (entriesOf headings (Table.rowsOfLine line)).length = 1 := by
  rcases isGame.complete isHeader with ⟨cells, read⟩
  rcases isGame.alone with ⟨game, alone⟩
  rcases isHeader.parse_of_holds (Table.holds_textOfLines_singleton isGame.whole read) source with
    ⟨games, loaded, same⟩
  rw [← textWith, alone] at loaded
  cases loaded
  rw [Table.rowsOfLine_of_read read, ← same]
  rfl

theorem length_entriesOf_lines [Machine] {source : String} {header : List Char} {headings : List String}
    (isHeader : IsHeader header headings) {lines : List (List Char)}
    (games : ∀ line ∈ lines, IsGameLine source header line) :
    (entriesOf headings (lines.flatMap Table.rowsOfLine)).length = lines.length := by
  induction lines with
  | nil => rfl
  | cons line rest inductionHypothesis =>
      rw [List.flatMap_cons, entriesOf_append, List.length_append,
        (games line List.mem_cons_self).length_entriesOf isHeader,
        inductionHypothesis fun other member => games other (List.mem_cons_of_mem line member),
        List.length_cons, Nat.add_comm]

/-- A line without double quotes is a game's line when one game comes of it. -/
theorem isGameLine_of_count [Machine] {source : String} {line : List Char} (whole : '\n' ∉ line)
    (unmarked : '\x22' ∉ line) {records : List Table.Record}
    (read : Table.readLines .start 1 (physicalLines (line ++ ['\n'])) = ⟨records, none⟩)
    (count : (gamesOf (Field.all.map Field.column) records).length = 1) :
    IsGameLine source plainHeader line := by
  rcases List.length_eq_one_iff.mp count with ⟨game, single⟩
  refine ⟨whole, unmarked, game, ?_⟩
  rw [textWith, isHeader_plainHeader.value_parse]
  have alone : Table.readLines .start 1 (physicalLines (textOfLines true [line])) =
    ⟨records, none⟩ := read
  rw [alone]
  exact congrArg Except.ok single

/-- The line of a game. -/
def goLine : List Char := "Go,188,7.62,3.95,258,2,2,30,180,-2200".toList

theorem isGameLine_goLine [Machine] : IsGameLine "<string>" plainHeader goLine :=
  isGameLine_of_count (by decide +kernel) (by decide +kernel) rfl (by decide +kernel)

/-!
## What one more line does to a catalogue

A line that makes no game costs a catalogue nothing else, wherever it stands:
all other games stay, in their order, and at most one game is added.  A line
that leaves a quote open where further lines follow is no line by itself.
The lines behind it belong to its last cell, and of the games only those
before it stay.

Lines that cannot be read at all are not considered here.
-/

/-- Games of the same entries, in the same order. -/
def Alike (games others : List Game) : Prop :=
  games.map Game.entry = others.map Game.entry

/-- The entries of a catalogue of games are those of its lines. -/
theorem parse_lines [Machine] {source : String} {header : List Char} {headings : List String}
    (isHeader : IsHeader header headings) {lines : List (List Char)}
    (games : ∀ line ∈ lines, IsGameLine source header line) (ended : Bool) :
    ∃ loaded, (parse (textWith ended header lines) source).value = .ok loaded ∧
      loaded.map Game.entry = entriesOf headings (lines.flatMap Table.rowsOfLine) :=
  isHeader.parse_of_holds
    (Table.holds_textOfLines (fun line member => (games line member).whole)
      fun line member => (games line member).complete isHeader) source

/-- The games of two groups of lines, told apart. -/
theorem parse_lines_append [Machine] {source : String} {header : List Char} {headings : List String}
    (isHeader : IsHeader header headings) {before after : List (List Char)}
    (gamesBefore : ∀ other ∈ before, IsGameLine source header other)
    (gamesAfter : ∀ other ∈ after, IsGameLine source header other) (ended : Bool) :
    ∃ first second,
      (parse (textWith ended header (before ++ after)) source).value = .ok (first ++ second) ∧
      first.length = before.length ∧ second.length = after.length ∧
      first.map Game.entry = entriesOf headings (before.flatMap Table.rowsOfLine) ∧
      second.map Game.entry = entriesOf headings (after.flatMap Table.rowsOfLine) := by
  have games : ∀ other ∈ before ++ after, IsGameLine source header other := fun other member =>
    (List.mem_append.mp member).elim (gamesBefore other) (gamesAfter other)
  rcases parse_lines isHeader games ended with ⟨loaded, found, entries⟩
  rw [List.flatMap_append, entriesOf_append] at entries
  have lengthBefore := length_entriesOf_lines isHeader gamesBefore
  have lengthAfter := length_entriesOf_lines isHeader gamesAfter
  have firstEntries : (loaded.take before.length).map Game.entry =
      entriesOf headings (before.flatMap Table.rowsOfLine) := by
    rw [List.map_take, entries, ← lengthBefore, List.take_left]
  have secondEntries : (loaded.drop before.length).map Game.entry =
      entriesOf headings (after.flatMap Table.rowsOfLine) := by
    rw [List.map_drop, entries, ← lengthBefore, List.drop_left]
  refine ⟨loaded.take before.length, loaded.drop before.length, ?_, ?_, ?_, firstEntries,
    secondEntries⟩
  · rw [List.take_append_drop, found]
  · rw [← List.length_map Game.entry, firstEntries, lengthBefore]
  · rw [← List.length_map Game.entry, secondEntries, lengthAfter]

/-- A catalogue of games, with one more line that the table reader accepts.  If
the line leaves no quote open for lines behind it, all games stay and those of
the line by itself, at most one, stand between them.  Otherwise the games
before it stay, unless the cell outgrows its limit. -/
theorem parse_with_extra_line [Machine] {source : String} {header : List Char} {headings : List String}
    (isHeader : IsHeader header headings) {before after : List (List Char)}
    (gamesBefore : ∀ other ∈ before, IsGameLine source header other)
    (gamesAfter : ∀ other ∈ after, IsGameLine source header other)
    {line : List Char} (whole : '\n' ∉ line) {ended : Bool} {cells? : Option (List String)}
    (read : Table.lineCells? (Table.standing ended line after) = .ok cells?)
    (endedBefore : Bool) :
    ∃ first second,
      (parse (textWith endedBefore header (before ++ after)) source).value =
        .ok (first ++ second) ∧
      first.length = before.length ∧ second.length = after.length ∧
      (Table.Complete line ∨ after = [] →
        ∃ further games, further.length ≤ 1 ∧
          (parse (textWith ended header [line]) source).value = .ok further ∧
          (parse (textWith ended header (before ++ line :: after)) source).value = .ok games ∧
          Alike games (first ++ further ++ second)) ∧
      (¬Table.Complete line → after ≠ [] →
        (∃ further games, further.length ≤ 1 ∧
          (parse (textWith ended header (before ++ line :: after)) source).value = .ok games ∧
          Alike games (first ++ further)) ∨
        (parse (textWith ended header (before ++ line :: after)) source).value =
          .error (.malformed .cellTooLong)) := by
  rcases parse_lines_append isHeader gamesBefore gamesAfter endedBefore with
    ⟨first, second, loaded, lengthFirst, lengthSecond, firstEntries, secondEntries⟩
  have wholeBefore := fun other member => (gamesBefore other member).whole
  have wholeAfter := fun other member => (gamesAfter other member).whole
  have completeBefore := fun other member => (gamesBefore other member).complete isHeader
  have completeAfter := fun other member => (gamesAfter other member).complete isHeader
  refine ⟨first, second, loaded, lengthFirst, lengthSecond, ?closed, ?opened⟩
  case closed =>
    intro closed
    have inserted := Table.holds_inserted wholeBefore completeBefore wholeAfter completeAfter
      whole read closed
    rcases inserted with ⟨rows, few, alone, among⟩
    rcases isHeader.parse_of_holds alone source with ⟨further, furtherLoaded, furtherEntries⟩
    rcases isHeader.parse_of_holds among source with ⟨games, gamesLoaded, gamesEntries⟩
    refine ⟨further, games, ?_, furtherLoaded, gamesLoaded, ?_⟩
    · rw [← List.length_map Game.entry, furtherEntries]
      exact Nat.le_trans (length_entriesOf_le headings rows) few
    · rw [Alike, gamesEntries, List.map_append, List.map_append, firstEntries, furtherEntries,
        secondEntries, entriesOf_append, entriesOf_append, List.append_assoc]
  case opened =>
    intro incomplete more
    have unmarkedAfter := fun other member => (gamesAfter other member).unmarked
    rcases Table.holds_inserted_open wholeBefore completeBefore unmarkedAfter whole read incomplete
      more with ⟨cells, among⟩ | overflow
    · rcases isHeader.parse_of_holds among source with ⟨games, gamesLoaded, gamesEntries⟩
      rw [entriesOf_append, ← firstEntries] at gamesEntries
      have furtherEntries : (games.drop first.length).map Game.entry =
          entriesOf headings [cells] := by
        rw [List.map_drop, gamesEntries, ← List.length_map Game.entry, List.drop_left]
      refine Or.inl ⟨games.drop first.length, games, ?_, gamesLoaded, ?_⟩
      · rw [← List.length_map Game.entry, furtherEntries]
        exact length_entriesOf_le headings [cells]
      · rw [Alike, gamesEntries, List.map_append, furtherEntries]
    · exact Or.inr (isHeader.parse_of_fault overflow source)

section

attribute [local instance] Machine.usual

theorem short_line_costs_no_game :
    ∃ first second further games, first.length = 1 ∧ second.length = 1 ∧ further.length ≤ 1 ∧
      (parse (textWith false plainHeader ([goLine] ++ "Short,1,7.0".toList :: [goLine]))
        "<string>").value = .ok games ∧
      Alike games (first ++ further ++ second) := by
  have games : ∀ other ∈ [goLine], IsGameLine "<string>" plainHeader other := by
    intro other member
    rw [List.mem_singleton.mp member]
    exact isGameLine_goLine
  have complete : Table.Complete "Short,1,7.0".toList := ⟨["Short", "1", "7.0"], rfl⟩
  have read : Table.lineCells? (Table.standing false "Short,1,7.0".toList [goLine]) =
      .ok (some ["Short", "1", "7.0"]) := rfl
  rcases parse_with_extra_line isHeader_plainHeader games games (by decide +kernel) read true with
    ⟨first, second, _, lengthFirst, lengthSecond, closed, _⟩
  rcases closed (Or.inl complete) with ⟨further, loaded, few, _, found, alike⟩
  exact ⟨first, second, further, loaded, lengthFirst, lengthSecond, few, found, alike⟩

/-- A line that is nothing but a double quote takes the game behind it with it. -/
theorem lone_quote_takes_game :
    IsHeader plainHeader (Field.all.map Field.column) ∧
      IsGameLine "<string>" plainHeader goLine ∧ '\n' ∉ ['\x22'] ∧
      (parse (textWith true plainHeader ([] ++ ['\x22'] :: [goLine])) "<string>").value = .ok [] := by
  refine ⟨isHeader_plainHeader, isGameLine_goLine, by decide, ?_⟩
  rw [textWith, isHeader_plainHeader.value_parse]
  have reading :
      Table.readLines .start 1 (physicalLines (textOfLines true ([] ++ ['\x22'] :: [goLine]))) =
        ⟨[⟨["\nGo,188,7.62,3.95,258,2,2,30,180,-2200\n"], 3⟩], none⟩ := rfl
  rw [reading]
  exact congrArg Except.ok (by decide +kernel)

end

end Catalogue

end GameNight
