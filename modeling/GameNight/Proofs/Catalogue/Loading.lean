import GameNight.Proofs.Catalogue.Entries
import GameNight.Proofs.Files.Directories
import GameNight.Proofs.Messages.Segments
import GameNight.Proofs.Table.Rows

namespace GameNight
namespace Catalogue

open Text Number Journal Files Messages

/-!
# Catalogues that are loaded or refused

When a catalogue is loaded, what is reported if it is not, and what becomes of its
records if it is.
-/

/-!
## How loading can end

A catalogue that cannot be loaded is reported: columns are missing, its file
cannot be read, or a server does not deliver it.  Two faults are no such
reports and leave the loader as they are: a path with a NUL, which is refused
before any file is looked at, and a table that breaks the rules of its format.
Everything else ends in games or in a report.
-/

/-- The faults that report a catalogue which cannot be loaded. -/
def LoadingFault.IsReport : LoadingFault → Prop
  | .missingColumns _ _ | .unreadable _ _ | .undelivered _ _ | .unexpectedStatus _ _ => True
  | .malformed _ | .embeddedNul | .notAPath _ => False

/-- Loading has ended in games or in a report. -/
def Settled : Except LoadingFault (List Game) → Prop
  | .ok _ => True
  | .error fault => fault.IsReport

/-- A text whose table breaks the rules of its format, with a first record that
lacks no column where that record can be read. -/
def Broken (text : String) : Prop :=
  let reading := Table.read (text.toList.dropWhile isByteOrderMark)
  reading.fault ≠ none ∧
    ∀ header, reading.records.head? = some header → missingColumns (headingsOf header.cells) = []

/-! ### Texts -/

/-- Without columns a table is refused, whatever its other records are; with all
columns only a fault of the table is no report. -/
theorem settled_ofTable [Machine] (source : String) (headings : List String) (records : List Table.Record)
    (fault : Option Table.Fault) :
    Settled (ofTable source headings records fault).value ↔
      ¬(fault ≠ none ∧ missingColumns headings = []) := by
  rw [ofTable]
  cases named : missingColumns headings with
  | cons column columns => simp [Settled, LoadingFault.IsReport]
  | nil =>
      cases fault with
      | none => simp [Settled]
      | some fault => simp [Settled, LoadingFault.IsReport]

theorem settled_parse [Machine] (text source : String) :
    Settled (parse text source).value ↔ ¬Broken text := by
  rw [parse, Broken]
  cases Table.read (text.toList.dropWhile isByteOrderMark) with
  | mk records fault =>
      cases records with
      | cons header records =>
          rw [settled_ofTable]
          simp
      | nil =>
          cases fault with
          | none =>
              rw [settled_ofTable]
              simp
          | some fault => simp [Settled, LoadingFault.IsReport]

/-! ### Sources -/

/-- A server's answers are reported, unless they deliver a text. -/
theorem isReport_of_webText {url : String} {reply : WebReply} {fault : LoadingFault}
    (failed : webText url reply = .error fault) : fault.IsReport := by
  cases reply with
  | failed reason =>
      rw [← Except.error.inj failed]
      trivial
  | answered status text =>
      rw [webText] at failed
      split at failed
      · cases failed
      · rw [← Except.error.inj failed]
        trivial

/-- A file is reported, unless it delivers a text or its path holds a NUL: one that
is missing, a directory, and one whose octets are no text. -/
theorem isReport_of_fileText {path : Path} {files : Store} {fault : LoadingFault}
    (failed : fileText files path = .error fault) : fault.IsReport ↔ path.holdsNul = false := by
  rw [← Bool.not_eq_true, ← files.read_eq_embeddedNul path]
  rw [fileText] at failed
  cases found : files.read path with
  | ok bytes =>
      rw [found] at failed
      simp only at failed
      split at failed
      · rw [← Except.error.inj failed]
        simp [LoadingFault.IsReport]
      · cases failed
  | error refusal =>
      rw [found] at failed
      cases refusal with
      | refused refusal =>
          rw [← Except.error.inj failed]
          simp [LoadingFault.IsReport]
      | embeddedNul =>
          rw [← Except.error.inj failed]
          simp [LoadingFault.IsReport]

theorem fileText_of_holdsNul {path : Path} (held : path.holdsNul = true) (files : Store) :
    fileText files path = .error .embeddedNul := by
  rw [fileText, (files.read_eq_embeddedNul path).mpr held]

theorem games_load_of_fetch [Machine] {surroundings : Surroundings} {source : Source} {timeout : Timeout}
    {content name : String} {requests : List Request}
    (fetched : fetch surroundings timeout source = (.ok content, name, requests)) :
    (load surroundings source timeout).value.games = (parse content name).value := by
  rw [load, fetched]
  rfl

theorem games_load_of_fault [Machine] {surroundings : Surroundings} {source : Source} {timeout : Timeout}
    {fault : LoadingFault} {name : String} {requests : List Request}
    (failed : fetch surroundings timeout source = (.error fault, name, requests)) :
    (load surroundings source timeout).value.games = .error fault := by
  rw [load, failed]
  rfl

theorem settled_load [Machine] (surroundings : Surroundings) (source : Source) (timeout : Timeout) :
    Settled (load surroundings source timeout).value.games ↔
      (∀ fault, (fetch surroundings timeout source).1 = .error fault → fault.IsReport) ∧
        ∀ content, (fetch surroundings timeout source).1 = .ok content → ¬Broken content := by
  cases fetched : fetch surroundings timeout source with
  | mk text rest =>
      cases text with
      | error fault =>
          rw [games_load_of_fault fetched, Settled]
          simp
      | ok content =>
          rw [games_load_of_fetch fetched, settled_parse]
          simp

/-- Which faults of fetching a named source are reports: all but that of a path
with a NUL. -/
theorem isReport_fetch (surroundings : Surroundings) (text : String) (timeout : Timeout) :
    (∀ fault, (fetch surroundings timeout (.ofString text)).1 = .error fault → fault.IsReport) ↔
      (isAddress text = true ∨ Char.ofNat 0 ∉ text.toList) := by
  rw [Source.ofString]
  by_cases address : isAddress text = true
  · rw [if_pos address]
    simp only [address, true_or, iff_true]
    intro fault failed
    exact isReport_of_webText failed
  · rw [if_neg address, ← Path.holdsNul_ofString, Bool.not_eq_true]
    simp only [address, Bool.false_eq_true, false_or]
    cases held : (Path.ofString text).holdsNul with
    | true =>
        simp only [Bool.true_eq_false, iff_false]
        intro reports
        exact reports _ (fileText_of_holdsNul held surroundings.files)
    | false =>
        simp only [iff_true]
        intro fault failed
        exact (isReport_of_fileText failed).mpr held

/-- Loading from a named source ends in games or in a report exactly when the
source is an address or holds no NUL, and the text that it delivers, if it
delivers one, is not broken. -/
theorem settled_load_iff [Machine] (surroundings : Surroundings) (text : String) (timeout : Timeout) :
    Settled (load surroundings (.ofString text) timeout).value.games ↔
      (isAddress text = true ∨ Char.ofNat 0 ∉ text.toList) ∧
        ∀ content, (fetch surroundings timeout (.ofString text)).1 = .ok content →
          ¬Broken content := by
  rw [settled_load, isReport_fetch]

section

attribute [local instance] Machine.usual

/-- A server delivers all columns and a line with a carriage return in its middle,
and loading ends in the fault of the table. -/
theorem stray_return_is_not_reported :
    (load ⟨.empty, fun _ => .answered 200 (textWith true plainHeader ["Go\rx".toList])⟩
        (.ofString "http://a") (.whole 10)).value.games = .error (.malformed .strayReturn) ∧
      ¬(LoadingFault.malformed .strayReturn).IsReport := by
  refine ⟨?_, id⟩
  have address : Source.ofString "http://a" = .web "http://a" := by
    rw [Source.ofString, if_pos (by decide +kernel)]
  have fetched (text : String) :
      fetch ⟨.empty, fun _ => .answered 200 text⟩ (.whole 10) (.web "http://a") =
        (.ok text, "http://a", [⟨"http://a", programAgent, .whole 10⟩]) := by
    rw [fetch, webText, if_pos rfl]
  rw [address, games_load_of_fetch (fetched _), textWith, isHeader_plainHeader.value_parse]
  have fault : (Table.readLines .start 1
    (physicalLines (textOfLines true ["Go\rx".toList]))).fault = some .strayReturn := rfl
  rw [fault]

end

/-!
## What becomes of the records of a catalogue

Below the headings, every record that is not blank makes the next game or is
reported with the number of its last line, and none does both.  The numbers are those
of the lines of the text, whatever stands before a record: blank lines, and records
that take several lines, are counted.
-/

/-- A record that makes no game: the number of its last line, and why. -/
structure Skip where
  line : Nat
  fault : RowFault

/-- What becomes of records under headings, one after another: a blank record is
passed over, and any other one makes the next game or the next skip. -/
inductive Accounted (headings : List String) : List Table.Record → List Game → List Skip → Prop
  | nil : Accounted headings [] [] []
  | blank {record : Table.Record} {records : List Table.Record} {games : List Game} {skips : List Skip}
      (empty : record.cells = []) (others : Accounted headings records games skips) :
      Accounted headings (record :: records) games skips
  | game {record : Table.Record} {records : List Table.Record} {games : List Game} {skips : List Skip}
      {game : Game} (filled : record.cells ≠ []) (made : gameOf headings record = .ok game)
      (others : Accounted headings records games skips) :
      Accounted headings (record :: records) (game :: games) skips
  | skip {record : Table.Record} {records : List Table.Record} {games : List Game} {skips : List Skip}
      {fault : RowFault} (filled : record.cells ≠ []) (refused : gameOf headings record = .error fault)
      (others : Accounted headings records games skips) :
      Accounted headings (record :: records) games (⟨record.line, fault⟩ :: skips)

/-- The lines of the skips are among those of the records, in their order. -/
theorem Accounted.lines {headings : List String} {records : List Table.Record} {games : List Game}
    {skips : List Skip} (accounted : Accounted headings records games skips) :
    (skips.map Skip.line).Sublist (records.map Table.Record.line) := by
  induction accounted with
  | nil => exact .refl []
  | blank _ _ inductionHypothesis => exact inductionHypothesis.cons _
  | game _ _ _ inductionHypothesis => exact inductionHypothesis.cons _
  | skip _ _ _ inductionHypothesis => exact inductionHypothesis.cons_cons _

/-- No more games come of records than there are. -/
theorem Accounted.length_le {headings : List String} {records : List Table.Record} {games : List Game}
    {skips : List Skip} (accounted : Accounted headings records games skips) :
    games.length ≤ records.length := by
  induction accounted with
  | nil => exact Nat.le_refl 0
  | blank _ _ inductionHypothesis => exact Nat.le_succ_of_le inductionHypothesis
  | game _ _ _ inductionHypothesis => exact Nat.succ_le_succ inductionHypothesis
  | skip _ _ _ inductionHypothesis => exact Nat.le_succ_of_le inductionHypothesis

/-- The games and the reports of records account for all of them. -/
theorem exists_accounted [Machine] (source : String) (headings : List String) (records : List Table.Record) :
    ∃ skips, Accounted headings records (gamesOf headings records) skips ∧
      skippedRecords source headings records = skips.map fun skip => skipped source skip.line skip.fault := by
  induction records with
  | nil => exact ⟨[], .nil, rfl⟩
  | cons record rest inductionHypothesis =>
      rcases inductionHypothesis with ⟨skips, accounted, reported⟩
      rw [gamesOf, filledRecords] at accounted
      rw [skippedRecords, filledRecords] at reported
      rw [gamesOf, skippedRecords, filledRecords]
      by_cases empty : record.cells = []
      · rw [List.filter_cons_of_neg (by simp [empty])]
        exact ⟨skips, .blank empty accounted, reported⟩
      · rw [List.filter_cons_of_pos (by simp [empty]), List.filterMap_cons, List.filterMap_cons, reported]
        cases read : gameOf headings record with
        | ok game => exact ⟨skips, .game empty read accounted, rfl⟩
        | error fault => exact ⟨⟨record.line, fault⟩ :: skips, .skip empty read accounted, rfl⟩

/-! ### Reports in words -/

/-- The report of a skip tells the number of its line, if that is not too long to be
written. -/
theorem message_skipped [Machine] (source : String) {line : Nat} (short : line < tenTo digitLimit) (fault : RowFault) :
    (skipped source line fault).message =
      "Skipping row " ++ naturalText line ++ " of " ++ source ++ ": " ++ fault.message := by
  have leads : bundled.template? "logs.loader.bad_row" = some (template [words "Skipping row ",
      .field "line", words " of ", .field "source", words ": ", .field "error"]) := by
    decide +kernel
  let value (name : String) :=
    if name = "line" then naturalText line else if name = "source" then source else fault.message
  have given : ∀ name ∈ ["line", "source", "error"],
      Shows [("source", .text source), ("line", .number line), ("error", .text fault.message)] value
        name := by
    rw [List.forall_mem_cons, List.forall_mem_cons, List.forall_mem_singleton]
    exact ⟨shows_number short rfl rfl, shows_text rfl, shows_text rfl⟩
  rw [skipped, announce_of_segments leads (by decide +kernel) rfl rfl given]
  simp only [filled_words, filled_field, filled_nil, String.append_empty, String.append_assoc]
  rfl

/-- The last report tells how many games there are. -/
theorem message_loaded [Machine] (source : String) {count : Nat} (short : count < tenTo digitLimit) :
    (loaded source count).message = "Loaded " ++ naturalText count ++ " games from " ++ source := by
  have leads : bundled.template? "logs.loader.loaded" = some (template
      [words "Loaded ", .field "count", words " games from ", .field "source"]) := by
    decide +kernel
  let value (name : String) := if name = "count" then naturalText count else source
  have given : ∀ name ∈ ["count", "source"],
      Shows [("count", .number count), ("source", .text source)] value name := by
    rw [List.forall_mem_cons, List.forall_mem_singleton]
    exact ⟨shows_number short rfl rfl, shows_text rfl⟩
  rw [loaded, announce_of_segments leads (by decide +kernel) rfl rfl given]
  simp only [filled_words, filled_field, filled_nil, String.append_empty, String.append_assoc]
  rfl

/-! ### The account of a catalogue -/

/-- What the journal says of skips and of the number of the games. -/
def wordingOf (source : String) (skips : List Skip) (count : Nat) : List String :=
  (skips.map fun skip =>
    "Skipping row " ++ naturalText skip.line ++ " of " ++ source ++ ": " ++ skip.fault.message) ++
      ["Loaded " ++ naturalText count ++ " games from " ++ source]

/-- What a catalogue that is loaded comes to.  Its records are all that its table has,
and they lie in the lines of the text one behind another.  Below the headings, every record that is not blank is the next game
or the next skip.  The journal has one report of each skip, with the number of the last
line of its record, so that the numbers rise, and last of all the number of the games. -/
structure Accounts [Machine] (text source : String) (games : List Game) (header : Table.Record)
    (records : List Table.Record) (skips : List Skip) : Prop where
  read : Table.read (text.toList.dropWhile isByteOrderMark) = ⟨header :: records, none⟩
  laid : Table.Lays 0 (physicalLines (text.toList.dropWhile isByteOrderMark)) (header :: records)
  accounted : Accounted (headingsOf header.cells) records games skips
  kept : (parse text source).records =
    (skips.map fun skip => skipped source skip.line skip.fault) ++ [loaded source games.length]
  rising : (skips.map Skip.line).Pairwise (· < ·)
  told : (physicalLines (text.toList.dropWhile isByteOrderMark)).length < tenTo digitLimit →
    (parse text source).records.map Record.message = wordingOf source skips games.length

theorem map_message_reports [Machine] (source : String) {skips : List Skip} {count limit : Nat}
    (short : limit < tenTo digitLimit) (lines : ∀ skip ∈ skips, skip.line ≤ limit) (few : count ≤ limit) :
    ((skips.map fun skip => skipped source skip.line skip.fault) ++ [loaded source count]).map Record.message =
      wordingOf source skips count := by
  have each : skips.map (Record.message ∘ fun skip => skipped source skip.line skip.fault) =
      skips.map fun skip =>
        "Skipping row " ++ naturalText skip.line ++ " of " ++ source ++ ": " ++ skip.fault.message :=
    List.map_congr_left fun skip member =>
      message_skipped source (Nat.lt_of_le_of_lt (lines skip member) short) skip.fault
  rw [wordingOf, List.map_append, List.map_map, List.map_singleton,
    message_loaded source (Nat.lt_of_le_of_lt few short), each]

/-- Every record of a catalogue that is loaded is accounted for. -/
theorem every_record_accounted [Machine] (text source : String) {games : List Game}
    (made : (parse text source).value = .ok games) :
    ∃ header records skips, Accounts text source games header records skips := by
  rcases parse_eq_ok made with ⟨header, records, read, same, kept⟩
  rcases exists_accounted source (headingsOf header.cells) records with ⟨skips, accounted, reported⟩
  have laid := Table.lays_read (congrArg Table.Reading.fault read)
  rw [read] at laid
  rw [reported] at kept
  rw [← same] at accounted
  refine ⟨header, records, skips, read, laid, accounted, kept, ?rising, fun short => ?told⟩
  case rising =>
    have behind : (records.map Table.Record.line).Pairwise (· < ·) :=
      List.pairwise_map.mpr (List.pairwise_cons.mp laid.rising.2).2
    exact behind.sublist accounted.lines
  case told =>
    rw [kept]
    refine map_message_reports source short (fun skip member => ?_) ?_
    · have among := accounted.lines.subset (List.mem_map_of_mem member)
      rcases List.mem_map.mp among with ⟨record, listed, line⟩
      rw [← line, ← Nat.zero_add (List.length _)]
      exact laid.bounded.1 record (List.mem_cons_of_mem header listed)
    · exact accounted.length_le.trans (Nat.le_of_succ_le laid.bounded.2)

/-- A catalogue with a blank line, a row of two lines and of too few cells, and a game. -/
def shortRowText : String :=
  textWith true plainHeader [[], "\x22Go".toList, "x\x22,1".toList, goLine]

section

attribute [local instance] Machine.usual

theorem short_row_accounted :
    ∃ games header records skips, (parse shortRowText "<string>").value = .ok games ∧ games.length = 1 ∧
      Accounts shortRowText "<string>" games header records skips ∧
      (parse shortRowText "<string>").records.map Record.message = wordingOf "<string>" skips 1 := by
  have read : Table.readLines .start 1
      (physicalLines (textOfLines true [[], "\x22Go".toList, "x\x22,1".toList, goLine])) =
        ⟨[⟨[], 2⟩, ⟨["Go\nx", "1"], 4⟩,
          ⟨["Go", "188", "7.62", "3.95", "258", "2", "2", "30", "180", "-2200"], 5⟩], none⟩ := rfl
  have made : ∃ games, (parse shortRowText "<string>").value = .ok games ∧ games.length = 1 := by
    rw [shortRowText, textWith, isHeader_plainHeader.value_parse, read]
    exact ⟨_, rfl, by decide +kernel⟩
  rcases made with ⟨games, made, single⟩
  rcases every_record_accounted shortRowText "<string>" made with ⟨header, records, skips, accounts⟩
  have short : (physicalLines (shortRowText.toList.dropWhile isByteOrderMark)).length < tenTo digitLimit := by
    rw [shortRowText, textWith, String.toList_ofList]
    decide +kernel
  have told := accounts.told short
  rw [single] at told
  exact ⟨games, header, records, skips, made, single, accounts, told⟩

end

end Catalogue
end GameNight
