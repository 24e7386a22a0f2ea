import GameNight.Text.Line

namespace GameNight
namespace Table

open Text

/-!
# Records of a table

A table is a text of records, and a record is a row of cells with commas
between them.  A cell that starts with a double quote ends at the next one;
commas and line ends inside the quotes belong to it, and a quote is written
twice.  What follows the closing quote is taken as it is.  Everywhere else a
quote stands for itself.

A record ends with its line, unless a quote is open.  A carriage return ends
the cells of a record too, and only further line ends may follow it on the
same line.  A line without cells is a record without cells.

Reading goes line by line.  The records that were read before a fault are
kept, and each one knows the number of its last line.
-/

/-- Why a table could not be read to its end. -/
inductive Fault where
  | cellTooLong
  | strayReturn
  deriving DecidableEq, Repr

/-- The largest number of characters in a cell. -/
def cellLimit : Nat := 131072

def Fault.message : Fault → String
  | .cellTooLong => "field larger than field limit (131072)"
  | .strayReturn =>
    "new-line character seen in unquoted field - do you need to open the file in " ++
      "universal-newline mode?"

/-- The cells of a record, and the number of its last line. -/
structure Record where
  cells : List String
  line : Nat
  deriving DecidableEq, Repr

/-- The records of a table as far as it could be read, and why no further. -/
structure Reading where
  records : List Record
  fault : Option Fault
  deriving DecidableEq, Repr

/-- Where the reader stands: before a record, before a cell, in a cell without
quotes, between quotes, behind a quote that may close them, or behind the
cells of a record. -/
inductive Position where
  | beforeRecord
  | beforeCell
  | plain
  | quoted
  | closing
  | afterCells
  deriving DecidableEq, Repr

/-- What has been read of a record.  The cells and the characters of the cell
that is being read are kept in reverse. -/
structure Progress where
  position : Position
  cells : List (List Char)
  cell : List Char
  size : Nat

namespace Progress

/-- Nothing read yet. -/
def start : Progress := ⟨.beforeRecord, [], [], 0⟩

/-- Finish the cell that is being read. -/
def closeCell (progress : Progress) (position : Position) : Progress :=
  ⟨position, progress.cell.reverse :: progress.cells, [], 0⟩

/-- Add a character to the cell that is being read. -/
def addChar (progress : Progress) (position : Position) (c : Char) : Except Fault Progress :=
  if cellLimit ≤ progress.size then .error .cellTooLong
  else .ok ⟨position, progress.cells, c :: progress.cell, progress.size + 1⟩

def isLineEnd (c : Char) : Bool :=
  c == '\n' || c == '\r'

def openCell (progress : Progress) (c : Char) : Except Fault Progress :=
  if isLineEnd c then .ok (progress.closeCell .afterCells)
  else if c = '\x22' then .ok { progress with position := .quoted }
  else if c = ',' then .ok (progress.closeCell .beforeCell)
  else progress.addChar .plain c

/-- Take a character of a line. -/
def step (progress : Progress) (c : Char) : Except Fault Progress :=
  match progress.position with
  | .beforeRecord =>
    if isLineEnd c then .ok { progress with position := .afterCells } else progress.openCell c
  | .beforeCell => progress.openCell c
  | .plain =>
    if isLineEnd c then .ok (progress.closeCell .afterCells)
    else if c = ',' then .ok (progress.closeCell .beforeCell)
    else progress.addChar .plain c
  | .quoted =>
    if c = '\x22' then .ok { progress with position := .closing }
    else progress.addChar .quoted c
  | .closing =>
    if c = '\x22' then progress.addChar .quoted c
    else if c = ',' then .ok (progress.closeCell .beforeCell)
    else if isLineEnd c then .ok (progress.closeCell .afterCells)
    else progress.addChar .plain c
  | .afterCells => if isLineEnd c then .ok progress else .error .strayReturn

def takeLine (progress : Progress) : List Char → Except Fault Progress
  | [] => .ok progress
  | c :: rest =>
    match progress.step c with
    | .error fault => .error fault
    | .ok next => next.takeLine rest

/-- The cells in order. -/
def finished (progress : Progress) : List String :=
  (progress.cells.map String.ofList).reverse

/-- The cells of the record that ends with a line, or nothing while a quote is
open. -/
def endLine? (progress : Progress) : Option (List String) :=
  match progress.position with
  | .quoted => none
  | .beforeRecord | .afterCells => some progress.finished
  | .beforeCell | .plain | .closing => some (progress.closeCell .afterCells).finished

/-- The record that is left when the lines run out: one whose quote was never
closed. -/
def leftover (progress : Progress) (line : Nat) : List Record :=
  if progress.position = .quoted then [⟨(progress.closeCell .afterCells).finished, line⟩] else []

end Progress

/-- Read lines, of which `line` have been read before. -/
def readLines (progress : Progress) (line : Nat) : List (List Char) → Reading
  | [] => ⟨progress.leftover line, none⟩
  | chars :: rest =>
    match progress.takeLine chars with
    | .error fault => ⟨[], some fault⟩
    | .ok after =>
      match after.endLine? with
      | none => readLines after (line + 1) rest
      | some cells =>
        let others := readLines .start (line + 1) rest
        ⟨⟨cells, line + 1⟩ :: others.records, others.fault⟩

/-- Read a table. -/
def read (chars : List Char) : Reading :=
  readLines .start 0 (physicalLines chars)

end Table
end GameNight
