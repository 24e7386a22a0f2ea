import GameNight.Files
import GameNight.Program

namespace GameNight

open Files

namespace Journal

/-!
# The journal

The journal has a level of its own and handlers that write records down: at
most one for the console, set up first, and one for a file.  A record passes
three thresholds: it must reach the level of the journal, and that of the
handler, and its own level must be positive.  A journal without a level of
its own takes that of the surroundings, `Level.warning`.

Only the speakers of this program write through the handlers.  Records that
meet no handler at all still reach the console if they are warnings or worse,
in their bare words.

Setting up a second time changes levels only: handlers are never added twice,
and the file keeps taking everything from `Level.debug` on.
-/

/-- Something that writes records down, with its own threshold. -/
inductive Handler where
  | console (level : Level)
  | file (path : Path) (level : Level)
  deriving DecidableEq, Repr

def Handler.level : Handler → Level
  | .console level => level
  | .file _ level => level

end Journal

/-- The settings of a journal.  Its lines start with the time of day. -/
structure Journal where
  level : Journal.Level := 0
  handlers : List Journal.Handler := []
  clock : String := "00:00:00"

namespace Journal

/-- What has been written: the text on the console, and the files. -/
structure Transcript where
  console : String
  files : Store

def programSpeaker : String := "bgplanner"

/-- Whether a speaker is the program or one of its parts. -/
def belongs (speaker : String) : Bool :=
  speaker = programSpeaker || (programSpeaker ++ ".").toList.isPrefixOf speaker.toList

def line (journal : Journal) (record : Record) : String :=
  journal.clock ++ " [" ++ record.level.text ++ "] " ++ record.speaker ++ ": " ++ record.message

def threshold (journal : Journal) (speaker : String) : Level :=
  if belongs speaker ∧ journal.level ≠ 0 then journal.level else .warning

def handlersOf (journal : Journal) (speaker : String) : List Handler :=
  if belongs speaker then journal.handlers else []

def writeLine (transcript : Transcript) (line : String) : Handler → Transcript
  | .console _ => { transcript with console := transcript.console ++ line ++ "\n" }
  | .file path _ =>
    match transcript.files.append path (line ++ "\n").toUTF8 with
    | .ok files => { transcript with files := files }
    | .error _ => transcript

/-- Write a record down. -/
def emit (journal : Journal) (transcript : Transcript) (record : Record) : Transcript :=
  if record.level ≤ 0 ∨ record.level < journal.threshold record.speaker then transcript
  else
    match journal.handlersOf record.speaker with
    | [] =>
      if Level.warning ≤ record.level then
        { transcript with console := transcript.console ++ record.message ++ "\n" }
      else transcript
    | handlers =>
      (handlers.filter fun handler => handler.level ≤ record.level).foldl
        (fun written handler => writeLine written (journal.line record) handler) transcript

/-- Write several records down, in order. -/
def emitAll (journal : Journal) (transcript : Transcript) (records : List Record) : Transcript :=
  records.foldl journal.emit transcript

/-- Change the threshold of a console handler; a file handler keeps its own. -/
def relevel (level : Level) : Handler → Handler
  | .console _ => .console level
  | .file path kept => .file path kept

/-- Set the journal up.  The first time, handlers are added: one for the
console, and one for the file if there is one, whose directory is made.
Later only levels change. -/
def setUp [Machine] (journal : Journal) (level : Level) (file : Option Path) (files : Store) :
    Except TargetFault Unit × Journal × Store :=
  if journal.handlers.isEmpty then
    let console := { journal with level := level, handlers := [.console level] }
    match file with
    | none => (.ok (), console, files)
    | some path =>
      match files.makeDirectories path.parent with
      | (.error fault, partly) => (.error fault, console, partly)
      | (.ok _, prepared) =>
        match prepared.append path ByteArray.empty with
        | .error fault => (.error (.ofFault path fault), console, prepared)
        | .ok opened =>
          (.ok (), { console with handlers := [.console level, .file path .debug] }, opened)
  else
    (.ok (), { journal with level := level, handlers := journal.handlers.map (relevel level) }, files)

end Journal
end GameNight
