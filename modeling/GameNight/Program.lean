import GameNight.Number.Decimal
import GameNight.Text.Character

namespace GameNight

open Text Number

/-!
# What all parts of the program share

The name of the program, the bounds of the machine that it runs on, the records that it
keeps on the way to a value, and answers that may be faults.
-/

def programName : String := "Board Game Planner"

def programVersion : String := "1.0.0"

/-- How the program introduces itself on the web. -/
def programAgent : String := programName ++ "/" ++ programVersion

/-!
## The machine

Three things are bounded by the machine and not by any rule of the program, and each
of them ends in a fault of its own: directories that are made one inside the other,
containers of a JSON text that stand inside one another, and the width of a text that
is laid out.

The bounds are the same throughout a run, so that they are given as an instance.
What is said of the program is said for all machines; `Machine.usual` serves runs on
fixed inputs.
-/

/-- How far a machine lets the program go.  It makes one directory at least, and it
has room for a text without a width. -/
class Machine where
  /-- The number of directories, one inside the other, that are made at once. -/
  directories : Nat
  /-- The number of containers that may stand inside one another. -/
  nesting : Nat
  /-- The first width for which there is no room. -/
  room : Nat
  directories_pos : 0 < directories
  room_pos : 0 < room

/-- A machine with a stack for about a thousand calls and a few gigabytes of memory. -/
@[reducible]
def Machine.usual : Machine where
  directories := 988
  nesting := 986
  room := 1073741824
  directories_pos := by decide
  room_pos := by decide

namespace Journal

/-!
## Journal records

What happens is recorded as it happens: with a level, which says how much it
matters, under the name of the part of the program that speaks, and in words.
An operation that keeps records returns them beside its value, in order.
-/

/-- How much a record matters.  Larger numbers matter more. -/
abbrev Level := Int

namespace Level

def debug : Level := 10
def info : Level := 20
def warning : Level := 30
def error : Level := 40
def critical : Level := 50

end Level

/-- One entry of the journal. -/
structure Record where
  level : Level
  speaker : String
  message : String
  deriving DecidableEq, Repr

/-- A value with the records that were kept on the way to it. -/
structure Logged (α : Type) where
  value : α
  records : List Record
  deriving Repr

namespace Logged

def quiet {α : Type} (value : α) : Logged α :=
  ⟨value, []⟩

/-- Go on with the value; the records of both steps are kept in order. -/
def andThen {α β : Type} (first : Logged α) (next : α → Logged β) : Logged β :=
  let second := next first.value
  ⟨second.value, first.records ++ second.records⟩

instance : Monad Logged where
  pure := quiet
  bind := andThen

@[simp] theorem value_pure {α : Type} (value : α) : (pure value : Logged α).value = value := rfl

@[simp] theorem value_bind {α β : Type} (first : Logged α) (next : α → Logged β) :
    (first >>= next).value = (next first.value).value := rfl

@[simp] theorem value_quiet {α : Type} (value : α) : (quiet value).value = value := rfl

@[simp] theorem records_quiet {α : Type} (value : α) : (quiet value).records = [] := rfl

@[simp] theorem value_andThen {α β : Type} (first : Logged α) (next : α → Logged β) :
    (first.andThen next).value = (next first.value).value := rfl

@[simp] theorem records_andThen {α β : Type} (first : Logged α) (next : α → Logged β) :
    (first.andThen next).records = first.records ++ (next first.value).records := rfl

end Logged

/-!
## Level names

Levels have names, which are read in letters of any size and with blanks
around them.  Two pairs of names mean the same level; the shorter spellings
are not used for writing.
-/

def levelNames : List (String × Level) :=
  [("CRITICAL", .critical), ("FATAL", .critical), ("ERROR", .error), ("WARN", .warning),
   ("WARNING", .warning), ("INFO", .info), ("DEBUG", .debug), ("NOTSET", 0)]

/-- The capital form of those letters whose capital is one basic Latin letter.
No level name holds a capital that comes from another letter, so this is
enough to recognise them. -/
def basicCapital (c : Char) : Char :=
  if c.toNat = 0x131 then 'I' else if c.toNat = 0x17F then 'S' else c.toUpper

def levelOfName (name : String) (fallback : Level) : Level :=
  let word := String.ofList ((trim name.toList).map basicCapital)
  (levelNames.lookup word).getD fallback

def Level.text (level : Level) : String :=
  if level = .critical then "CRITICAL"
  else if level = .error then "ERROR"
  else if level = .warning then "WARNING"
  else if level = .info then "INFO"
  else if level = .debug then "DEBUG"
  else if level = 0 then "NOTSET"
  else "Level " ++ integerText level

end Journal

namespace Answer

/-!
## Answers that may fail

An answer is a value or a fault.  One that is made from another answer is known
when the other one is: a value comes of a value, and a fault of a fault.  What is
read step by step is taken apart by these lemmas, so that no proof has to consider
the faults of steps that succeeded.
-/

variable {ε δ α β : Type}

/-- Two steps succeed when the first one does and the second one after it. -/
theorem bind_eq_ok {first : Except ε α} {next : α → Except ε β} {result : β} :
    first >>= next = .ok result ↔ ∃ value, first = .ok value ∧ next value = .ok result := by
  cases first <;> simp [bind, Except.bind]

/-- An answer is known when the option that it makes is known, which can be computed. -/
theorem toOption_eq_some {answer : Except ε α} {value : α} :
    answer.toOption = some value ↔ answer = .ok value := by
  cases answer <;> simp [Except.toOption]

theorem toOption_eq_none {answer : Except ε α} :
    answer.toOption = none ↔ ∃ fault, answer = .error fault := by
  cases answer <;> simp [Except.toOption]

theorem map_eq_ok {convert : α → β} {answer : Except ε α} {converted : β} :
    answer.map convert = .ok converted ↔ ∃ value, answer = .ok value ∧ convert value = converted := by
  cases answer <;> simp [Except.map]

theorem map_eq_error {convert : α → β} {answer : Except ε α} {fault : ε} :
    answer.map convert = .error fault ↔ answer = .error fault := by
  cases answer <;> simp [Except.map]

theorem mapError_eq_ok {convert : ε → δ} {answer : Except ε α} {value : α} :
    answer.mapError convert = .ok value ↔ answer = .ok value := by
  cases answer with
  | error fault => exact ⟨nofun, nofun⟩
  | ok given =>
      change Except.ok given = .ok value ↔ _
      rw [Except.ok.injEq, Except.ok.injEq]

theorem mapError_eq_error {convert : ε → δ} {answer : Except ε α} {converted : δ} :
    answer.mapError convert = .error converted ↔
      ∃ fault, answer = .error fault ∧ convert fault = converted := by
  cases answer with
  | error fault =>
      change Except.error (convert fault) = .error converted ↔ _
      simp only [Except.error.injEq, exists_eq_left']
  | ok given => exact ⟨nofun, fun ⟨_, failed, _⟩ => nomatch failed⟩

end Answer

end GameNight
