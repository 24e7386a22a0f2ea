import GameNight.Program
import GameNight.Text.Line
import GameNight.Text.Quoted

namespace GameNight
namespace Files

open Text

/-!
# Paths and files

A session works on files that are found by paths.
-/

/-!
## Paths

A path is a sequence of names, relative to the working directory or to one of
the two roots.  Empty names and single dots are dropped when a path is read;
a double dot is kept, because what it leads to depends on the files.
-/

/-- Where a path starts.  Exactly two leading slashes make a root of their own. -/
inductive Root where
  | working
  | slash
  | doubleSlash
  deriving DecidableEq, Repr

/-- A path in its shortest spelling. -/
structure Path where
  root : Root
  parts : List String
  deriving DecidableEq, Repr

namespace Path

/-- The root that a spelling starts with. -/
def rootOf : List Char → Root
  | '/' :: '/' :: '/' :: _ => .slash
  | '/' :: '/' :: _ => .doubleSlash
  | '/' :: _ => .slash
  | _ => .working

def ofString (text : String) : Path where
  root := rootOf text.toList
  parts := ((splitOn '/' text.toList).filter fun name => name != [] && name != ['.']).map String.ofList

def rootText : Root → String
  | .working => ""
  | .slash => "/"
  | .doubleSlash => "//"

/-- The spelling of a path; the working directory itself is a dot. -/
def text (path : Path) : String :=
  if path.root = .working ∧ path.parts = [] then "."
  else rootText path.root ++ joinWith "/" path.parts

/-- The path without its last name.  A path without names is its own parent. -/
def parent (path : Path) : Path :=
  { path with parts := path.parts.dropLast }

/-- Follow a second path from the end of a first; a rooted path starts anew. -/
def followedBy (path next : Path) : Path :=
  if next.root = .working then { path with parts := path.parts ++ next.parts } else next

/-- Whether a name holds the NUL character, which no file system accepts. -/
def holdsNul (path : Path) : Bool :=
  path.parts.any fun name => name.toList.contains (Char.ofNat 0)

end Path

/-!
## The files of a session

A store holds the files and directories that a session works on.  Its entries
are found by location: the working directory, a directory above it or the
root, and the names that lead down from there.  Starting points always exist.

Every operation says how it failed.  Making directories may fail after some
of them have been made, so it returns the store in both cases; how far it goes
at once is bounded by the machine.
-/

/-- A directory that locations start from: one some levels above the working
directory, or the root. -/
inductive Anchor where
  | above (levels : Nat)
  | top
  deriving DecidableEq, Repr

/-- A place for a file or directory. -/
structure Location where
  anchor : Anchor
  names : List String
  deriving DecidableEq, Repr

/-- What stands at a location. -/
inductive Entry where
  | file (bytes : ByteArray)
  | directory

/-- The files and directories below the starting points. -/
structure Store where
  entries : List (Location × Entry)

/-- Why an operation was refused. -/
inductive Refusal where
  | missing
  | exists
  | notDirectory
  | isDirectory
  | nameTooLong
  deriving DecidableEq, Repr

/-- Why an operation failed: the store refused it, or the path is no path. -/
inductive Fault where
  | refused (refusal : Refusal)
  | embeddedNul
  deriving DecidableEq, Repr

def Refusal.wording : Refusal → String
  | .missing => "[Errno 2] No such file or directory"
  | .exists => "[Errno 17] File exists"
  | .notDirectory => "[Errno 20] Not a directory"
  | .isDirectory => "[Errno 21] Is a directory"
  | .nameTooLong => "[Errno 36] File name too long"

def Refusal.message (refusal : Refusal) (path : Path) : String :=
  refusal.wording ++ ": " ++ quoted path.text

/-- The wording of a path that is no path. -/
def embeddedNulMessage : String := "embedded null byte"

/-- Why a file could not be made ready for writing: the store refused a path,
or the path is no path, or too many directories would have to be made. -/
inductive TargetFault where
  | refused (refusal : Refusal) (path : Path)
  | embeddedNul
  | tooDeep
  deriving DecidableEq, Repr

def TargetFault.ofFault (path : Path) : Fault → TargetFault
  | .refused refusal => .refused refusal path
  | .embeddedNul => .embeddedNul

def TargetFault.message : TargetFault → String
  | .refused refusal path => refusal.message path
  | .embeddedNul => embeddedNulMessage
  | .tooDeep => "maximum recursion depth exceeded while calling a Python object"

/-- The wording of a value that is not a path at all. -/
def notAPathMessage (kind : String) : String :=
  "expected str, bytes or os.PathLike object, not " ++ kind

/-- The longest name, in bytes. -/
def nameLimit : Nat := 255

/-- The first length, in bytes, at which a whole path is too long. -/
def pathLimit : Nat := 4096

namespace Location

/-- The directory that a root stands for. -/
def ofRoot : Root → Location
  | .working => ⟨.above 0, []⟩
  | _ => ⟨.top, []⟩

/-- One name further down. -/
def child (location : Location) (name : String) : Location :=
  { location with names := location.names ++ [name] }

/-- One level up.  The root is its own parent. -/
def up (location : Location) : Location :=
  match location.names, location.anchor with
  | [], .above levels => ⟨.above (levels + 1), []⟩
  | [], .top => location
  | names, _ => { location with names := names.dropLast }

end Location

namespace Store

/-- A store without files. -/
def empty : Store := ⟨[]⟩

def entry? (store : Store) (location : Location) : Option Entry :=
  if location.names = [] then some .directory
  else (store.entries.find? fun held => held.1 = location).map (·.2)

def put (store : Store) (location : Location) (entry : Entry) : Store :=
  if store.entries.any fun held => held.1 = location then
    ⟨store.entries.map fun held => if held.1 = location then (location, entry) else held⟩
  else ⟨store.entries ++ [(location, entry)]⟩

/-- Walk along names from a location.  Every location that is left by a name
must be a directory; the last one may be missing. -/
def walk (store : Store) (location : Location) : List String → Except Refusal Location
  | [] => .ok location
  | name :: rest =>
    match store.entry? location with
    | none => .error .missing
    | some (.file _) => .error .notDirectory
    | some .directory =>
      if name = ".." then store.walk location.up rest
      else if nameLimit < name.utf8ByteSize then .error .nameTooLong
      else store.walk (location.child name) rest

/-- The location that a path leads to. -/
def locate (store : Store) (path : Path) : Except Fault Location :=
  if path.holdsNul then .error .embeddedNul
  else if pathLimit ≤ path.text.utf8ByteSize then .error (.refused .nameTooLong)
  else (store.walk (.ofRoot path.root) path.parts).mapError .refused

def read (store : Store) (path : Path) : Except Fault ByteArray :=
  match store.locate path with
  | .error fault => .error fault
  | .ok location =>
    match store.entry? location with
    | none => .error (.refused .missing)
    | some .directory => .error (.refused .isDirectory)
    | some (.file bytes) => .ok bytes

/-- What a path leads to.  A path that leads nowhere is no failure; only a
name that is too long is. -/
def status (store : Store) (path : Path) : Except Refusal (Option Entry) :=
  match store.locate path with
  | .error (.refused .nameTooLong) => .error .nameTooLong
  | .error _ => .ok none
  | .ok location => .ok (store.entry? location)

def isDirectory (store : Store) (path : Path) : Except Refusal Bool :=
  (store.status path).map fun
    | some .directory => true
    | _ => false

/-- Make a directory at the location that a path leads to; it may exist. -/
def makeAt (store : Store) (path : Path) (location : Location) :
    Except TargetFault Location × Store :=
  match store.entry? location with
  | some .directory => (.ok location, store)
  | some (.file _) => (.error (.refused .exists path), store)
  | none => (.ok location, store.put location .directory)

/-- Make a directory under a name in a directory that exists. -/
def makeBelow (store : Store) (path : Path) (parent : Location) (name : String) :
    Except TargetFault Location × Store :=
  if name = ".." then store.makeAt path parent.up
  else if nameLimit < name.utf8ByteSize then (.error (.refused .nameTooLong path), store)
  else store.makeAt path (parent.child name)

/-- Make a directory below `root` and those above it that are missing, but no
more than a number of levels.  The names are given from the last to the first.
Where this succeeds, the location of the directory is told. -/
def makeDirectoriesFrom (root : Root) (store : Store) :
    Nat → List String → Except TargetFault Location × Store
  | 0, _ => (.error .tooDeep, store)
  | _ + 1, [] => (.ok (.ofRoot root), store)
  | levels + 1, name :: above =>
    let path : Path := ⟨root, (name :: above).reverse⟩
    match store.locate path with
    | .ok location => store.makeAt path location
    | .error (.refused .missing) =>
      match makeDirectoriesFrom root store levels above with
      | (.error fault, partly) => (.error fault, partly)
      | (.ok parent, prepared) => prepared.makeBelow path parent name
    | .error fault => (.error (.ofFault path fault), store)

/-- Make a directory and those above it that are missing; it may exist. -/
def makeDirectories [Machine] (store : Store) (path : Path) : Except TargetFault Location × Store :=
  makeDirectoriesFrom path.root store Machine.directories path.parts.reverse

def fileLocation (store : Store) (path : Path) : Except Fault Location :=
  match store.locate path with
  | .error fault => .error fault
  | .ok location =>
    match store.entry? location with
    | some .directory => .error (.refused .isDirectory)
    | _ => .ok location

/-- Write a file, in place of one that is there. -/
def write (store : Store) (path : Path) (bytes : ByteArray) : Except Fault Store :=
  (store.fileLocation path).map fun location => store.put location (.file bytes)

/-- Add to the end of a file, which is made if it is missing. -/
def append (store : Store) (path : Path) (bytes : ByteArray) : Except Fault Store :=
  (store.fileLocation path).map fun location =>
    match store.entry? location with
    | some (.file held) => store.put location (.file (held ++ bytes))
    | _ => store.put location (.file bytes)

/-- The names of the entries of a directory. -/
def namesIn (store : Store) (location : Location) : List String :=
  store.entries.filterMap fun held =>
    match held.1.names.getLast? with
    | some name => if location.child name = held.1 then some name else none
    | none => none

/-- The entries below the working directory, with the names that lead to them. -/
def workingEntries (store : Store) : List (List String × Entry) :=
  store.entries.filterMap fun held =>
    if held.1.anchor = .above 0 then some (held.1.names, held.2) else none

end Store

end Files
end GameNight
