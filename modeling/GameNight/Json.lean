import GameNight.Number.Decimal
import GameNight.Number.Written
import GameNight.Program
import GameNight.Text.Line
import GameNight.Text.Quoted

namespace GameNight

open Text Number

/-!
# JSON

Settings and messages are kept in JSON, which is read here and shown in messages.
-/

/-!
## JSON values

Whole numbers are exact and apart from doubles, and an object is a list of
members in the order in which their names first occurred.

`display` is how a value reads when it is put into a message.
-/

/-- A JSON value. -/
inductive Json where
  | null
  | bool (value : Bool)
  | integer (value : Int)
  | double (value : Double)
  | text (value : String)
  | list (items : List Json)
  | object (members : List (String × Json))
  deriving Inhabited

namespace Json

/-- The members of an object. -/
abbrev Members := List (String × Json)

def member? (members : Members) (name : String) : Option Json :=
  members.lookup name

def putMember (members : Members) (name : String) (value : Json) : Members :=
  match members with
  | [] => [(name, value)]
  | held :: rest =>
    if held.1 = name then (name, value) :: rest else held :: putMember rest name value

mutual

def inner : Json → String
  | .null => "None"
  | .bool value => if value then "True" else "False"
  | .integer value => integerText value
  | .double value => shortestText value
  | .text value => quoted value
  | .list items => "[" ++ joinWith ", " (innerItems items) ++ "]"
  | .object members => "\x7b" ++ joinWith ", " (innerMembers members) ++ "\x7d"

def innerItems : List Json → List String
  | [] => []
  | item :: rest => inner item :: innerItems rest

/-- The members of an object as they read inside it. -/
def innerMembers : List (String × Json) → List String
  | [] => []
  | (name, value) :: rest => (quoted name ++ ": " ++ inner value) :: innerMembers rest

end

/-- A value as it reads in a message: a text stands for itself. -/
def display : Json → String
  | .text value => value
  | value => inner value

/-- Whether a value counts as given: empty texts, lists and objects, zeros,
falsehood and nothing do not. -/
def isGiven : Json → Bool
  | .null => false
  | .bool value => value
  | .integer value => value ≠ 0
  | .double value => !value.equals .zero
  | .text value => value ≠ ""
  | .list items => !items.isEmpty
  | .object members => !members.isEmpty

def kindWord : Json → String
  | .null => "NoneType"
  | .bool _ => "bool"
  | .integer _ => "int"
  | .double _ => "float"
  | .text _ => "str"
  | .list _ => "list"
  | .object _ => "dict"

/-!
## Reading JSON

A reader walks over a text with a cursor, which knows the position of the
next character.  It takes the standard grammar and the three words for
numbers that digits cannot write.  Of several members with one name the last
value counts, at the place of the first.

A fault says what was expected and where; its wording gives line, column and
position.  A whole number with too many digits is a fault of its own kind, and
so are lists and objects that stand deeper inside one another than the machine
allows.

Every nested value takes two steps and consumes a character, so twice the
length of the text bounds the depth of the recursion.
-/

/-- What a reader expected or refused. -/
inductive SyntaxFault where
  | byteOrderMark
  | value
  | name
  | colon
  | comma
  | extraData
  | unterminatedText
  | controlCharacter
  | escape
  | codeEscape
  deriving DecidableEq, Repr

/-- A value that holds other values. -/
inductive Container where
  | list
  | object
  deriving DecidableEq, Repr

/-- Why a text could not be read: a fault of syntax at a position, a number
with too many digits, or a container inside too many others. -/
inductive Fault where
  | syntaxAt (fault : SyntaxFault) (position : Nat)
  | tooManyDigits (digits : Nat)
  | tooDeep (container : Container)
  deriving DecidableEq, Repr

def SyntaxFault.message : SyntaxFault → String
  | .byteOrderMark => "Unexpected UTF-8 BOM (decode using utf-8-sig)"
  | .value => "Expecting value"
  | .name => "Expecting property name enclosed in double quotes"
  | .colon => "Expecting ':' delimiter"
  | .comma => "Expecting ',' delimiter"
  | .extraData => "Extra data"
  | .unterminatedText => "Unterminated string starting at"
  | .controlCharacter => "Invalid control character at"
  | .escape => "Invalid \\escape"
  | .codeEscape => "Invalid \\uXXXX escape"

def SyntaxFault.messageAt (fault : SyntaxFault) (position : Nat) (chars : List Char) : String :=
  let before := chars.take position
  let line := before.count '\n' + 1
  let column := (before.reverse.takeWhile (· != '\n')).length + 1
  fault.message ++ ": line " ++ naturalText line ++ " column " ++ naturalText column ++
    " (char " ++ naturalText position ++ ")"

def Container.tooDeepMessage (container : Container) : String :=
  let word := match container with
    | .list => "array"
    | .object => "object"
  "maximum recursion depth exceeded while decoding a JSON " ++ word ++ " from a unicode string"

/-- A place in a text: the position of the next character, and the characters
from there on. -/
structure Cursor where
  position : Nat
  rest : List Char

namespace Cursor

/-- Go past some characters. -/
def advance (cursor : Cursor) (count : Nat) : Cursor :=
  ⟨cursor.position + count, cursor.rest.drop count⟩

/-- The characters that may stand between the parts of a value. -/
def isSpace (c : Char) : Bool :=
  c == ' ' || c == '\t' || c == '\n' || c == '\r'

def skipSpace (cursor : Cursor) : Cursor :=
  cursor.advance (cursor.rest.takeWhile isSpace).length

end Cursor

/-- A reader gives a value and the cursor behind it. -/
abbrev Read (α : Type) := Except Fault (α × Cursor)

/-- The value of a hexadecimal digit. -/
def hexValue? (c : Char) : Option Nat :=
  if '0' ≤ c ∧ c ≤ '9' then some (c.toNat - 0x30)
  else if 'a' ≤ c ∧ c ≤ 'f' then some (c.toNat - 0x57)
  else if 'A' ≤ c ∧ c ≤ 'F' then some (c.toNat - 0x37)
  else none

/-- The value of the four hexadecimal digits at the front.  A further
character must follow them. -/
def fourHexDigits? : List Char → Option Nat
  | a :: b :: c :: d :: _ :: _ =>
    match hexValue? a, hexValue? b, hexValue? c, hexValue? d with
    | some a, some b, some c, some d => some (((a * 16 + b) * 16 + c) * 16 + d)
    | _, _, _, _ => none
  | _ => none

/-- The character that a letter behind a backslash stands for. -/
def escapedChar? (c : Char) : Option Char :=
  if c = '\x22' ∨ c = '\\' ∨ c = '/' then some c
  else if c = 'b' then some (Char.ofNat 8)
  else if c = 'f' then some (Char.ofNat 12)
  else if c = 'n' then some '\n'
  else if c = 'r' then some '\r'
  else if c = 't' then some '\t'
  else none

def isHighHalf (code : Nat) : Bool := 0xD800 ≤ code && code < 0xDC00

def isLowHalf (code : Nat) : Bool := 0xDC00 ≤ code && code < 0xE000

def joinHalves (high low : Nat) : Char :=
  Char.ofNat (0x10000 + (high - 0xD800) * 0x400 + (low - 0xDC00))

/-- The character of a code.  A text of this library is made of characters, and half
of a pair is none: where it is escaped without its partner it is read as U+FFFD, so
that texts which keep such halves are not told apart from those that hold this
character. -/
def charOfCode (code : Nat) : Char :=
  if 0xD800 ≤ code ∧ code < 0xE000 then Char.ofNat 0xFFFD else Char.ofNat code

/-- Read an escape by code, with the cursor behind the backslash and the
letter: the character and the number of characters consumed. -/
def readCodeEscape (cursor : Cursor) : Except Fault (Char × Nat) :=
  match fourHexDigits? cursor.rest with
  | none => .error (.syntaxAt .codeEscape (cursor.position - 1))
  | some code =>
    match isHighHalf code, cursor.rest.drop 4 with
    | true, '\\' :: 'u' :: low =>
      if low.length ≤ 4 then .ok (charOfCode code, 4)
      else
        match fourHexDigits? low with
        | none => .error (.syntaxAt .codeEscape (cursor.position + 5))
        | some second =>
          if isLowHalf second then .ok (joinHalves code second, 10) else .ok (charOfCode code, 4)
    | _, _ => .ok (charOfCode code, 4)

/-- Read the characters of a text up to its closing quote.  `start` is the
position of the opening quote and `done` holds what was read, reversed. -/
def readTextFrom (start : Nat) (done : List Char) : Nat → Cursor → Read String
  | 0, _ => .error (.syntaxAt .unterminatedText start)
  | fuel + 1, cursor =>
    match cursor.rest with
    | [] => .error (.syntaxAt .unterminatedText start)
    | '\x22' :: _ => .ok (String.ofList done.reverse, cursor.advance 1)
    | '\\' :: [] => .error (.syntaxAt .unterminatedText start)
    | '\\' :: 'u' :: _ =>
      match readCodeEscape (cursor.advance 2) with
      | .error fault => .error fault
      | .ok (c, count) => readTextFrom start (c :: done) fuel (cursor.advance (2 + count))
    | '\\' :: letter :: _ =>
      match escapedChar? letter with
      | none => .error (.syntaxAt .escape cursor.position)
      | some c => readTextFrom start (c :: done) fuel (cursor.advance 2)
    | c :: _ =>
      if c.toNat < 32 then .error (.syntaxAt .controlCharacter cursor.position)
      else readTextFrom start (c :: done) fuel (cursor.advance 1)

def readText (cursor : Cursor) : Read String :=
  readTextFrom cursor.position [] (cursor.rest.length + 1) (cursor.advance 1)

def isBasicDigit (c : Char) : Bool := '0' ≤ c && c ≤ '9'

/-- The characters of the whole part of a number: a zero, or digits that start
with another one. -/
def wholePart : List Char → List Char
  | '0' :: _ => ['0']
  | chars => chars.takeWhile isBasicDigit

def fractionPart : List Char → List Char
  | '.' :: rest =>
    match rest.takeWhile isBasicDigit with
    | [] => []
    | digits => '.' :: digits
  | _ => []

def exponentPart : List Char → List Char
  | e :: rest =>
    if e = 'e' ∨ e = 'E' then
      let sign := match rest with
        | '+' :: _ => ['+']
        | '-' :: _ => ['-']
        | _ => []
      match (rest.drop sign.length).takeWhile isBasicDigit with
      | [] => []
      | digits => e :: sign ++ digits
    else []
  | [] => []

def readNumber (cursor : Cursor) : Read Json :=
  let sign := match cursor.rest with
    | '-' :: _ => ['-']
    | _ => []
  let unsigned := cursor.rest.drop sign.length
  let whole := wholePart unsigned
  if whole.isEmpty then .error (.syntaxAt .value cursor.position)
  else
    let fraction := fractionPart (unsigned.drop whole.length)
    let exponent := exponentPart (unsigned.drop (whole.length + fraction.length))
    let chars := sign ++ whole ++ fraction ++ exponent
    let behind := cursor.advance chars.length
    if fraction.isEmpty ∧ exponent.isEmpty then
      match readInteger chars with
      | .ok value => .ok (.integer value, behind)
      | .error (.tooLong digits) => .error (.tooManyDigits digits)
      | .error .malformed => .error (.syntaxAt .value cursor.position)
    else
      match readDouble? chars with
      | some value => .ok (.double value, behind)
      | none => .error (.syntaxAt .value cursor.position)

def wordValues : List (List Char × Json) :=
  [("null".toList, .null), ("true".toList, .bool true), ("false".toList, .bool false),
   ("NaN".toList, .double .nan), ("Infinity".toList, .double (.infinite false)),
   ("-Infinity".toList, .double (.infinite true))]

def wordValue? (chars : List Char) : Option (Json × Nat) :=
  (wordValues.find? fun word => word.1.isPrefixOf chars).map fun word => (word.2, word.1.length)

mutual

def readValue (levels : Nat) : Nat → Cursor → Read Json
  | 0, cursor => .error (.syntaxAt .value cursor.position)
  | fuel + 1, cursor =>
    match cursor.rest with
    | [] => .error (.syntaxAt .value cursor.position)
    | '\x22' :: _ =>
      match readText cursor with
      | .error fault => .error fault
      | .ok (written, behind) => .ok (.text written, behind)
    | '\x7b' :: _ =>
      match levels with
      | 0 => .error (.tooDeep .object)
      | inner + 1 =>
        let inside := (cursor.advance 1).skipSpace
        match inside.rest with
        | '\x7d' :: _ => .ok (.object [], inside.advance 1)
        | _ => readMembers inner [] fuel inside
    | '[' :: _ =>
      match levels with
      | 0 => .error (.tooDeep .list)
      | inner + 1 =>
        let inside := (cursor.advance 1).skipSpace
        match inside.rest with
        | ']' :: _ => .ok (.list [], inside.advance 1)
        | _ => readItems inner [] fuel inside
    | chars =>
      match wordValue? chars with
      | some (value, length) => .ok (value, cursor.advance length)
      | none => readNumber cursor

/-- Read the members of an object, of which `done` have been read. -/
def readMembers (levels : Nat) (done : Members) : Nat → Cursor → Read Json
  | 0, cursor => .error (.syntaxAt .name cursor.position)
  | fuel + 1, cursor =>
    match cursor.rest with
    | '\x22' :: _ =>
      match readText cursor with
      | .error fault => .error fault
      | .ok (name, behindName) =>
        let atColon := behindName.skipSpace
        match atColon.rest with
        | ':' :: _ =>
          match readValue levels fuel (atColon.advance 1).skipSpace with
          | .error fault => .error fault
          | .ok (value, behindValue) =>
            let members := putMember done name value
            let atEnd := behindValue.skipSpace
            match atEnd.rest with
            | '\x7d' :: _ => .ok (.object members, atEnd.advance 1)
            | ',' :: _ => readMembers levels members fuel (atEnd.advance 1).skipSpace
            | _ => .error (.syntaxAt .comma atEnd.position)
        | _ => .error (.syntaxAt .colon atColon.position)
    | _ => .error (.syntaxAt .name cursor.position)

/-- Read the items of a list, of which `done` have been read, the last first. -/
def readItems (levels : Nat) (done : List Json) : Nat → Cursor → Read Json
  | 0, cursor => .error (.syntaxAt .value cursor.position)
  | fuel + 1, cursor =>
    match readValue levels fuel cursor with
    | .error fault => .error fault
    | .ok (item, behind) =>
      let atEnd := behind.skipSpace
      match atEnd.rest with
      | ']' :: _ => .ok (.list (item :: done).reverse, atEnd.advance 1)
      | ',' :: _ => readItems levels (item :: done) fuel (atEnd.advance 1).skipSpace
      | _ => .error (.syntaxAt .comma atEnd.position)

end

/-- Read a whole text. -/
def read [Machine] (chars : List Char) : Except Fault Json :=
  match chars with
  | [] => .error (.syntaxAt .value 0)
  | first :: _ =>
    if first.toNat = 0xFEFF then .error (.syntaxAt .byteOrderMark 0)
    else
      match readValue Machine.nesting (2 * chars.length + 2) (Cursor.mk 0 chars).skipSpace with
      | .error fault => .error fault
      | .ok (value, behind) =>
        let atEnd := behind.skipSpace
        if atEnd.rest.isEmpty then .ok value else .error (.syntaxAt .extraData atEnd.position)

end Json

end GameNight
