import GameNight.Messages.Argument
import GameNight.Number.Written
import GameNight.Program

namespace GameNight
namespace Messages

open Text Number

/-!
# Templates and their layouts

A template is filled by putting arguments, laid out as its fields ask, between its
texts.
-/

/-!
## Layouts

A field of a template may say how its argument is laid out: a filling
character and a side, what stands in front of numbers, a width, a character
between groups of digits, a precision, and a letter for the kind of text that
is wanted.  All parts may be left out, but they come in this order.

Texts are cut to the precision and filled up on the right.  Numbers are
filled up on the left; when zeros fill them up, these stand between the sign
and the digits and are grouped like digits.
-/

/-- The side on which a text is filled up. -/
inductive Side where
  | right
  | left
  | both
  | behindSign
  deriving DecidableEq, Repr

/-- What a layout asks for. -/
structure Layout where
  fill : Option Char
  side : Option Side
  sign : Option Char
  unsignedZero : Bool
  alternate : Bool
  zeros : Bool
  width : Nat
  group : Option Char
  precision : Option Nat
  kind : Option Char
  deriving DecidableEq, Repr

/-- The side that a mark stands for. -/
def side? (c : Char) : Option Side :=
  if c = '<' then some .right
  else if c = '>' then some .left
  else if c = '^' then some .both
  else if c = '=' then some .behindSign
  else none

def takeSide : List Char → (Option Char × Option Side) × List Char
  | first :: second :: rest =>
    match side? second with
    | some side => ((some first, some side), rest)
    | none =>
      match side? first with
      | some side => ((none, some side), second :: rest)
      | none => ((none, none), first :: second :: rest)
  | [first] =>
    match side? first with
    | some side => ((none, some side), [])
    | none => ((none, none), [first])
  | [] => ((none, none), [])

def takeOneOf (choices : List Char) : List Char → Option Char × List Char
  | c :: rest => if choices.contains c then (some c, rest) else (none, c :: rest)
  | [] => (none, [])

/-- Take a number off the front: its digits, and what follows. -/
def takeNumber (chars : List Char) : List Nat × List Char :=
  ((chars.takeWhile isDecimal).filterMap decimalValue?, chars.dropWhile isDecimal)

/-- Take a precision off the front, if a point announces one. -/
def takePrecision? : List Char → Option (Option Nat × List Char)
  | '.' :: rest =>
    let number := takeNumber rest
    if number.1.isEmpty then none else some (some (valueOfDigits number.1), number.2)
  | chars => some (none, chars)

/-- The letters that digits may be grouped for. -/
def groupedKinds : List Char := ['d', 'e', 'f', 'g', 'E', 'G', '%', 'F']

/-- The letters that write a number in another base. -/
def basedKinds : List Char := ['b', 'o', 'x', 'X']

/-- Whether groups are allowed for a kind; without a letter this depends on
the argument. -/
def groupAllowed (group : Option Char) (kind : Char) : Bool :=
  match group with
  | none => true
  | some mark => groupedKinds.contains kind || (mark == '_' && basedKinds.contains kind)

def Layout.read? (chars : List Char) : Option Layout :=
  let start := takeSide chars
  let sign := takeOneOf ['+', '-', ' '] start.2
  let unsignedZero := takeOneOf ['z'] sign.2
  let alternate := takeOneOf ['#'] unsignedZero.2
  let zeros := if start.1.1.isNone then takeOneOf ['0'] alternate.2 else (none, alternate.2)
  let width := takeNumber zeros.2
  let comma := takeOneOf [','] width.2
  let underscore := takeOneOf ['_'] comma.2
  match comma.1, underscore.1, underscore.2 with
  | some _, some _, _ => none
  | _, some _, ',' :: _ => none
  | _, _, rest =>
    match takePrecision? rest with
    | none => none
    | some (precision, behind) =>
      if 1 < behind.length ∨ countLimit ≤ valueOfDigits width.1 ∨
          countLimit ≤ precision.getD 0 then none
      else
        some {
          fill := start.1.1, side := start.1.2, sign := sign.1,
          unsignedZero := unsignedZero.1.isSome, alternate := alternate.1.isSome,
          zeros := zeros.1.isSome, width := valueOfDigits width.1,
          group := comma.1.or underscore.1, precision := precision, kind := behind.head? }

variable [Machine]

/-- A text that has been laid out, if there is room for its width. -/
def Layout.placed (layout : Layout) (chars : Unit → List Char) : Except FillFault String :=
  if Machine.room ≤ layout.width then .error .noRoom else .ok (String.ofList (chars ()))

def Layout.filler (layout : Layout) : Char :=
  layout.fill.getD (if layout.zeros then '0' else ' ')

/-- Fill a text up to the width on one side; behind a sign counts as left. -/
def Layout.fillUp (layout : Layout) (side : Side) (chars : List Char) : List Char :=
  let missing := layout.width - chars.length
  match side with
  | .right => chars ++ List.replicate missing layout.filler
  | .both =>
    List.replicate (missing / 2) layout.filler ++ chars ++
      List.replicate (missing - missing / 2) layout.filler
  | _ => List.replicate missing layout.filler ++ chars

/-- Lay out a text. -/
def Layout.applyText (layout : Layout) (value : String) : Except FillFault String :=
  if layout.sign.isSome ∨ layout.unsignedZero ∨ layout.alternate ∨ layout.group.isSome ∨
      layout.side = some .behindSign ∨ layout.kind.getD 's' ≠ 's' then .error .unusable
  else
    let kept := match layout.precision with
      | some count => value.toList.take count
      | none => value.toList
    layout.placed fun _ => layout.fillUp (layout.side.getD .right) kept

/-- What stands in front of a number that is negative or not. -/
def Layout.signChars (layout : Layout) (negative : Bool) : List Char :=
  if negative then ['-']
  else
    match layout.sign with
    | some '+' => ['+']
    | some ' ' => [' ']
    | _ => []

def groupDigits (size : Nat) (mark : Char) (digits : List Char) : List Char :=
  ((digits.reverse.zipIdx.flatMap fun digit =>
    if digit.2 ≠ 0 ∧ digit.2 % size = 0 then [mark, digit.1] else [digit.1])).reverse

def groupedLength (size count : Nat) : Nat :=
  count + (count - 1) / size

/-- Add zeros in front of digits until their grouped form has a length.  At
most `length` zeros are missing. -/
def zerosFor (size length count : Nat) : Nat :=
  ((List.range (length + 1)).find? fun added => length ≤ groupedLength size (count + added)).getD 0

/-- The digits of the whole part of a number, filled up with zeros to a length
and put in groups.  Where there are no digits, nothing is put in groups. -/
def Layout.groupedBody (layout : Layout) (length : Nat) (digits : List Char) : List Char :=
  let size := if basedKinds.contains (layout.kind.getD 'd') then 4 else 3
  match layout.group with
  | none => List.replicate (length - digits.length) '0' ++ digits
  | some mark =>
    if digits.isEmpty then []
    else groupDigits size mark (List.replicate (zerosFor size length digits.length) '0' ++ digits)

/-- Lay out the parts of a number: what stands in front, the digits of its
whole part, and what stands behind them. -/
def Layout.applyParts (layout : Layout) (front digits behind : List Char) : List Char :=
  let side := layout.side.getD (if layout.zeros then .behindSign else .left)
  let room := layout.width - front.length - behind.length
  let padding := if side = .behindSign ∧ layout.filler = '0' then room else 0
  let body := layout.groupedBody padding digits
  if side = .behindSign then
    front ++ List.replicate (room - body.length) layout.filler ++ body ++ behind
  else layout.fillUp side (front ++ body ++ behind)

def basedDigits (base value : Nat) : List Char :=
  Nat.toDigits base value

/-- Lay out a number as a character. -/
def Layout.applyCharacter (layout : Layout) (value : Int) : Except FillFault String :=
  if layout.sign.isSome ∨ layout.alternate ∨ layout.group.isSome then .error .unusable
  else if value < -(countLimit : Int) ∨ (countLimit : Int) ≤ value then .error .tooLargeForCharacter
  else if value < 0 ∨ 0x110000 ≤ value then .error .noCharacter
  else layout.placed fun _ => layout.applyParts [] [Char.ofNat value.toNat] []

/-- The mark of a base, and the digits in it. -/
def basedParts (kind : Char) (magnitude : Nat) : List Char × List Char :=
  if kind = 'b' then (['0', 'b'], basedDigits 2 magnitude)
  else if kind = 'o' then (['0', 'o'], basedDigits 8 magnitude)
  else if kind = 'X' then (['0', 'X'], (basedDigits 16 magnitude).map Char.toUpper)
  else (['0', 'x'], basedDigits 16 magnitude)

/-- Lay out a number in whole digits. -/
def Layout.applyWhole (layout : Layout) (kind : Char) (value : Int) : Except FillFault String :=
  if layout.precision.isSome ∨ layout.unsignedZero ∨ !groupAllowed layout.group kind then
    .error .unusable
  else
    let sign := layout.signChars (value < 0)
    if kind = 'c' then layout.applyCharacter value
    else if basedKinds.contains kind then
      let parts := basedParts kind value.natAbs
      layout.placed fun _ =>
        layout.applyParts (sign ++ if layout.alternate then parts.1 else []) parts.2 []
    else
      match writeInteger value with
      | .error .tooLong => .error .unusable
      | .ok _ => layout.placed fun _ => layout.applyParts sign (naturalChars value.natAbs) []

/-- Cut the characters of a magnitude into the digits of its whole part and
the rest. -/
def cutWhole (chars : List Char) : List Char × List Char :=
  (chars.takeWhile isDecimal, chars.dropWhile isDecimal)

def measuredChars (kind : Char) (alternate : Bool) (precision units : Nat) : List Char :=
  if kind = 'f' ∨ kind = 'F' ∨ kind = '%' then
    magnitudeChars precision units ++
      if alternate ∧ precision = 0 then ['.'] else []
  else if kind = 'e' ∨ kind = 'E' then exponentChars alternate precision units
  else generalChars alternate precision units

/-- The first precision that is too large for a number that is not written in
whole digits. -/
def precisionLimit : Nat := twoTo 31

/-- Lay out a double. -/
def Layout.applyDouble (layout : Layout) (kind : Char) (value : Double) :
    Except FillFault String :=
  let percent := if kind = '%' then ['%'] else []
  match value with
  | .nan => .error .unusable
  | .infinite negative =>
    let word := if kind.isUpper then ['I', 'N', 'F'] else ['i', 'n', 'f']
    layout.placed fun _ => layout.applyParts (layout.signChars negative) [] (word ++ percent)
  | .finite negative units _ =>
    layout.placed fun _ =>
      let written := measuredChars kind layout.alternate (layout.precision.getD 6) units
      let cut := cutWhole (if kind.isUpper then written.map Char.toUpper else written)
      layout.applyParts (layout.signChars negative) cut.1 (cut.2 ++ percent)

/-- Lay out a number by way of the nearest double. -/
def Layout.applyMeasured (layout : Layout) (kind : Char) (value : Int) : Except FillFault String :=
  (Double.ofInteger? value).elim (.error .tooLargeForDouble) fun double =>
    if precisionLimit ≤ layout.precision.getD 0 then .error .unusable
    else layout.applyDouble kind (if kind = '%' then double.hundredfold else double)

/-- The letters that write a number by way of the nearest double. -/
def measuredKinds : List Char := ['e', 'E', 'f', 'F', 'g', 'G', '%']

/-- The letters that write a number in whole digits. -/
def wholeKinds : List Char := ['d', 'n', 'b', 'o', 'x', 'X', 'c']

/-- Lay out a number. -/
def Layout.applyNumber (layout : Layout) (value : Int) : Except FillFault String :=
  let kind := layout.kind.getD 'd'
  if wholeKinds.contains kind then layout.applyWhole kind value
  else if measuredKinds.contains kind then layout.applyMeasured kind value
  else .error .unusable

/-- Lay out a value; an empty layout leaves it as it is.  Only texts, numbers
and truth values have other layouts; a truth value is laid out as a number. -/
def layOutArgument (value : Argument) (layout : List Char) : Except FillFault String :=
  if layout.isEmpty then value.display
  else
    match value, Layout.read? layout with
    | .text _, none => .error .unusable
    | .number _, none => .error .unusable
    | .truth _, none => .error .unusable
    | .text text, some layout => layout.applyText text
    | .number whole, some layout => layout.applyNumber whole
    | .truth holds, some layout => layout.applyNumber (if holds then 1 else 0)
    | _, _ => .error (.noLayout value)

/-!
## Templates

A template is text with fields between braces; a brace that is text is
written twice.  A field names an argument, may go on to a part or an item of
it, may ask for a conversion, and may give a layout, which may hold fields of
its own.

`Piece.ofChars` reads a template into pieces, and `fill` puts the arguments
in their places.  Pieces are filled from left to right, so that the first
fault counts; a template whose brackets do not match is broken from the point
where this shows.
-/

/-- A field of a template. -/
structure TemplateField where
  name : List Char
  conversion : Option Char
  layout : List Char
  nested : Bool
  deriving DecidableEq, Repr

/-- One piece of a template. -/
inductive Piece where
  | literal (c : Char)
  | field (value : TemplateField)
  | broken
  deriving DecidableEq, Repr

/-- Take the name of a field: the name, the mark that ends it, and what
follows.  Marks between square brackets belong to the name. -/
def takeName? (inBrackets : Bool) (done : List Char) :
    List Char → Option (List Char × Char × List Char)
  | [] => none
  | c :: rest =>
    if inBrackets then takeName? (c != ']') (c :: done) rest
    else if c = '\x7b' then none
    else if c = '[' then takeName? true (c :: done) rest
    else if c = '\x7d' ∨ c = ':' ∨ c = '!' then some (done.reverse, c, rest)
    else takeName? false (c :: done) rest

/-- Take the layout of a field up to the brace that closes the field: the
layout, whether it holds fields, and what follows. -/
def takeLayout? (depth : Nat) (nested : Bool) (done : List Char) :
    List Char → Option (List Char × Bool × List Char)
  | [] => none
  | c :: rest =>
    if c = '\x7b' then takeLayout? (depth + 1) true (c :: done) rest
    else if c = '\x7d' then
      match depth with
      | 0 => some (done.reverse, nested, rest)
      | outer + 1 => takeLayout? outer nested (c :: done) rest
    else takeLayout? depth nested (c :: done) rest

def takeLaidOut? (name : List Char) (conversion : Option Char) (chars : List Char) :
    Option (TemplateField × List Char) :=
  (takeLayout? 0 false [] chars).map fun taken =>
    (⟨name, conversion, taken.1, taken.2.1⟩, taken.2.2)

def takeField? (chars : List Char) : Option (TemplateField × List Char) :=
  match takeName? false [] chars with
  | none => none
  | some (name, mark, rest) =>
    if mark = '\x7d' then some (⟨name, none, [], false⟩, rest)
    else if mark = ':' then takeLaidOut? name none rest
    else
      match rest with
      | conversion :: '\x7d' :: behind => some (⟨name, some conversion, [], false⟩, behind)
      | conversion :: ':' :: behind => takeLaidOut? name (some conversion) behind
      | _ => none

/-- Read the pieces of a template.  Every step consumes a character, so the
length of the template is fuel enough. -/
def Piece.read : Nat → List Char → List Piece
  | 0, _ => []
  | _ + 1, [] => []
  | fuel + 1, c :: rest =>
    if c = '\x7b' then
      match rest with
      | '\x7b' :: behind => .literal '\x7b' :: Piece.read fuel behind
      | _ =>
        match takeField? rest with
        | some (taken, behind) => .field taken :: Piece.read fuel behind
        | none => [.broken]
    else if c = '\x7d' then
      match rest with
      | '\x7d' :: behind => .literal '\x7d' :: Piece.read fuel behind
      | _ => [.broken]
    else .literal c :: Piece.read fuel rest

def Piece.ofChars (chars : List Char) : List Piece :=
  Piece.read chars.length chars

def startsStep (c : Char) : Bool :=
  c == '.' || c == '['

/-- Follow the steps of a name from an argument to its parts and items.
Every step consumes a character. -/
def follow (argument : Argument) : Nat → List Char → Except FillFault Argument
  | 0, _ => .ok argument
  | _ + 1, [] => .ok argument
  | fuel + 1, c :: rest =>
    if c = '.' then
      let part := rest.takeWhile fun c => !startsStep c
      if part.isEmpty then .error .unusable
      else
        match argument.part (String.ofList part) with
        | .error fault => .error fault
        | .ok reached => follow reached fuel (rest.drop part.length)
    else if c = '[' then
      let mark := rest.takeWhile (· != ']')
      match mark, rest.drop mark.length with
      | [], _ => .error .unusable
      | _, [] => .error .unusable
      | _, _ :: behind =>
        match argument.item mark with
        | .error fault => .error fault
        | .ok reached => follow reached fuel behind
    else .error .unusable

/-- Find what a name leads to.  Names that are empty or numbers would stand
for arguments without names, of which there are none. -/
def resolve (arguments : Arguments) (name : List Char) : Except FillFault Argument :=
  let first := name.takeWhile fun c => !startsStep c
  match markedNumber 0 first with
  | .ok none =>
    match arguments.lookup (String.ofList first) with
    | none => .error .unusable
    | some argument => follow argument name.length (name.drop first.length)
  | _ => .error .unusable

def fillField (arguments : Arguments) (fillLayout : List Char → Except FillFault (List Char))
    (field : TemplateField) : Except FillFault String :=
  match resolve arguments field.name with
  | .error fault => .error fault
  | .ok argument =>
    match field.conversion.elim (.ok argument) argument.convert with
    | .error fault => .error fault
    | .ok converted =>
      match if field.nested then fillLayout field.layout else .ok field.layout with
      | .error fault => .error fault
      | .ok layout => layOutArgument converted layout

def fillPieces (arguments : Arguments) (fillLayout : List Char → Except FillFault (List Char)) :
    List Piece → Except FillFault (List Char)
  | [] => .ok []
  | .literal c :: rest => (fillPieces arguments fillLayout rest).map fun tail => c :: tail
  | .field field :: rest =>
    match fillField arguments fillLayout field with
    | .error fault => .error fault
    | .ok text => (fillPieces arguments fillLayout rest).map fun tail => text.toList ++ tail
  | .broken :: _ => .error .unusable

/-- Fill a template whose layouts may nest to a depth. -/
def fillTo (arguments : Arguments) : Nat → List Char → Except FillFault (List Char)
  | 0, _ => .error .unusable
  | depth + 1, chars => fillPieces arguments (fillTo arguments depth) (Piece.ofChars chars)

/-- Fill a template; the layout of a field may hold fields, and theirs may not. -/
def fill (template : String) (arguments : Arguments) : Except FillFault String :=
  (fillTo arguments 2 template.toList).map String.ofList

/-- Fill a template, or leave it as it is when the arguments do not suit it. -/
def fillOrKeep (template : String) (arguments : Arguments) : Except FillFault String :=
  match fill template arguments with
  | .error .unusable => .ok template
  | outcome => outcome

end Messages
end GameNight
