import GameNight.Messages.Repertoire
import GameNight.Number.Decimal
import GameNight.Text.Quoted

namespace GameNight
namespace Messages

open Text Number

/-!
# Arguments and their parts

A template is filled with arguments.  Each of them can be displayed, and asked for its
parts and items.
-/

/-!
## Arguments of messages

A message is filled with named arguments, which are texts or whole numbers.
From an argument a template may go on to its parts and items, and so come to
values of other kinds.

Filling may fail in two ways.  A template that cannot be used with the given
arguments is left as it is by whoever asked for the message.  A template that
asks a value for a part or an item which it does not have is a fault that is
passed on, and so is a value that does not fit the form asked for.

Every value can be displayed as it is read by people, and inscribed so that
its sort can be seen.
-/

/-- What a template puts between brackets to ask for an item: a number or a
word. -/
inductive Mark where
  | number (value : Nat)
  | word (value : String)
  deriving DecidableEq, Repr

/-- A value that is put into a message: an argument, or what a template
reaches from one.  An ability is loose where a kind was asked for it, and
bound where one of the values was.  A kind that is asked for an item gives
itself, marked with what it was asked for.  The only table that is reached is
empty; an overview shows the abilities that a kind provides itself. -/
inductive Argument where
  | text (value : String)
  | number (value : Int)
  | truth (value : Bool)
  | nothing
  | kind (value : Kind)
  | markedKind (value : Kind) (mark : Mark)
  | kinds (values : List Kind)
  | marks (values : List Mark)
  | emptyTable
  | overview (shown : Kind)
  | loose (ability : Ability)
  | detached (ability : Ability)
  | bound (ability : Ability) (holder : Argument)
  deriving DecidableEq, Repr

/-- Named arguments. -/
abbrev Arguments := List (String × Argument)

def Ability.looseKind (ability : Ability) : Kind :=
  match ability.form with
  | .operation => .looseOperation
  | .datum => .looseDatum
  | .slot => .looseSlot
  | .shared => .looseShared
  | _ => .looseFunction

def Argument.kindOf : Argument → Kind
  | .text _ => .text
  | .number _ => .number
  | .truth _ => .truth
  | .nothing => .nothing
  | .kind _ => .ofKinds
  | .markedKind _ _ => .marked
  | .kinds _ => .row
  | .marks _ => .row
  | .emptyTable => .table
  | .overview _ => .overview
  | .loose ability => ability.looseKind
  | .detached _ => .detachedFunction
  | .bound ability _ => if ability.form = .operation then .boundOperation else .boundFunction

/-- Why a template could not be filled. -/
inductive FillFault where
  | unusable
  | noPart (value : Argument) (part : String)
  | unset (part : String)
  | noItems (value : Argument)
  | itemNotNumbered (value : Argument)
  | alreadyMarked (kind : Kind) (mark : Mark)
  | noLayout (value : Argument)
  | tooLargeForDouble
  | tooLargeForCharacter
  | noCharacter
  | noRoom
  | nameTaken (taker name : String)
  deriving DecidableEq, Repr

def Argument.called : Argument → String
  | .kind known => "type object '" ++ known.word ++ "'"
  | value => "'" ++ value.kindOf.word ++ "' object"

def Mark.inscription : Mark → String
  | .number value => String.ofList (naturalChars value)
  | .word value => quoted value

def markedText (kind : Kind) (mark : Mark) : String :=
  kind.name ++ "[" ++ mark.inscription ++ "]"

def FillFault.message : FillFault → String
  | .unusable => ""
  | .noPart value part => value.called ++ " has no attribute '" ++ part ++ "'"
  | .unset part => part
  | .noItems (.kind known) => "type '" ++ known.word ++ "' is not subscriptable"
  | .noItems value => value.called ++ " is not subscriptable"
  | .itemNotNumbered value =>
    if value.kindOf = .row then "tuple indices must be integers or slices, not str"
    else "string indices must be integers, not 'str'"
  | .alreadyMarked kind mark => markedText kind mark ++ " is not a generic class"
  | .noLayout value =>
    "unsupported format string passed to " ++ value.kindOf.word ++ ".__format__"
  | .tooLargeForDouble => "int too large to convert to float"
  | .tooLargeForCharacter => "Python int too large to convert to C long"
  | .noCharacter => "%c arg not in range(0x110000)"
  | .noRoom => ""
  | .nameTaken taker name => taker ++ "() got multiple values for argument '" ++ name ++ "'"

def numberText (value : Int) : Except FillFault String :=
  match writeInteger value with
  | .ok text => .ok text
  | .error .tooLong => .error .unusable

def kindText (kind : Kind) : String :=
  "<class '" ++ kind.word ++ "'>"

def rowText : List String → String
  | [item] => "(" ++ item ++ ",)"
  | items => "(" ++ joinWith ", " items ++ ")"

def looseText (ability : Ability) : String :=
  let word := match ability.form with
    | .operation => "slot wrapper"
    | .datum => "attribute"
    | .slot => "member"
    | _ => "method"
  "<" ++ word ++ " '" ++ ability.name ++ "' of '" ++ ability.owner.word ++ "' objects>"

/-- An ability that is bound to a value of some kind, as text.  The text ends
with a place in memory; since values of this library have none, it is always
the same. -/
def boundText (ability : Ability) (holder : Kind) : String :=
  let name :=
    if ability.form = .operation then "method-wrapper '" ++ ability.name ++ "'"
    else "built-in method " ++ ability.name
  "<" ++ name ++ " of " ++ holder.word ++ " object at 0x0>"

def detachedText (ability : Ability) : String :=
  "<staticmethod(" ++ boundText ability .ofKinds ++ ")>"

/-- An ability as it stands in an overview of the kind that provides it. -/
def entryText (ability : Ability) : String :=
  match ability.form with
  | .maker => boundText ability .ofKinds
  | .detached => detachedText ability
  | .remark => ((wording? ability.about).map quoted).getD "None"
  | _ => looseText ability

def overviewText (kind : Kind) : String :=
  let entries := kind.abilities.map fun ability =>
    quoted ability.name ++ ": " ++ entryText ability
  "\x7b" ++ joinWith ", " entries ++ "\x7d"

def Argument.inscription : Argument → Except FillFault String
  | .text value => .ok (quoted value)
  | .number value => numberText value
  | .truth value => .ok (if value then "True" else "False")
  | .nothing => .ok "None"
  | .kind known => .ok (kindText known)
  | .markedKind known mark => .ok (markedText known mark)
  | .kinds row => .ok (rowText (row.map kindText))
  | .marks row => .ok (rowText (row.map Mark.inscription))
  | .emptyTable => .ok "\x7b\x7d"
  | .overview shown => .ok ("mappingproxy(" ++ overviewText shown ++ ")")
  | .loose ability => .ok (looseText ability)
  | .detached ability => .ok (detachedText ability)
  | .bound ability holder => .ok (boundText ability holder.kindOf)

/-- A value as it is displayed: texts are shown as they are, and overviews
like the tables that they show. -/
def Argument.display : Argument → Except FillFault String
  | .text value => .ok value
  | .overview shown => .ok (overviewText shown)
  | value => value.inscription

/-- A value in the form that a conversion letter asks for: displayed,
inscribed, or inscribed in basic Latin. -/
def Argument.convert (value : Argument) (letter : Char) : Except FillFault Argument :=
  if letter = 's' then value.display.map .text
  else if letter = 'r' then value.inscription.map .text
  else if letter = 'a' then value.inscription.map fun text => .text (basic text)
  else .error .unusable

/-- The first number that is too large to count characters with. -/
def countLimit : Nat := twoTo 63

/-- The number that digits write behind those for `value`, if they are digits.
Digits that have become too large are refused before what follows them. -/
def markedNumber (value : Nat) : List Char → Except FillFault (Option Nat)
  | [] => .ok (some value)
  | c :: rest =>
    match decimalValue? c with
    | none => .ok none
    | some digit =>
      if countLimit ≤ 10 * value + digit then .error .unusable
      else markedNumber (10 * value + digit) rest

/-- Read what stands between brackets. -/
def Mark.read (chars : List Char) : Except FillFault Mark :=
  (markedNumber 0 chars).map fun
    | some value => .number value
    | none => .word (String.ofList chars)

/-!
## Parts and items

A part of a value has a name.  It is found among the abilities of the kind of
the value: data are told, and all others are bound to the value.  Where a
kind is asked, it tells its own data first, then it offers the abilities of
its values as they are, unbound, and at last it binds its own abilities.  A
marked kind passes nearly all questions on to the kind that was marked.

An item stands in a collection at a number or under a word.
-/

def Argument.ofText? : Option String → Argument
  | some value => .text value
  | none => .nothing

namespace Ability

def isDatum (ability : Ability) : Bool :=
  ability.form = .datum || ability.form = .slot

/-- What is said about an ability. -/
def wording (ability : Ability) : Argument :=
  .ofText? (wording? ability.about)

def fullName (ability : Ability) (place : Kind) : Argument :=
  .text (place.name ++ "." ++ ability.name)

/-- An ability that one of the values was asked for.  A function of the kind
keeps to the kind of the value, and makers and detached functions keep to the
kind that provides them. -/
def bindTo (ability : Ability) (value : Argument) : Argument :=
  match ability.form with
  | .shared => .bound ability (.kind value.kindOf)
  | .detached => .bound ability (.kind ability.owner)
  | .maker => .bound ability (.kind ability.owner)
  | .remark => ability.wording
  | _ => .bound ability value

def loosenFrom (ability : Ability) (kind : Kind) : Argument :=
  match ability.form with
  | .shared => .bound ability (.kind kind)
  | .detached => .bound ability (.kind ability.owner)
  | .maker => .bound ability (.kind ability.owner)
  | .remark => ability.wording
  | _ => .loose ability

/-- An ability that an overview was asked for. -/
def entry (ability : Ability) : Argument :=
  match ability.form with
  | .detached => .detached ability
  | .maker => .bound ability (.kind ability.owner)
  | .remark => ability.wording
  | _ => .loose ability

end Ability

/-- What is said about a kind.  A kind of which nothing is said, but whose
values tell something, offers that datum instead. -/
def Kind.wording (kind : Kind) : Argument :=
  match wording? kind.about, kind.ownAbility? "__doc__" with
  | some said, _ => .text said
  | none, some ability => ability.loosenFrom kind
  | none, none => .nothing

def Kind.datum? (kind : Kind) (name : String) : Option Argument :=
  match name with
  | "__name__" => some (.text kind.name)
  | "__qualname__" => some (.text kind.name)
  | "__module__" => some (.text kind.home)
  | "__doc__" => some kind.wording
  | "__text_signature__" => some (.ofText? kind.signature?)
  | "__mro__" => some (.kinds kind.lineage)
  | "__bases__" => some (.kinds kind.bases)
  | "__base__" => some ((kind.bases.head?.map .kind).getD .nothing)
  | "__dict__" => some (.overview kind)
  | "__basicsize__" => some (.number kind.measures.size)
  | "__itemsize__" => some (.number kind.measures.itemSize)
  | "__flags__" => some (.number kind.measures.flags)
  | "__dictoffset__" => some (.number kind.measures.tableOffset)
  | "__weakrefoffset__" => some (.number kind.measures.weakOffset)
  | _ => none

def numberDatum? (value : Int) (name : String) : Option Argument :=
  match name with
  | "real" => some (.number value)
  | "numerator" => some (.number value)
  | "imag" => some (.number 0)
  | "denominator" => some (.number 1)
  | _ => none

def markedDatum? (kind : Kind) (mark : Mark) (name : String) : Option Argument :=
  match name with
  | "__origin__" => some (.kind kind)
  | "__args__" => some (.marks [mark])
  | "__parameters__" => some (.marks [])
  | "__unpacked__" => some (.truth false)
  | "__typing_unpacked_tuple_args__" => some .nothing
  | _ => none

def looseDatum? (ability : Ability) (name : String) : Option Argument :=
  match name with
  | "__name__" => some (.text ability.name)
  | "__qualname__" => some (ability.fullName ability.owner)
  | "__objclass__" => some (.kind ability.owner)
  | "__doc__" => some ability.wording
  | "__text_signature__" => some (.ofText? ability.signature)
  | _ => none

/-- The kind that stands in the full name of a bound ability.  Operations are
named after the kind that provides them, functions after the holder. -/
def boundPlace (ability : Ability) (holder : Argument) : Kind :=
  if ability.form = .operation then ability.owner
  else
    match holder with
    | .kind known => known
    | other => other.kindOf

def boundDatum? (ability : Ability) (holder : Argument) (name : String) : Option Argument :=
  match name with
  | "__name__" => some (.text ability.name)
  | "__qualname__" => some (ability.fullName (boundPlace ability holder))
  | "__objclass__" => some (.kind ability.owner)
  | "__self__" => some (if ability.form = .detached then .nothing else holder)
  | "__module__" => some .nothing
  | "__doc__" => some ability.wording
  | "__text_signature__" => some (.ofText? ability.signature)
  | _ => none

/-- The data of a detached function. -/
def detachedDatum? (ability : Ability) (name : String) : Option Argument :=
  match name with
  | "__func__" => some (.bound ability (.kind ability.owner))
  | "__wrapped__" => some (.bound ability (.kind ability.owner))
  | "__isabstractmethod__" => some (.truth false)
  | "__dict__" => some .emptyTable
  | _ => none

def Argument.datum? (value : Argument) (name : String) : Option Argument :=
  if name = "__class__" then some (.kind value.kindOf)
  else
    match value with
    | .number whole => numberDatum? whole name
    | .truth holds => numberDatum? (if holds then 1 else 0) name
    | .kind known => known.datum? name
    | .markedKind known mark => markedDatum? known mark name
    | .loose ability => looseDatum? ability name
    | .detached ability => detachedDatum? ability name
    | .bound ability holder => boundDatum? ability holder name
    | _ => none

/-- Why a value does not tell a datum that its kind provides. -/
def Argument.untold (value : Argument) (name : String) : FillFault :=
  if name = "__abstractmethods__" then .unset name else .noPart value name

/-- Ask a value for an ability that its kind provides: a datum is told, and
all else is bound to the value. -/
def Argument.ask (value : Argument) (ability : Ability) : Except FillFault Argument :=
  if ability.isDatum then
    match value.datum? ability.name with
    | some told => .ok told
    | none => .error (value.untold ability.name)
  else .ok (ability.bindTo value)

def Argument.ownPart (value : Argument) (name : String) : Except FillFault Argument :=
  match value.kindOf.ability? name with
  | some ability => value.ask ability
  | none => .error (.noPart value name)

def Kind.part (kind : Kind) (name : String) : Except FillFault Argument :=
  match Kind.ofKinds.ability? name, kind.ability? name with
  | some ability, some offered =>
    if ability.isDatum then (Argument.kind kind).ask ability else .ok (offered.loosenFrom kind)
  | none, some offered => .ok (offered.loosenFrom kind)
  | _, none => (Argument.kind kind).ownPart name

/-- The names that a marked kind does not pass on. -/
def keptNames : List String :=
  listed <|
    "__class__ __origin__ __args__ __unpacked__ __parameters__ __typing_unpacked_tuple_args__ " ++
    "__mro_entries__ __reduce_ex__ __reduce__ __copy__ __deepcopy__"

def Argument.part (value : Argument) (name : String) : Except FillFault Argument :=
  match value with
  | .kind known => known.part name
  | .markedKind known _ => if keptNames.contains name then value.ownPart name else known.part name
  | _ => value.ownPart name

/-- The item at a place in a row, if the row reaches so far. -/
def itemAt {α : Type} (item : α → Argument) (items : List α) (place : Nat) :
    Except FillFault Argument :=
  match items[place]? with
  | some held => .ok (item held)
  | none => .error .unusable

def Mark.value : Mark → Argument
  | .number whole => .number whole
  | .word spelled => .text spelled

def Kind.takesMarks (kind : Kind) : Bool :=
  kind = .ofKinds || (kind.ability? "__class_getitem__").isSome

def overviewItem (shown : Kind) : Mark → Except FillFault Argument
  | .number _ => .error .unusable
  | .word spelled =>
    match shown.ownAbility? spelled with
    | some ability => .ok ability.entry
    | none => .error .unusable

/-- The item of a value under a mark.  The items of a text are its
characters, numbered from zero. -/
def Argument.itemUnder (value : Argument) (mark : Mark) : Except FillFault Argument :=
  match value, mark with
  | .text held, .number place => itemAt (fun c => .text (String.ofList [c])) held.toList place
  | .kinds row, .number place => itemAt .kind row place
  | .marks row, .number place => itemAt Mark.value row place
  | .text _, .word _ => .error (.itemNotNumbered value)
  | .kinds _, .word _ => .error (.itemNotNumbered value)
  | .marks _, .word _ => .error (.itemNotNumbered value)
  | .emptyTable, _ => .error .unusable
  | .overview shown, _ => overviewItem shown mark
  | .kind known, _ =>
    if known.takesMarks then .ok (.markedKind known mark) else .error (.noItems value)
  | .markedKind known held, _ => .error (.alreadyMarked known held)
  | _, _ => .error (.noItems value)

/-- The item of a value under what a template puts between brackets. -/
def Argument.item (value : Argument) (mark : List Char) : Except FillFault Argument :=
  (Mark.read mark).bind value.itemUnder

end Messages
end GameNight
