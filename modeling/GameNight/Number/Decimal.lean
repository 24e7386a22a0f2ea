import GameNight.Number.Double
import GameNight.Text.Character
import GameNight.Text.Quoted

namespace GameNight
namespace Number

open Text

/-!
# Numbers in decimal

Whole numbers are written and read, and doubles are read.
-/

/-!
## Whole numbers

Whole numbers are written in decimal with a minus sign when negative.  They
are read more freely: blanks around the number, a sign, decimal digits of any
script, and single underscores between two digits.

Both directions refuse more than `digitLimit` digits.  When a number is read,
the digits are counted before anything that follows them is looked at.
-/

def digitsBefore (value : Nat) (tail : List Char) : List Char :=
  if value < 10 then digitChar value :: tail
  else digitsBefore (value / 10) (digitChar (value % 10) :: tail)

def naturalChars (value : Nat) : List Char :=
  digitsBefore value []

/-- A whole number in decimal, with a minus sign when it is negative. -/
def integerChars : Int → List Char
  | .ofNat value => naturalChars value
  | .negSucc value => '-' :: naturalChars (value + 1)

def naturalText (value : Nat) : String :=
  String.ofList (naturalChars value)

/-- A whole number in decimal. -/
def integerText (value : Int) : String :=
  String.ofList (integerChars value)

/-- The largest number of digits that is read or written. -/
def digitLimit : Nat := 4300

/-- A number with too many digits to be written. -/
inductive WritingFault where
  | tooLong
  deriving DecidableEq, Repr

def WritingFault.message : WritingFault → String
  | .tooLong =>
    "Exceeds the limit (4300 digits) for integer string conversion; " ++
      "use sys.set_int_max_str_digits() to increase the limit"

/-- A whole number in decimal, unless it has too many digits. -/
def writeInteger (value : Int) : Except WritingFault String :=
  if tenTo digitLimit ≤ value.natAbs then .error .tooLong else .ok (integerText value)

/-- Why a text is no whole number. -/
inductive IntegerFault where
  | malformed
  | tooLong (digits : Nat)
  deriving DecidableEq, Repr

/-- The wording of a reading fault of a given text; the text is shown between
quotes and cut off after two hundred characters. -/
def IntegerFault.message (fault : IntegerFault) (text : List Char) : String :=
  match fault with
  | .malformed =>
    "invalid literal for int() with base 10: " ++ String.ofList ((quotedChars text).take 200)
  | .tooLong digits =>
    "Exceeds the limit (4300 digits) for integer string conversion: value has " ++
      naturalText digits ++ " digits; use sys.set_int_max_str_digits() to increase the limit"

/-- Blanks that may stand around a number: all but the information separators. -/
def isNumberBlank (c : Char) : Bool :=
  isBlank c && !(28 ≤ c.toNat && c.toNat ≤ 31)

/-- A text without the blanks that may stand around a number. -/
def trimNumber (chars : List Char) : List Char :=
  ((chars.dropWhile isNumberBlank).reverse.dropWhile isNumberBlank).reverse

/-- Take a sign off the front: whether it is a minus, and what follows. -/
def takeSign : List Char → Bool × List Char
  | '-' :: rest => (true, rest)
  | '+' :: rest => (false, rest)
  | chars => (false, chars)

def isDigitOrUnderscore (c : Char) : Bool :=
  c == '_' || isDecimal c

/-- The values of a run of digits in which underscores stand singly and only
between two digits. -/
def groupedDigits? : List Char → Option (List Nat)
  | [] => none
  | [c] => (decimalValue? c).map fun value => [value]
  | c :: '_' :: rest =>
    match decimalValue? c, groupedDigits? rest with
    | some value, some values => some (value :: values)
    | _, _ => none
  | c :: rest =>
    match decimalValue? c, groupedDigits? rest with
    | some value, some values => some (value :: values)
    | _, _ => none

def valueOfDigits (digits : List Nat) : Nat :=
  digits.foldl (fun value digit => 10 * value + digit) 0

def withSign (negative : Bool) (magnitude : Nat) : Int :=
  if negative then -(magnitude : Int) else magnitude

/-- Read a whole number. -/
def readInteger (chars : List Char) : Except IntegerFault Int :=
  let signed := takeSign (trimNumber chars)
  match groupedDigits? (signed.2.takeWhile isDigitOrUnderscore) with
  | none => .error .malformed
  | some digits =>
    if digitLimit < digits.length then .error (.tooLong digits.length)
    else if (signed.2.dropWhile isDigitOrUnderscore).isEmpty then
      .ok (withSign signed.1 (valueOfDigits digits))
    else .error .malformed

/-!
## Reading doubles

A double is read from decimal text: blanks around it, a sign, digits with or
without a point, and an exponent of ten.  Digits may be of any script and may
be grouped by single underscores.  The words for infinity and for no number
are read too, in letters of any size.  The text stands for an exact quotient,
which is rounded once.
-/

/-- The double nearest to digits times a power of ten.  Powers that lead
beyond the largest number or below half the smallest are not computed. -/
def ofDecimal (negative : Bool) (digits : List Nat) (exponent : Int) : Double :=
  let significant := digits.dropWhile (· == 0)
  if significant.isEmpty then .ofUnits negative 0
  else if 310 < exponent then .infinite negative
  else if exponent + significant.length < -330 then .ofUnits negative 0
  else if 0 ≤ exponent then
    .nearest negative (valueOfDigits significant * tenTo exponent.toNat) 1
  else .nearest negative (valueOfDigits significant) (tenTo (-exponent).toNat)

/-- The words that stand for values which digits cannot write. -/
def namedDouble? (negative : Bool) (chars : List Char) : Option Double :=
  let word := String.ofList (chars.map Char.toLower)
  if word = "inf" ∨ word = "infinity" then some (.infinite negative)
  else if word = "nan" then some .nan
  else none

/-- The digits of a run that may be empty. -/
def optionalDigits? (chars : List Char) : Option (List Nat) :=
  if chars.isEmpty then some [] else groupedDigits? chars

/-- Take an exponent of ten: nothing at all, or the letter, a sign and digits. -/
def exponent? : List Char → Option Int
  | [] => some 0
  | c :: rest =>
    if c = 'e' ∨ c = 'E' then
      let signed := takeSign rest
      (groupedDigits? signed.2).map fun digits => withSign signed.1 (valueOfDigits digits)
    else none

/-- Take the digits behind a point, if there is a point: the digits and what
follows them. -/
def takeFraction : List Char → List Char × List Char
  | '.' :: rest => (rest.takeWhile isDigitOrUnderscore, rest.dropWhile isDigitOrUnderscore)
  | chars => ([], chars)

/-- Read digits, a point and an exponent. -/
def decimalDouble? (negative : Bool) (chars : List Char) : Option Double :=
  let fraction := takeFraction (chars.dropWhile isDigitOrUnderscore)
  match optionalDigits? (chars.takeWhile isDigitOrUnderscore), optionalDigits? fraction.1,
      exponent? fraction.2 with
  | some whole, some places, some exponent =>
    if whole.isEmpty && places.isEmpty then none
    else some (ofDecimal negative (whole ++ places) (exponent - places.length))
  | _, _, _ => none

/-- Read a double. -/
def readDouble? (chars : List Char) : Option Double :=
  let signed := takeSign (trimNumber chars)
  (namedDouble? signed.1 signed.2).or (decimalDouble? signed.1 signed.2)

/-- The wording when a text is no number. -/
def notADouble (text : List Char) : String :=
  "could not convert string to float: " ++ String.ofList (quotedChars text)

end Number
end GameNight
