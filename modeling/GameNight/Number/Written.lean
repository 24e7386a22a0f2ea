import GameNight.Number.Decimal
import GameNight.Number.Double

namespace GameNight
namespace Number

open Text

/-!
# Doubles as they are written

A double is written in one of three ways: with fixed places, with the fewest digits that
read back as the same double, or with a fixed number of significant digits.
-/

/-!
## Fixed places

A double is written with a fixed number of decimal places.  Its exact value
is rounded once to that many places, a half going to the even neighbour, and
a minus sign is kept also when all digits are zero.
-/

/-- The last `places` digits of a number. -/
def lastDigits : Nat → Nat → List Char
  | 0, _ => []
  | places + 1, value => lastDigits places (value / 10) ++ [digitChar (value % 10)]

/-- A number of `10 ^ places`-ths, written with a point. -/
def placesChars (places value : Nat) : List Char :=
  naturalChars (value / tenTo places) ++
    (if places = 0 then [] else '.' :: lastDigits places value)

/-- The magnitude of a finite double in `10 ^ places`-ths, rounded. -/
def roundedPlaces (places units : Nat) : Nat :=
  roundHalfEven (units * tenTo places) (twoTo 1074)

/-- No magnitude has more places than this behind the point. -/
def placeLimit : Nat := 1074

/-- A magnitude with a number of places.  Those beyond `placeLimit` are zeros. -/
def magnitudeChars (places units : Nat) : List Char :=
  let exact := min places placeLimit
  placesChars exact (roundedPlaces exact units) ++ List.replicate (places - exact) '0'

def fixedChars (places : Nat) : Double → List Char
  | .nan => ['n', 'a', 'n']
  | .infinite negative => (if negative then ['-'] else []) ++ ['i', 'n', 'f']
  | .finite negative units _ =>
    (if negative then ['-'] else []) ++ placesChars places (roundedPlaces places units)

def fixedText (places : Nat) (value : Double) : String :=
  String.ofList (fixedChars places value)

/-!
## Shortest digits

A double is written with the fewest significant digits that read back as the
same double.  For each count of digits the two neighbours of the value on the
grid of that count are tried; the first count with a neighbour that reads
back wins, and of two such neighbours the nearer one.

The digits are laid out with a point where the leading digit has a place
between 10⁻⁴ and 10¹⁵, and with an exponent elsewhere.
-/

def digitCount (value : Nat) : Nat :=
  (naturalChars value).length

/-- A magnitude `digits · 10 ^ exponent` as a quotient. -/
def quotientOf (digits : Nat) (exponent : Int) : Nat × Nat :=
  if 0 ≤ exponent then (digits * tenTo exponent.toNat, 1) else (digits, tenTo (-exponent).toNat)

def leadingPlace (units : Nat) : Int :=
  if twoTo 1074 ≤ units then (digitCount (units / twoTo 1074) : Int) - 1
  else (digitCount (units * tenTo 400 / twoTo 1074) : Int) - 401

def readsBack (units digits : Nat) (exponent : Int) : Bool :=
  let quotient := quotientOf digits exponent
  nearestUnits quotient.1 quotient.2 == units

/-- The neighbour of a magnitude on the grid `10 ^ exponent` that reads back,
the nearer one if both do. -/
def onGrid? (units : Nat) (exponent : Int) : Option Nat :=
  let scaled := if 0 ≤ exponent then (units, twoTo 1074 * tenTo exponent.toNat)
    else (units * tenTo (-exponent).toNat, twoTo 1074)
  let lower := scaled.1 / scaled.2
  match readsBack units lower exponent, readsBack units (lower + 1) exponent with
  | false, false => none
  | true, false => some lower
  | false, true => some (lower + 1)
  | true, true => some (roundHalfEven scaled.1 scaled.2)

/-- The fewest digits, from `count` on, and the exponent of their last place.
Seventeen digits always read back, so that `fuel` is never used up. -/
def shortestFrom (units : Nat) (count : Nat) : Nat → Nat × Int
  | 0 => (0, 0)
  | fuel + 1 =>
    let exponent := leadingPlace units - count + 1
    match onGrid? units exponent with
    | some digits => (digits, exponent)
    | none => shortestFrom units (count + 1) fuel

/-- Digits without the zeros at their end, and the exponent of the last place
that remains. -/
def dropZeros (digits : List Char) (exponent : Int) : List Char × Int :=
  let kept := (digits.reverse.dropWhile (· == '0')).reverse
  (kept, exponent + (digits.length - kept.length : Nat))

/-- Lay out digits whose last one has the place `exponent`. -/
def layOut (digits : List Char) (exponent : Int) : List Char :=
  let leading := exponent + digits.length - 1
  if -4 ≤ leading ∧ leading < 16 then
    if 0 ≤ exponent then digits ++ List.replicate exponent.toNat '0' ++ ['.', '0']
    else if leading < 0 then
      ['0', '.'] ++ List.replicate (-leading - 1).toNat '0' ++ digits
    else digits.take (leading + 1).toNat ++ '.' :: digits.drop (leading + 1).toNat
  else
    let mantissa :=
      match digits with
      | [] => []
      | [c] => [c]
      | c :: rest => c :: '.' :: rest
    let magnitude := naturalChars leading.natAbs
    mantissa ++ 'e' :: (if leading < 0 then '-' else '+') ::
      (List.replicate (2 - magnitude.length) '0' ++ magnitude)

def shortestChars : Double → List Char
  | .nan => ['n', 'a', 'n']
  | .infinite negative => (if negative then ['-'] else []) ++ ['i', 'n', 'f']
  | .finite negative units _ =>
    (if negative then ['-'] else []) ++
      if units = 0 then ['0', '.', '0']
      else
        let found := shortestFrom units 1 17
        let kept := dropZeros (naturalChars found.1) found.2
        layOut kept.1 kept.2

def shortestText (value : Double) : String :=
  String.ofList (shortestChars value)

/-!
## Significant digits

A magnitude can be written with a fixed number of significant digits: always
with an exponent, or with an exponent only when the leading digit stands far
from the point.  The exact value is rounded once, a half to the even digit.
-/

/-- No magnitude has more digits than this: 309 of them before the point, and
`placeLimit` behind it. -/
def significantLimit : Nat := 309 + placeLimit

/-- A number of digits of a magnitude, rounded, and the place of the leading
one.  Digits beyond `significantLimit` are zeros. -/
def significantDigits (count units : Nat) : List Char × Int :=
  if units = 0 then (List.replicate count '0', 0)
  else
    let exact := min count significantLimit
    let zeros := List.replicate (count - exact) '0'
    let place := leadingPlace units
    let exponent := place - exact + 1
    let digits :=
      if 0 ≤ exponent then roundHalfEven units (twoTo 1074 * tenTo exponent.toNat)
      else roundHalfEven (units * tenTo (-exponent).toNat) (twoTo 1074)
    if tenTo exact ≤ digits then (naturalChars (digits / 10) ++ zeros, place + 1)
    else (naturalChars digits ++ zeros, place)

def exponentText (place : Int) : List Char :=
  let magnitude := naturalChars place.natAbs
  'e' :: (if place < 0 then '-' else '+') ::
    (List.replicate (2 - magnitude.length) '0' ++ magnitude)

/-- Digits with a point behind the first `whole` of them.  The point is left
out when nothing follows it, unless it is kept. -/
def pointed (keepPoint : Bool) (whole : Nat) (digits : List Char) : List Char :=
  let places := digits.drop whole
  digits.take whole ++ if places.isEmpty && !keepPoint then [] else '.' :: places

/-- A magnitude with `places` digits behind the leading one, and an exponent. -/
def exponentChars (keepPoint : Bool) (places units : Nat) : List Char :=
  let found := significantDigits (places + 1) units
  pointed keepPoint 1 found.1 ++ exponentText found.2

def withoutFinalZeros (digits : List Char) : List Char :=
  (digits.reverse.dropWhile (· == '0')).reverse

/-- A magnitude with a number of significant digits, positional where the
leading place allows it.  Zeros at the end are dropped unless they are kept. -/
def generalChars (keepZeros : Bool) (count units : Nat) : List Char :=
  let count := if count = 0 then 1 else count
  let found := significantDigits (if keepZeros then count else min count significantLimit) units
  let leading := found.2
  let shorten (whole : Nat) (digits : List Char) : List Char :=
    if keepZeros then digits else digits.take whole ++ withoutFinalZeros (digits.drop whole)
  if -4 ≤ leading ∧ leading < count then
    if 0 ≤ leading then
      let whole := leading.toNat + 1
      pointed keepZeros whole (shorten whole found.1)
    else
      pointed keepZeros 1 (shorten 1 (List.replicate (-leading).toNat '0' ++ found.1))
  else pointed keepZeros 1 (shorten 1 found.1) ++ exponentText leading

def Double.hundredfold : Double → Double
  | .nan => .nan
  | .infinite negative => .infinite negative
  | .finite negative units _ => .nearest negative (units * 100) (twoTo 1074)

end Number
end GameNight
