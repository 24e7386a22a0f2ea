namespace GameNight
namespace Number

/-!
# Double-precision numbers

Doubles are counted in powers of two and written in powers of ten.  The two
powers are taken of natural numbers only, and have names of their own.
-/

def twoTo (exponent : Nat) : Nat :=
  Nat.pow 2 exponent

def tenTo (exponent : Nat) : Nat :=
  Nat.pow 10 exponent

@[simp] theorem tenTo_zero : tenTo 0 = 1 := rfl

theorem twoTo_succ (exponent : Nat) : twoTo (exponent + 1) = twoTo exponent * 2 := rfl

theorem tenTo_succ (exponent : Nat) : tenTo (exponent + 1) = tenTo exponent * 10 := rfl

/-!
## Units and rounding

Scores are binary64 numbers.  Every finite one is a whole multiple of the
smallest positive one, 2⁻¹⁰⁷⁴, so a finite number is kept as a sign and a
number of such units.  Comparing is then comparing whole numbers, with the
infinities at the two ends and no place for the value that is no number.

`nearestUnits` rounds an exact quotient to the nearest number of units that
has at most fifty-three significant bits; a tie goes to the even one.  From
2¹⁰²⁴ − 2⁹⁷⁰ on this reaches `infinityUnits`, the first magnitude that is too
large.
-/

def infinityUnits : Nat := twoTo 2098

/-- A double-precision number.  A finite one has a sign and a magnitude in
units of 2⁻¹⁰⁷⁴, so that there are two zeros. -/
inductive Double where
  | nan
  | infinite (negative : Bool)
  | finite (negative : Bool) (units : Nat) (bounded : units < infinityUnits)
  deriving DecidableEq

/-- The quotient of two numbers, rounded to the nearest whole number; a half
goes to the even neighbour. -/
def roundHalfEven (numerator denominator : Nat) : Nat :=
  let quotient := numerator / denominator
  let twice := 2 * (numerator % denominator)
  if twice < denominator then quotient
  else if denominator < twice then quotient + 1
  else if quotient % 2 = 0 then quotient
  else quotient + 1

/-- The number of low bits that do not fit beside fifty-three leading ones. -/
def excessBits (units : Nat) : Nat :=
  units.log2 + 1 - 53

def nearestUnits (numerator denominator : Nat) : Nat :=
  let scaled := numerator * twoTo 1074
  let excess := excessBits (scaled / denominator)
  roundHalfEven scaled (denominator * twoTo excess) * twoTo excess

namespace Double

/-- The number with a given sign and magnitude; a magnitude that is too large
gives an infinity. -/
def ofUnits (negative : Bool) (units : Nat) : Double :=
  if bounded : units < infinityUnits then .finite negative units bounded else .infinite negative

def zero : Double := ofUnits false 0

def nearest (negative : Bool) (numerator denominator : Nat) : Double :=
  ofUnits negative (nearestUnits numerator denominator)

/-- A whole number as a double, unless it is too large to be near a finite one. -/
def ofInteger? (value : Int) : Option Double :=
  let units := nearestUnits value.natAbs 1
  if units < infinityUnits then some (ofUnits (value < 0) units) else none

/-- The place of a number on the line, in units of 2⁻¹⁰⁷⁴.  The infinities
stand at the ends, and what is no number has no place. -/
def place? : Double → Option Int
  | .nan => none
  | .infinite negative => some (if negative then -(infinityUnits : Int) else infinityUnits)
  | .finite negative units _ => some (if negative then -(units : Int) else units)

/-- Compare two numbers by a relation of their places; what is no number
stands in no relation. -/
def relates (relation : Int → Int → Bool) (left right : Double) : Bool :=
  match left.place?, right.place? with
  | some leftPlace, some rightPlace => relation leftPlace rightPlace
  | _, _ => false

/-- Equality of values: the two zeros are equal, and what is no number is
equal to nothing. -/
def equals (left right : Double) : Bool :=
  left.relates (fun a b => a == b) right

def below (left right : Double) : Bool :=
  left.relates (fun a b => decide (a < b)) right

/-- Below or equal. -/
def atMost (left right : Double) : Bool :=
  left.relates (fun a b => decide (a ≤ b)) right

/-- A key to sort by: the place on the line.  What is no number has none, and comparisons
alone give no order to lists that hold it; by a convention of this library it is put at
zero, so that sorting is total.  What is said of the order of such lists is said of this
convention only. -/
def sortKey (value : Double) : Int :=
  value.place?.getD 0

/-- The number that sixty-four bits stand for: a sign, eleven bits of exponent
and fifty-two of fraction. -/
def ofBits (bits : Nat) : Double :=
  let negative := bits / twoTo 63 % 2 == 1
  let exponent := bits / twoTo 52 % twoTo 11
  let fraction := bits % twoTo 52
  if exponent = 2047 then if fraction = 0 then .infinite negative else .nan
  else if exponent = 0 then ofUnits negative fraction
  else ofUnits negative ((twoTo 52 + fraction) * twoTo (exponent - 1))

def toBits : Double → Nat
  | .nan => 0x7FF8000000000000
  | .infinite negative => (if negative then twoTo 63 else 0) + 2047 * twoTo 52
  | .finite negative units _ =>
    let excess := excessBits units
    (if negative then twoTo 63 else 0) + excess * twoTo 52 + units / twoTo excess

end Double

end Number
end GameNight
