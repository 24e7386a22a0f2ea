import GameNight.Number.Double

namespace GameNight
namespace Number

/-!
# Doubles on the line

Which whole numbers are near a double, and how doubles compare.
-/

/-!
## Whole numbers near a double

A whole number becomes a double when rounding it stays below the first
magnitude that is too large.  That is the case for all numbers below
2¹⁰²⁴ − 2⁹⁷⁰, the middle between the largest double and that magnitude.  The
middle itself is a tie, which goes to the even side, and so is too large
already.

The proof looks at three ranges.  Below 2¹⁰²³ rounding cannot lead beyond the
double of a number; from 2¹⁰²⁴ on it cannot lead below the leading bit; and
between the two the leading bit is known, so that one rounding to a known
grain is left.
-/

/-- The first whole number that is too large for a double. -/
def tooLargeFrom : Nat := twoTo 1024 - twoTo 970

theorem twoTo_add (a b : Nat) : twoTo (a + b) = twoTo a * twoTo b :=
  Nat.pow_add 2 a b

theorem twoTo_pos (exponent : Nat) : 0 < twoTo exponent :=
  Nat.two_pow_pos exponent

theorem twoTo_le_twoTo {a b : Nat} (less : a ≤ b) : twoTo a ≤ twoTo b :=
  Nat.pow_le_pow_right (by omega) less

/-! ### Rounding -/

/-- Which of the two neighbours rounding takes. -/
theorem roundHalfEven_eq (numerator denominator : Nat) :
    roundHalfEven numerator denominator =
      if 2 * (numerator % denominator) < denominator ∨
          2 * (numerator % denominator) = denominator ∧ numerator / denominator % 2 = 0
      then numerator / denominator else numerator / denominator + 1 := by
  rw [roundHalfEven]
  by_cases below : 2 * (numerator % denominator) < denominator
  · simp only [below, if_true, true_or]
  · by_cases above : denominator < 2 * (numerator % denominator)
    · have noTie : 2 * (numerator % denominator) ≠ denominator := by omega
      simp only [below, above, noTie, if_true, if_false, false_and, or_false]
    · have tie : 2 * (numerator % denominator) = denominator := by omega
      rw [if_neg below, if_neg above]
      simp only [tie, Nat.lt_irrefl, true_and, false_or]

theorem div_le_roundHalfEven (numerator denominator : Nat) :
    numerator / denominator ≤ roundHalfEven numerator denominator := by
  rw [roundHalfEven_eq]
  split <;> omega

/-- Rounding never more than doubles a quotient. -/
theorem roundHalfEven_mul_le (numerator denominator : Nat) :
    roundHalfEven numerator denominator * denominator ≤ 2 * numerator := by
  have parts : numerator / denominator * denominator + numerator % denominator = numerator :=
    Nat.div_add_mod' numerator denominator
  rw [roundHalfEven_eq]
  generalize numerator / denominator = quotient at parts ⊢
  generalize numerator % denominator = rest at parts ⊢
  split
  · omega
  · rw [Nat.add_mul, Nat.one_mul]
    by_cases none : quotient = 0
    · omega
    · have several : 1 * denominator ≤ quotient * denominator :=
        Nat.mul_le_mul_right _ (by omega)
      omega

/-- Rounding reaches an even bound from half a unit below it on: of the two
neighbours of that half, the lower one is odd. -/
theorem roundHalfEven_lt_even {numerator denominator half : Nat} (positive : 0 < denominator) :
    roundHalfEven numerator denominator < 2 * half ↔
      2 * numerator + denominator < 4 * half * denominator := by
  have parts : numerator / denominator * denominator + numerator % denominator = numerator :=
    Nat.div_add_mod' numerator denominator
  have small : numerator % denominator < denominator := Nat.mod_lt _ positive
  have bound : 4 * half * denominator = 2 * (2 * half * denominator) := by
    rw [← Nat.mul_assoc, ← Nat.mul_assoc]
  rw [roundHalfEven_eq, bound]
  generalize numerator / denominator = quotient at parts ⊢
  generalize numerator % denominator = rest at parts small ⊢
  rcases Nat.lt_trichotomy (quotient + 1) (2 * half) with below | last | above
  · have further : (quotient + 1 + 1) * denominator ≤ 2 * half * denominator :=
      Nat.mul_le_mul_right _ (by omega)
    rw [Nat.add_mul, Nat.add_mul] at further
    split <;> omega
  · have odd : quotient % 2 ≠ 0 := by omega
    rw [← last, Nat.add_mul]
    simp only [odd, and_false, or_false]
    split <;> omega
  · have reached : 2 * half * denominator ≤ quotient * denominator :=
      Nat.mul_le_mul_right _ (by omega)
    split <;> omega

/-! ### Whole numbers -/

/-- A number with a known leading bit is rounded to a known grain. -/
theorem nearestUnits_of_bounds {value leading : Nat} (lower : twoTo (leading + 52) ≤ value * twoTo 1074)
    (upper : value * twoTo 1074 < twoTo (leading + 53)) :
    nearestUnits value 1 = roundHalfEven (value * twoTo 1074) (twoTo leading) * twoTo leading := by
  have filled : value * twoTo 1074 ≠ 0 := by
    have positive := twoTo_pos (leading + 52)
    omega
  have bits : (value * twoTo 1074).log2 = leading + 52 :=
    (Nat.log2_eq_iff filled).mpr ⟨lower, upper⟩
  have excess : excessBits (value * twoTo 1074) = leading := by
    rw [excessBits, bits]
    omega
  rw [nearestUnits]
  simp only [Nat.div_one, excess, Nat.one_mul]

/-- Rounding a number does not lead below a power of two that it has reached. -/
theorem le_nearestUnits {value exponent : Nat} (reached : twoTo exponent ≤ value * twoTo 1074) :
    twoTo exponent ≤ nearestUnits value 1 := by
  have positive : 0 < value * twoTo 1074 := Nat.lt_of_lt_of_le (twoTo_pos exponent) reached
  have atLeast : exponent ≤ (value * twoTo 1074).log2 := (Nat.le_log2 (by omega)).mpr reached
  have leading : twoTo (value * twoTo 1074).log2 ≤ value * twoTo 1074 := Nat.log2_self_le (by omega)
  have finer : excessBits (value * twoTo 1074) ≤ (value * twoTo 1074).log2 := by
    rw [excessBits]
    omega
  rw [nearestUnits]
  simp only [Nat.div_one, Nat.one_mul]
  generalize excessBits (value * twoTo 1074) = excess at finer ⊢
  generalize (value * twoTo 1074).log2 = bits at atLeast leading finer
  have split : twoTo bits = twoTo (bits - excess) * twoTo excess := by
    rw [← twoTo_add, Nat.sub_add_cancel finer]
  calc twoTo exponent
      ≤ twoTo bits := twoTo_le_twoTo atLeast
    _ = twoTo (bits - excess) * twoTo excess := split
    _ ≤ roundHalfEven (value * twoTo 1074) (twoTo excess) * twoTo excess := by
        refine Nat.mul_le_mul_right _ (Nat.le_trans ?_ (div_le_roundHalfEven _ _))
        rw [Nat.le_div_iff_mul_le (twoTo_pos excess), ← split]
        exact leading

/-- Rounding at most doubles a number. -/
theorem nearestUnits_le (value : Nat) : nearestUnits value 1 ≤ 2 * (value * twoTo 1074) := by
  rw [nearestUnits]
  simp only [Nat.one_mul]
  exact roundHalfEven_mul_le _ _

theorem infinityUnits_eq : infinityUnits = twoTo 1024 * twoTo 1074 :=
  twoTo_add 1024 1074

theorem nearestUnits_lt_of_lt_twoTo {value : Nat} (small : value < twoTo 1023) :
    nearestUnits value 1 < infinityUnits := by
  have scaled : value * twoTo 1074 < twoTo 1023 * twoTo 1074 :=
    (Nat.mul_lt_mul_right (twoTo_pos 1074)).mpr small
  have spread : twoTo 1024 = 2 * twoTo 1023 := by rw [twoTo_succ, Nat.mul_comm]
  refine Nat.lt_of_le_of_lt (nearestUnits_le value) ?_
  rw [infinityUnits_eq, spread, Nat.mul_assoc]
  omega

theorem infinityUnits_le_of_large {value : Nat} (large : twoTo 1024 ≤ value) :
    infinityUnits ≤ nearestUnits value 1 := by
  have scaled : twoTo 2098 ≤ value * twoTo 1074 := by
    rw [twoTo_add 1024 1074]
    exact Nat.mul_le_mul_right _ large
  exact le_nearestUnits scaled

/-- Where the leading bit stands at place 1023, the grain is 2⁹⁷¹, and what lies at
most half a grain below the first magnitude that is too large is rounded to it. -/
theorem nearestUnits_lt_of_between {value : Nat} (lower : twoTo 1023 ≤ value)
    (upper : value < twoTo 1024) :
    nearestUnits value 1 < infinityUnits ↔ value + twoTo 970 < twoTo 1024 := by
  have reached : twoTo (2045 + 52) ≤ value * twoTo 1074 := by
    have whole : twoTo (2045 + 52) = twoTo 1023 * twoTo 1074 := twoTo_add 1023 1074
    rw [whole]
    exact Nat.mul_le_mul_right _ lower
  have below : value * twoTo 1074 < twoTo (2045 + 53) := by
    have whole : twoTo (2045 + 53) = twoTo 1024 * twoTo 1074 := twoTo_add 1024 1074
    rw [whole]
    exact (Nat.mul_lt_mul_right (twoTo_pos 1074)).mpr upper
  have bound : infinityUnits = 2 * twoTo 52 * twoTo 2045 := by
    have parts : infinityUnits = twoTo 53 * twoTo 2045 := twoTo_add 53 2045
    rw [parts, twoTo_succ 52, Nat.mul_comm 2]
  have grain : twoTo 2045 = 2 * twoTo 970 * twoTo 1074 := by
    have parts : twoTo 2045 = twoTo 971 * twoTo 1074 := twoTo_add 971 1074
    rw [parts, twoTo_succ 970, Nat.mul_comm 2]
  have whole : 4 * twoTo 52 * twoTo 2045 = 2 * (twoTo 1024 * twoTo 1074) := by
    rw [← infinityUnits_eq, bound, ← Nat.mul_assoc, ← Nat.mul_assoc]
  rw [nearestUnits_of_bounds reached below, bound, Nat.mul_lt_mul_right (twoTo_pos 2045),
    roundHalfEven_lt_even (twoTo_pos 2045), whole, grain]
  rw [Nat.mul_assoc 2 (twoTo 970), ← Nat.mul_add, Nat.mul_lt_mul_left (by omega), ← Nat.add_mul,
    Nat.mul_lt_mul_right (twoTo_pos 1074)]

/-- Exactly the numbers below `tooLargeFrom` stay below the first magnitude that
is too large when they are rounded. -/
theorem nearestUnits_lt_infinityUnits (value : Nat) :
    nearestUnits value 1 < infinityUnits ↔ value < tooLargeFrom := by
  have gap : twoTo 970 ≤ twoTo 1023 := twoTo_le_twoTo (by omega)
  have spread : twoTo 1024 = 2 * twoTo 1023 := by rw [twoTo_succ, Nat.mul_comm]
  rw [tooLargeFrom]
  by_cases small : value < twoTo 1023
  · exact iff_of_true (nearestUnits_lt_of_lt_twoTo small) (by omega)
  · by_cases large : twoTo 1024 ≤ value
    · exact iff_of_false (Nat.not_lt.mpr (infinityUnits_le_of_large large)) (by omega)
    · rw [nearestUnits_lt_of_between (Nat.le_of_not_lt small) (Nat.lt_of_not_le large)]
      omega

/-- A whole number has no double exactly from `tooLargeFrom` on. -/
theorem Double.ofInteger?_eq_none (value : Int) :
    Double.ofInteger? value = none ↔ tooLargeFrom ≤ value.natAbs := by
  rw [← Nat.not_lt, ← nearestUnits_lt_infinityUnits, Double.ofInteger?]
  by_cases near : nearestUnits value.natAbs 1 < infinityUnits
  · simp [near]
  · simp [near]

/-!
## Rounding keeps the order

A larger whole number never becomes a smaller double.  With one grain this is
seen from the quotients and their rests.  A number with more leading bits has a
coarser grain, but then a power of two lies between the two numbers, and rounding
does not lead across it from either side.

So comparing the doubles of whole numbers agrees with comparing the numbers, up
to numbers that become the same double.
-/

/-! ### Rounding to one grain -/

theorem roundHalfEven_le_succ (numerator denominator : Nat) :
    roundHalfEven numerator denominator ≤ numerator / denominator + 1 := by
  rw [roundHalfEven_eq]
  split <;> omega

theorem roundHalfEven_le_roundHalfEven {numerator larger : Nat} (denominator : Nat)
    (less : numerator ≤ larger) :
    roundHalfEven numerator denominator ≤ roundHalfEven larger denominator := by
  have quotients : numerator / denominator ≤ larger / denominator := Nat.div_le_div_right less
  rcases Nat.lt_or_eq_of_le quotients with below | same
  · calc roundHalfEven numerator denominator
        ≤ numerator / denominator + 1 := roundHalfEven_le_succ numerator denominator
      _ ≤ larger / denominator := below
      _ ≤ roundHalfEven larger denominator := div_le_roundHalfEven larger denominator
  · -- with one quotient the rests are in order
    have rests : numerator % denominator ≤ larger % denominator := by
      have parts := Nat.div_add_mod numerator denominator
      have largerParts := Nat.div_add_mod larger denominator
      rw [same] at parts
      omega
    rw [roundHalfEven_eq, roundHalfEven_eq, same]
    split <;> split <;> omega

/-- A multiple of the grain is not rounded. -/
theorem roundHalfEven_mul (quotient : Nat) {denominator : Nat} (positive : 0 < denominator) :
    roundHalfEven (quotient * denominator) denominator = quotient := by
  rw [roundHalfEven_eq, Nat.mul_mod_left, Nat.mul_div_cancel _ positive, if_pos (by omega)]

/-! ### Whole numbers -/

theorem log2_le_log2 {units larger : Nat} (less : units ≤ larger) : units.log2 ≤ larger.log2 := by
  by_cases none : units = 0
  · rw [none, Nat.log2_zero]
    exact Nat.zero_le _
  · exact (Nat.le_log2 (by omega)).mpr (Nat.le_trans (Nat.log2_self_le none) less)

theorem log2_twoTo (exponent : Nat) : (twoTo exponent).log2 = exponent :=
  Nat.log2_two_pow

theorem excessBits_le_excessBits {units larger : Nat} (less : units ≤ larger) :
    excessBits units ≤ excessBits larger := by
  have bits := log2_le_log2 less
  rw [excessBits, excessBits]
  omega

theorem lt_twoTo_of_log2_lt {units exponent : Nat} (bits : units.log2 < exponent) : units < twoTo exponent := by
  by_cases none : units = 0
  · rw [none]
    exact twoTo_pos exponent
  · exact (Nat.log2_lt none).mp bits

theorem log2_lt_of_lt_twoTo {units exponent : Nat} (filled : units ≠ 0) (below : units < twoTo exponent) :
    units.log2 < exponent :=
  (Nat.log2_lt filled).mpr below

theorem nearestUnits_one (value : Nat) :
    nearestUnits value 1 =
      roundHalfEven (value * twoTo 1074) (twoTo (excessBits (value * twoTo 1074))) *
        twoTo (excessBits (value * twoTo 1074)) := by
  rw [nearestUnits]
  simp only [Nat.div_one, Nat.one_mul]

/-- Rounding a number does not lead beyond a power of two that it has not reached. -/
theorem nearestUnits_le_twoTo {value exponent : Nat} (below : value * twoTo 1074 < twoTo exponent) :
    nearestUnits value 1 ≤ twoTo exponent := by
  have finer : excessBits (value * twoTo 1074) ≤ exponent := by
    have bits : (value * twoTo 1074).log2 ≤ (twoTo exponent).log2 := log2_le_log2 (Nat.le_of_lt below)
    rw [log2_twoTo] at bits
    rw [excessBits]
    omega
  rw [nearestUnits_one]
  generalize excessBits (value * twoTo 1074) = excess at finer ⊢
  have split : twoTo exponent = twoTo (exponent - excess) * twoTo excess := by
    rw [← twoTo_add, Nat.sub_add_cancel finer]
  calc roundHalfEven (value * twoTo 1074) (twoTo excess) * twoTo excess
      ≤ roundHalfEven (twoTo exponent) (twoTo excess) * twoTo excess :=
        Nat.mul_le_mul_right _ (roundHalfEven_le_roundHalfEven _ (Nat.le_of_lt below))
    _ = twoTo exponent := by
        rw [split, roundHalfEven_mul _ (twoTo_pos excess)]

/-- A larger whole number does not become a smaller double. -/
theorem nearestUnits_le_nearestUnits {value larger : Nat} (less : value ≤ larger) :
    nearestUnits value 1 ≤ nearestUnits larger 1 := by
  have scaled : value * twoTo 1074 ≤ larger * twoTo 1074 := Nat.mul_le_mul_right _ less
  rcases Nat.lt_or_eq_of_le (excessBits_le_excessBits scaled) with coarser | same
  · -- the larger number has reached a power of two that the other has not
    have bits : (value * twoTo 1074).log2 < (larger * twoTo 1074).log2 := by
      rw [excessBits, excessBits] at coarser
      omega
    have filled : larger * twoTo 1074 ≠ 0 := by
      intro none
      rw [none, Nat.log2_zero] at bits
      exact Nat.not_lt_zero _ bits
    calc nearestUnits value 1
        ≤ twoTo (larger * twoTo 1074).log2 := nearestUnits_le_twoTo (lt_twoTo_of_log2_lt bits)
      _ ≤ nearestUnits larger 1 := le_nearestUnits (Nat.log2_self_le filled)
  · rw [nearestUnits_one, nearestUnits_one, same]
    exact Nat.mul_le_mul_right _ (roundHalfEven_le_roundHalfEven _ scaled)

namespace Double

/-! ### Comparing by places -/

theorem relates_eq_true {relation : Int → Int → Bool} {left right : Double} :
    left.relates relation right = true ↔
      ∃ place otherPlace, left.place? = some place ∧ right.place? = some otherPlace ∧
        relation place otherPlace = true := by
  rw [relates]
  cases left.place? with
  | none => simp
  | some place => cases right.place? <;> simp

/-- What is a number has a place. -/
theorem exists_place {value : Double} (number : value ≠ .nan) : ∃ place, value.place? = some place := by
  cases value with
  | nan => exact absurd rfl number
  | infinite negative => exact ⟨_, rfl⟩
  | finite negative units bounded => exact ⟨_, rfl⟩

theorem atMost_eq_true {left right : Double} :
    left.atMost right = true ↔
      ∃ place otherPlace, left.place? = some place ∧ right.place? = some otherPlace ∧ place ≤ otherPlace := by
  simp only [atMost, relates_eq_true, decide_eq_true_eq]

theorem below_eq_true {left right : Double} :
    left.below right = true ↔
      ∃ place otherPlace, left.place? = some place ∧ right.place? = some otherPlace ∧ place < otherPlace := by
  simp only [below, relates_eq_true, decide_eq_true_eq]

theorem atMost_trans {left middle right : Double} (first : left.atMost middle = true)
    (second : middle.atMost right = true) : left.atMost right = true := by
  rcases atMost_eq_true.mp first with ⟨place, between, atLeft, atMiddle, ordered⟩
  rcases atMost_eq_true.mp second with ⟨same, otherPlace, alsoAtMiddle, atRight, alsoOrdered⟩
  cases atMiddle.symm.trans alsoAtMiddle
  exact atMost_eq_true.mpr ⟨place, otherPlace, atLeft, atRight, Int.le_trans ordered alsoOrdered⟩

theorem below_of_atMost_of_below {left middle right : Double} (first : left.atMost middle = true)
    (second : middle.below right = true) : left.below right = true := by
  rcases atMost_eq_true.mp first with ⟨place, between, atLeft, atMiddle, ordered⟩
  rcases below_eq_true.mp second with ⟨same, otherPlace, alsoAtMiddle, atRight, alsoOrdered⟩
  cases atMiddle.symm.trans alsoAtMiddle
  exact below_eq_true.mpr ⟨place, otherPlace, atLeft, atRight, Int.lt_of_le_of_lt ordered alsoOrdered⟩

theorem below_of_below_of_atMost {left middle right : Double} (first : left.below middle = true)
    (second : middle.atMost right = true) : left.below right = true := by
  rcases below_eq_true.mp first with ⟨place, between, atLeft, atMiddle, ordered⟩
  rcases atMost_eq_true.mp second with ⟨same, otherPlace, alsoAtMiddle, atRight, alsoOrdered⟩
  cases atMiddle.symm.trans alsoAtMiddle
  exact below_eq_true.mpr ⟨place, otherPlace, atLeft, atRight, Int.lt_of_lt_of_le ordered alsoOrdered⟩

/-- Numbers are sorted as they are compared. -/
theorem atMost_eq_sortKey {left right : Double} (number : left ≠ .nan) (otherNumber : right ≠ .nan) :
    left.atMost right = decide (left.sortKey ≤ right.sortKey) := by
  rcases exists_place number with ⟨place, atLeft⟩
  rcases exists_place otherNumber with ⟨otherPlace, atRight⟩
  simp only [atMost, relates, sortKey, atLeft, atRight, Option.getD_some]

/-- The place of a whole number among the doubles. -/
theorem place?_of_ofInteger? {value : Int} {held : Double} (near : ofInteger? value = some held) :
    held.place? =
      some (if value < 0 then -(nearestUnits value.natAbs 1 : Int) else nearestUnits value.natAbs 1) := by
  rw [ofInteger?] at near
  by_cases bounded : nearestUnits value.natAbs 1 < infinityUnits
  · simp only [bounded, if_true, Option.some.injEq] at near
    rw [← near, ofUnits, dif_pos bounded, place?]
    by_cases negative : value < 0 <;> simp [negative]
  · simp [bounded] at near

/-- Whole numbers in order have doubles in order. -/
theorem atMost_of_ofInteger? {value larger : Int} {held other : Double} (less : value ≤ larger)
    (near : ofInteger? value = some held) (alsoNear : ofInteger? larger = some other) :
    held.atMost other = true := by
  refine atMost_eq_true.mpr ⟨_, _, place?_of_ofInteger? near, place?_of_ofInteger? alsoNear, ?_⟩
  by_cases negative : value < 0
  · by_cases alsoNegative : larger < 0
    · have rounded : nearestUnits larger.natAbs 1 ≤ nearestUnits value.natAbs 1 :=
        nearestUnits_le_nearestUnits (by omega)
      rw [if_pos negative, if_pos alsoNegative]
      omega
    · rw [if_pos negative, if_neg alsoNegative]
      omega
  · have rounded : nearestUnits value.natAbs 1 ≤ nearestUnits larger.natAbs 1 :=
      nearestUnits_le_nearestUnits (by omega)
    rw [if_neg negative, if_neg (by omega)]
    omega

end Double

end Number
end GameNight
