import GameNight.Number.Written
import GameNight.Proofs.Number.Whole
import GameNight.Proofs.Text.Words
import Mathlib.Algebra.Order.Field.Rat
import Mathlib.Data.Rat.Cast.Order
import Mathlib.Order.WithBot
import Mathlib.Tactic.Positivity

namespace GameNight
namespace Number

open Text

/-!
# Scores as they are printed

A score with fixed places is read back from its characters, and printing keeps the order
of the scores.
-/

/-!
## Places behind a point

A number with some places behind the point is read as the nearest double, and a double
is written with the nearest number of these places.  Each step rounds once, by at most
half a unit.  As long as the grain of the doubles is finer than the last place, the
two errors are too small to lead to another number: what was read is written again.

That holds for all numbers below a power of two if the last places of these numbers
are fewer than 2⁵³.
-/

/-! ### Rounding to the nearest -/

theorem roundHalfEven_bounds (numerator : Nat) {denominator : Nat} (positive : 0 < denominator) :
    2 * (roundHalfEven numerator denominator * denominator) ≤ 2 * numerator + denominator ∧
      2 * numerator ≤ 2 * (roundHalfEven numerator denominator * denominator) + denominator := by
  have parts : numerator / denominator * denominator + numerator % denominator = numerator :=
    Nat.div_add_mod' numerator denominator
  have small : numerator % denominator < denominator := Nat.mod_lt _ positive
  have next : (numerator / denominator + 1) * denominator =
      numerator / denominator * denominator + denominator := Nat.succ_mul _ _
  rw [roundHalfEven_eq]
  split
  · omega
  · rw [next]
    omega

/-- A quotient that is nearer to a whole number than half a unit is rounded to it. -/
theorem roundHalfEven_eq_of_near {numerator denominator nearest : Nat}
    (above : 2 * (nearest * denominator) < 2 * numerator + denominator)
    (below : 2 * numerator < 2 * (nearest * denominator) + denominator) :
    roundHalfEven numerator denominator = nearest := by
  have positive : 0 < denominator := by omega
  rcases roundHalfEven_bounds numerator positive with ⟨upper, lower⟩
  apply Nat.le_antisymm
  · apply Nat.le_of_lt_succ
    apply Nat.lt_of_mul_lt_mul_right (a := denominator)
    rw [Nat.succ_mul]
    omega
  · apply Nat.le_of_lt_succ
    apply Nat.lt_of_mul_lt_mul_right (a := denominator)
    rw [Nat.succ_mul]
    omega

/-- A double is off from the quotient that it was rounded from by half a grain at most. -/
theorem nearestUnits_bounds (numerator : Nat) {denominator : Nat} (positive : 0 < denominator) :
    2 * (nearestUnits numerator denominator * denominator) ≤ 2 * (numerator * twoTo 1074) +
        denominator * twoTo (excessBits (numerator * twoTo 1074 / denominator)) ∧
      2 * (numerator * twoTo 1074) ≤ 2 * (nearestUnits numerator denominator * denominator) +
        denominator * twoTo (excessBits (numerator * twoTo 1074 / denominator)) := by
  unfold nearestUnits
  dsimp only
  generalize excessBits (numerator * twoTo 1074 / denominator) = excess
  have grain : 0 < denominator * twoTo excess := Nat.mul_pos positive (twoTo_pos excess)
  have scaled (rounded : Nat) :
      rounded * twoTo excess * denominator = rounded * (denominator * twoTo excess) := by
    rw [Nat.mul_assoc, Nat.mul_comm (twoTo excess)]
  rw [scaled]
  exact roundHalfEven_bounds (numerator * twoTo 1074) grain

theorem tenTo_pos (exponent : Nat) : 0 < tenTo exponent :=
  Nat.pow_pos (by omega)

section Keeping

variable {places bits value : Nat}

/-- The grain of a double below a power of two. -/
theorem excessBits_le_of_small (small : value < tenTo places * twoTo bits) :
    excessBits (value * twoTo 1074 / tenTo places) ≤ bits + 1021 := by
  have bounded : value * twoTo 1074 / tenTo places < twoTo (bits + 1074) := by
    apply Nat.div_lt_of_lt_mul
    rw [twoTo_add, ← Nat.mul_assoc]
    exact (Nat.mul_lt_mul_right (twoTo_pos 1074)).mpr small
  unfold excessBits
  by_cases none : value * twoTo 1074 / tenTo places = 0
  · rw [none, Nat.log2_zero]
    omega
  · have leading := log2_lt_of_lt_twoTo none bounded
    omega

/-- Where the grain is finer than the last place, rounding to a double and back to
places changes nothing. -/
theorem roundedPlaces_nearestUnits (small : value < tenTo places * twoTo bits)
    (fine : tenTo places * twoTo bits < twoTo 53) :
    roundedPlaces places (nearestUnits value (tenTo places)) = value := by
  have grain : tenTo places * twoTo (excessBits (value * twoTo 1074 / tenTo places)) < twoTo 1074 := by
    calc tenTo places * twoTo (excessBits (value * twoTo 1074 / tenTo places))
        ≤ tenTo places * twoTo (bits + 1021) :=
          Nat.mul_le_mul_left _ (twoTo_le_twoTo (excessBits_le_of_small small))
      _ = tenTo places * twoTo bits * twoTo 1021 := by rw [twoTo_add, Nat.mul_assoc]
      _ < twoTo 53 * twoTo 1021 := (Nat.mul_lt_mul_right (twoTo_pos 1021)).mpr fine
      _ = twoTo 1074 := (twoTo_add 53 1021).symm
  rcases nearestUnits_bounds value (tenTo_pos places) with ⟨upper, lower⟩
  unfold roundedPlaces
  apply roundHalfEven_eq_of_near
  · omega
  · omega

/-- Such a number is not too large for a double. -/
theorem nearestUnits_lt_of_small (small : value < tenTo places * twoTo bits)
    (fine : tenTo places * twoTo bits < twoTo 53) :
    nearestUnits value (tenTo places) < infinityUnits := by
  have few : bits < 53 := by
    apply (Nat.pow_lt_pow_iff_right (a := 2) (by omega)).mp
    exact Nat.lt_of_le_of_lt (Nat.le_mul_of_pos_left _ (tenTo_pos places)) fine
  rcases nearestUnits_bounds value (tenTo_pos places) with ⟨upper, _⟩
  have grain : twoTo (excessBits (value * twoTo 1074 / tenTo places)) ≤ twoTo (bits + 1074) :=
    twoTo_le_twoTo (Nat.le_trans (excessBits_le_of_small small) (by omega))
  have scaled : value * twoTo 1074 < tenTo places * twoTo (bits + 1074) := by
    rw [twoTo_add, ← Nat.mul_assoc]
    exact (Nat.mul_lt_mul_right (twoTo_pos 1074)).mpr small
  have double : nearestUnits value (tenTo places) * tenTo places < twoTo (bits + 1075) * tenTo places := by
    have again : twoTo (bits + 1075) * tenTo places = 2 * (tenTo places * twoTo (bits + 1074)) := by
      rw [twoTo_succ (bits + 1074), Nat.mul_assoc, Nat.mul_comm, Nat.mul_assoc]
    have rounded := Nat.mul_le_mul_left (tenTo places) grain
    omega
  exact Nat.lt_of_lt_of_le (Nat.lt_of_mul_lt_mul_right double) (twoTo_le_twoTo (by omega))

end Keeping

/-! ### Digits around a point -/

theorem mem_basicDigits_of_mem_lastDigits {places value : Nat} {c : Char} (member : c ∈ lastDigits places value) :
    c ∈ basicDigits := by
  induction places generalizing value with
  | zero => exact absurd member List.not_mem_nil
  | succ places inductionHypothesis =>
      rcases List.mem_append.mp member with earlier | last
      · exact inductionHypothesis earlier
      · rw [List.mem_singleton.mp last]
        exact digitChar_mem_basicDigits (Nat.mod_lt _ (by omega))

@[simp] theorem length_lastDigits (places value : Nat) : (lastDigits places value).length = places := by
  induction places generalizing value with
  | zero => rfl
  | succ places inductionHypothesis =>
      rw [lastDigits, List.length_append, inductionHypothesis, List.length_singleton]

/-- The digits before and behind the point, read as one numeral, count the last places. -/
theorem valueOfDigits_places (places value : Nat) :
    valueOfDigits ((naturalChars (value / tenTo places) ++ lastDigits places value).filterMap decimalValue?) =
      value := by
  induction places generalizing value with
  | zero =>
      rw [tenTo_zero, Nat.div_one, lastDigits, List.append_nil]
      exact valueOfDigits_naturalChars value
  | succ places inductionHypothesis =>
      have digit : decimalValue? (digitChar (value % 10)) = some (value % 10) :=
        decimalValue?_of_lt (Nat.mod_lt _ (by omega))
      have tenth : value / tenTo (places + 1) = value / 10 / tenTo places := by
        rw [Nat.div_div_eq_div_mul, tenTo_succ, Nat.mul_comm]
      rw [lastDigits, ← List.append_assoc, tenth, List.filterMap_append, List.filterMap_cons_some digit,
        List.filterMap_nil, valueOfDigits_concat, inductionHypothesis]
      exact Nat.div_add_mod value 10

/-! ### Reading -/

/-- Digits around a point are read by their value and the number of places. -/
theorem decimalDouble?_of_digits (negative : Bool) {whole places : List Char} (filled : whole ≠ [])
    (digits : ∀ c ∈ whole, isDecimal c = true) (digitsBehind : ∀ c ∈ places, isDecimal c = true) :
    decimalDouble? negative (whole ++ '.' :: places) =
      some (ofDecimal negative ((whole ++ places).filterMap decimalValue?) (-(places.length : Int))) := by
  have run := isDigitOrUnderscore_of_digits digits
  have behind := isDigitOrUnderscore_of_digits digitsBehind
  have ends : ∀ c ∈ ('.' :: places).head?, isDigitOrUnderscore c = false := by
    rintro c ⟨⟩
    decide
  have some : (whole.filterMap decimalValue?).isEmpty = false :=
    List.isEmpty_eq_false_iff.mpr (values_ne_nil filled digits)
  unfold decimalDouble?
  rw [takeWhile_of_run run ends, dropWhile_of_run run ends]
  simp only [takeFraction, List.takeWhile_eq_self_iff.mpr behind, List.dropWhile_eq_nil_iff.mpr behind,
    optionalDigits?_of_digits digits, optionalDigits?_of_digits digitsBehind, exponent?, some,
    Bool.false_and, Bool.false_eq_true, if_false, List.filterMap_append,
    length_values_of_digits digitsBehind, Int.zero_sub]

theorem mem_placesChars {places value : Nat} {c : Char} (member : c ∈ placesChars places value) :
    c = '.' ∨ c ∈ basicDigits := by
  rcases List.mem_append.mp member with whole | behind
  · exact Or.inr (mem_basicDigits_of_mem_naturalChars whole)
  · split at behind
    · exact absurd behind List.not_mem_nil
    · rcases List.mem_cons.mp behind with point | last
      · exact Or.inl point
      · exact Or.inr (mem_basicDigits_of_mem_lastDigits last)

theorem placesChars_of_pos {places : Nat} (behind : 0 < places) (value : Nat) :
    placesChars places value = naturalChars (value / tenTo places) ++ '.' :: lastDigits places value := by
  rw [placesChars, if_neg (Nat.ne_of_gt behind)]

/-- What reading asks of the characters of a number with a point. -/
theorem placesChars_facts {places value : Nat} {c : Char} (member : c ∈ placesChars places value) :
    isBlank c = false ∧ c.toLower ≠ 'n' ∧ c ≠ '-' ∧ c ≠ '+' := by
  have checked : ('.' :: basicDigits).all (fun d =>
      !isBlank d && d.toLower != 'n' && d != '-' && d != '+') = true := by decide
  have facts := List.all_eq_true.mp checked c (List.mem_cons.mpr (mem_placesChars member))
  simpa [and_assoc] using facts

theorem takeSign_signChars (negative : Bool) {chars : List Char} (unsigned : ∀ c ∈ chars, c ≠ '-' ∧ c ≠ '+') :
    takeSign (signChars negative ++ chars) = (negative, chars) := by
  cases negative with
  | true => rfl
  | false =>
      rw [signChars, if_neg Bool.false_ne_true, List.nil_append]
      fun_cases takeSign chars with
      | case1 rest => exact absurd rfl (unsigned '-' List.mem_cons_self).1
      | case2 rest => exact absurd rfl (unsigned '+' List.mem_cons_self).2
      | case3 => rfl

/-- A number with a point is read as the double nearest to it. -/
theorem readDouble?_places (negative : Bool) {places : Nat} (value : Nat) (behind : 0 < places)
    (few : places ≤ 330) :
    readDouble? (signChars negative ++ placesChars places value) =
      some (.nearest negative value (tenTo places)) := by
  have digits : ∀ c ∈ naturalChars (value / tenTo places), isDecimal c = true := fun c member =>
    isDecimal_of_mem_naturalChars member
  have digitsBehind : ∀ c ∈ lastDigits places value, isDecimal c = true := fun c member =>
    (basicDigit_facts c (mem_basicDigits_of_mem_lastDigits member)).1
  have trimmed : trimNumber (signChars negative ++ placesChars places value) =
      signChars negative ++ placesChars places value := by
    apply trimNumber_of_filled
    intro c member
    rcases List.mem_append.mp member with sign | digit
    · have minus : c = '-' := by
        cases negative with
        | true => exact List.mem_singleton.mp sign
        | false => exact absurd sign List.not_mem_nil
      rw [minus]
      rfl
    · exact (placesChars_facts digit).1
  have unnamed : namedDouble? negative (placesChars places value) = none := by
    apply namedDouble?_eq_none
    intro member
    rcases List.mem_map.mp member with ⟨c, stands, small⟩
    exact (placesChars_facts stands).2.1 small
  have sign : takeSign (signChars negative ++ placesChars places value) =
      (negative, placesChars places value) :=
    takeSign_signChars negative fun c member => (placesChars_facts member).2.2
  unfold readDouble?
  rw [trimmed, sign]
  dsimp only
  rw [unnamed, Option.none_or, placesChars_of_pos behind, decimalDouble?_of_digits negative (naturalChars_ne_nil _) digits
    digitsBehind, length_lastDigits, ofDecimal_of_places negative _ few, valueOfDigits_places]

/-! ### Reading and writing -/

/-- A number with a point is written with the same characters after it was read. -/
theorem fixedChars_nearest (negative : Bool) {places bits value : Nat}
    (small : value < tenTo places * twoTo bits) (fine : tenTo places * twoTo bits < twoTo 53) :
    fixedChars places (.nearest negative value (tenTo places)) =
      signChars negative ++ placesChars places value := by
  unfold Double.nearest Double.ofUnits
  rw [dif_pos (nearestUnits_lt_of_small small fine), fixedChars, roundedPlaces_nearestUnits small fine]
  rfl

/-- A number with two places in canonical form: a minus sign if there is one, a canonical
numeral, and two digits behind a point.  Its magnitude is at most 10¹³. -/
def IsTwoPlaceNumeral (chars : List Char) : Prop :=
  ∃ negative whole tenth hundredth, chars = signChars negative ++ (whole ++ ['.', tenth, hundredth]) ∧
    IsCanonical whole ∧ tenth ∈ basicDigits ∧ hundredth ∈ basicDigits ∧
      valueOfDigits ((whole ++ [tenth, hundredth]).filterMap decimalValue?) ≤ 100 * tenTo 13

/-- A number with two places in canonical form is what some number of hundredths is
written with. -/
theorem IsTwoPlaceNumeral.exists_value {chars : List Char} (numeral : IsTwoPlaceNumeral chars) :
    ∃ negative value, chars = signChars negative ++ placesChars 2 value ∧ value ≤ 100 * tenTo 13 := by
  rcases numeral with ⟨negative, whole, tenth, hundredth, rfl, canonical, tenthBasic, hundredthBasic, bounded⟩
  rcases canonical.exists_value with ⟨front, rfl⟩
  rcases List.mem_map.mp tenthBasic with ⟨tenths, tenthsAmong, rfl⟩
  rcases List.mem_map.mp hundredthBasic with ⟨hundredths, hundredthsAmong, rfl⟩
  have smallTenths : tenths < 10 := List.mem_range.mp tenthsAmong
  have smallHundredths : hundredths < 10 := List.mem_range.mp hundredthsAmong
  have before : (100 * front + 10 * tenths + hundredths) / tenTo 2 = front := by
    have hundred : tenTo 2 = 100 := rfl
    rw [hundred]
    omega
  have behind : lastDigits 2 (100 * front + 10 * tenths + hundredths) =
      [digitChar tenths, digitChar hundredths] := by
    have first : (100 * front + 10 * tenths + hundredths) / 10 % 10 = tenths := by omega
    have second : (100 * front + 10 * tenths + hundredths) % 10 = hundredths := by omega
    rw [lastDigits, lastDigits, lastDigits, first, second]
    rfl
  have read := valueOfDigits_places 2 (100 * front + 10 * tenths + hundredths)
  rw [before, behind] at read
  rw [read] at bounded
  refine ⟨negative, 100 * front + 10 * tenths + hundredths, ?_, bounded⟩
  rw [placesChars, before, behind]
  rfl

/-- A number with two places in canonical form is written with the same characters after
it was read. -/
theorem IsTwoPlaceNumeral.written {chars : List Char} (numeral : IsTwoPlaceNumeral chars) {held : Double}
    (read : readDouble? chars = some held) : fixedChars 2 held = chars := by
  rcases numeral.exists_value with ⟨negative, value, rfl, bounded⟩
  have small : value < tenTo 2 * twoTo 44 := Nat.lt_of_le_of_lt bounded (by decide)
  have fine : tenTo 2 * twoTo 44 < twoTo 53 := by decide
  rw [readDouble?_places negative value (by omega) (by omega)] at read
  rw [← Option.some.inj read]
  exact fixedChars_nearest negative small fine

/-!
## The numbers that printed texts stand for

A printed number is read here as a mathematical one, without any rounding: digits with
or without a point stand for a quotient, and the word for infinity for an end of the
line.  A zero with a minus sign is the same number as one without.

A double is printed with rounded places.  Larger doubles do not become smaller numbers
by that, since rounding keeps the order of the magnitudes on both sides of zero.
-/

/-- A quotient, or one of the two ends of the line. -/
abbrev ExtendedNumber := WithBot (WithTop ℚ)

/-- The magnitude that digits stand for, with a point among them or without. -/
def magnitudeOf? (chars : List Char) : Option ℚ :=
  let whole := chars.takeWhile isDecimal
  if whole = [] then none
  else
    match chars.dropWhile isDecimal with
    | [] => some (valueOfDigits (whole.filterMap decimalValue?))
    | point :: places =>
      if point = '.' ∧ places.all isDecimal then
        some (valueOfDigits ((whole ++ places).filterMap decimalValue?) / 10 ^ places.length)
      else none

/-- The place of a quotient on the line. -/
def onLine (value : ℚ) : ExtendedNumber :=
  ((value : WithTop ℚ) : WithBot (WithTop ℚ))

theorem onLine_le_onLine {value other : ℚ} : onLine value ≤ onLine other ↔ value ≤ other := by
  unfold onLine
  rw [WithBot.coe_le_coe, WithTop.coe_le_coe]

def signedNumber (negative : Bool) (magnitude : ℚ) : ExtendedNumber :=
  onLine (if negative then -magnitude else magnitude)

/-- The number that a printed text stands for. -/
def numberOf? (chars : List Char) : Option ExtendedNumber :=
  let signed := takeSign chars
  if signed.2 = ['i', 'n', 'f'] then some (if signed.1 then ⊥ else ⊤)
  else (magnitudeOf? signed.2).map (signedNumber signed.1)

/-! ### Whole numbers -/

theorem magnitudeOf?_naturalChars (value : Nat) : magnitudeOf? (naturalChars value) = some (value : ℚ) := by
  have digits : ∀ c ∈ naturalChars value, isDecimal c = true := fun c member =>
    isDecimal_of_mem_naturalChars member
  unfold magnitudeOf?
  rw [List.takeWhile_eq_self_iff.mpr digits, List.dropWhile_eq_nil_iff.mpr digits]
  dsimp only
  rw [if_neg (naturalChars_ne_nil value), valueOfDigits_naturalChars]

/-- What is printed with a digit in front is not the word for infinity. -/
theorem ne_inf_of_digits {chars rest : List Char} (filled : chars ≠ [])
    (digits : ∀ c ∈ chars, isDecimal c = true) : chars ++ rest ≠ ['i', 'n', 'f'] := by
  rcases List.exists_cons_of_ne_nil filled with ⟨first, others, rfl⟩
  intro same
  have letter : first = 'i' := (List.cons.inj same).1
  have digit := digits first List.mem_cons_self
  rw [letter] at digit
  exact absurd digit (by decide)

/-- A whole number stands for itself as it is printed. -/
theorem numberOf?_integerChars (value : Int) :
    numberOf? (integerChars value) = some (onLine value) := by
  have unnamed : naturalChars value.natAbs ≠ ['i', 'n', 'f'] := by
    rw [← List.append_nil (naturalChars value.natAbs)]
    apply ne_inf_of_digits (naturalChars_ne_nil _)
    exact fun c member => isDecimal_of_mem_naturalChars member
  have signed : (if value < 0 then -(value.natAbs : ℚ) else (value.natAbs : ℚ)) = value := by
    rw [Nat.cast_natAbs, Int.cast_abs]
    split
    · rename_i negative
      rw [abs_of_neg (Int.cast_lt_zero.mpr negative), neg_neg]
    · rename_i positive
      exact abs_of_nonneg (Int.cast_nonneg (not_lt.mp positive))
  unfold numberOf?
  rw [takeSign_integerChars]
  dsimp only
  rw [if_neg unnamed, magnitudeOf?_naturalChars, Option.map_some, signedNumber]
  simp only [decide_eq_true_eq, signed]

/-! ### Scores -/

theorem magnitudeOf?_placesChars {places : Nat} (behind : 0 < places) (value : Nat) :
    magnitudeOf? (placesChars places value) = some ((value : ℚ) / 10 ^ places) := by
  have digits : ∀ c ∈ naturalChars (value / tenTo places), isDecimal c = true := fun c member =>
    isDecimal_of_mem_naturalChars member
  have digitsBehind : (lastDigits places value).all isDecimal = true :=
    List.all_eq_true.mpr fun c member => (basicDigit_facts c (mem_basicDigits_of_mem_lastDigits member)).1
  have ends : ∀ c ∈ ('.' :: lastDigits places value).head?, isDecimal c = false := by
    rintro c ⟨⟩
    decide
  unfold magnitudeOf?
  rw [placesChars_of_pos behind, takeWhile_of_run digits ends, dropWhile_of_run digits ends]
  dsimp only
  rw [if_neg (naturalChars_ne_nil _), if_pos ⟨rfl, digitsBehind⟩, valueOfDigits_places, length_lastDigits]

/-- The number that a score is printed as with some places; what is no number is put at
zero. -/
def printedScore (places : Nat) : Double → ExtendedNumber
  | .nan => signedNumber false 0
  | .infinite negative => if negative then ⊥ else ⊤
  | .finite negative units _ => signedNumber negative (roundedPlaces places units / 10 ^ places)

theorem numberOf?_fixedChars {places : Nat} (behind : 0 < places) {value : Double} (number : value ≠ .nan) :
    numberOf? (fixedChars places value) = some (printedScore places value) := by
  cases value with
  | nan => exact absurd rfl number
  | infinite negative => cases negative <;> rfl
  | finite negative units bounded =>
      have unnamed : placesChars places (roundedPlaces places units) ≠ ['i', 'n', 'f'] := by
        apply ne_inf_of_digits (naturalChars_ne_nil _)
        exact fun c member => isDecimal_of_mem_naturalChars member
      have sign : takeSign (fixedChars places (.finite negative units bounded)) =
          (negative, placesChars places (roundedPlaces places units)) :=
        takeSign_signChars negative fun c member => (placesChars_facts member).2.2
      unfold numberOf?
      rw [sign]
      dsimp only
      rw [if_neg unnamed, magnitudeOf?_placesChars behind]
      rfl

theorem roundedPlaces_zero (places : Nat) : roundedPlaces places 0 = 0 := by
  unfold roundedPlaces
  rw [Nat.zero_mul, roundHalfEven_zero]

theorem roundedPlaces_le_roundedPlaces (places : Nat) {units larger : Nat} (less : units ≤ larger) :
    roundedPlaces places units ≤ roundedPlaces places larger :=
  roundHalfEven_le_roundHalfEven _ (Nat.mul_le_mul_right _ less)

/-- The printed magnitudes on the two sides of zero are in the order of the units. -/
theorem signedNumber_roundedPlaces_le (places : Nat) {negative otherNegative : Bool} {units otherUnits : Nat}
    (ordered : (if negative then -(units : Int) else units) ≤
      if otherNegative then -(otherUnits : Int) else otherUnits) :
    signedNumber negative (roundedPlaces places units / 10 ^ places) ≤
      signedNumber otherNegative (roundedPlaces places otherUnits / 10 ^ places) := by
  have rounded {smaller larger : Nat} (less : smaller ≤ larger) :
      (roundedPlaces places smaller : ℚ) / 10 ^ places ≤ roundedPlaces places larger / 10 ^ places :=
    div_le_div_of_nonneg_right (Nat.cast_le.mpr (roundedPlaces_le_roundedPlaces places less)) (by positivity)
  have nonnegative (any : Nat) : (0 : ℚ) ≤ roundedPlaces places any / 10 ^ places := by positivity
  unfold signedNumber
  rw [onLine_le_onLine]
  cases negative <;> cases otherNegative <;>
    simp only [if_true, if_false, Bool.false_eq_true] at ordered ⊢
  case false.false => exact rounded (by omega)
  case false.true =>
    -- both are zeros
    have same : otherUnits = units := by omega
    have none : units = 0 := by omega
    rw [same, none]
    rw [roundedPlaces_zero]
    simp
  case true.false => exact le_trans (neg_nonpos.mpr (nonnegative units)) (nonnegative otherUnits)
  case true.true => exact neg_le_neg (rounded (by omega))

/-- Scores are printed in the order that they have as doubles. -/
theorem printedScore_le_printedScore (places : Nat) {score other : Double} (ordered : score.atMost other = true) :
    printedScore places score ≤ printedScore places other := by
  rcases Double.atMost_eq_true.mp ordered with ⟨place, otherPlace, stands, otherStands, less⟩
  have filled : 0 < infinityUnits := twoTo_pos 2098
  cases score with
  | nan => cases stands
  | infinite negative =>
      cases negative with
      | true => exact bot_le
      | false =>
          cases Option.some.inj stands
          cases other with
          | nan => cases otherStands
          | infinite otherNegative =>
              cases otherNegative with
              | true =>
                  cases Option.some.inj otherStands
                  simp only [Bool.false_eq_true, if_false, if_true] at less
                  omega
              | false => exact le_rfl
          | finite otherNegative units bounded =>
              cases Option.some.inj otherStands
              simp only [Bool.false_eq_true, if_false] at less
              split at less <;> omega
  | finite negative units bounded =>
      cases Option.some.inj stands
      cases other with
      | nan => cases otherStands
      | infinite otherNegative =>
          cases otherNegative with
          | true =>
              cases Option.some.inj otherStands
              simp only [if_true] at less
              split at less <;> omega
          | false => exact le_top
      | finite otherNegative otherUnits otherBounded =>
          cases Option.some.inj otherStands
          exact signedNumber_roundedPlaces_le places less

end Number
end GameNight
