import GameNight.Proofs.Number.Range
import GameNight.Proofs.Number.Reading
import Mathlib.Data.List.Induction

namespace GameNight
namespace Number

open Text

/-!
# Whole numbers that are read back

A whole number is read back from its numeral, exactly as a whole number, and rounded as
a double.
-/

/-!
## Whole numbers as doubles

Two ways lead from a whole number to a double: the number is rounded itself, or its
decimal form is read.  Reading takes the digits for the number that they stand for
and rounds it once, so that both ways lead to the same double, and both fail to reach
a finite one from the same number on.

Up to 2⁵³ nothing is rounded: the grain of such a number is at most one.  So the
double has the place of the number, and doubles compare as the numbers do.
-/

/-! ### Reading a numeral -/

theorem isDecimal_of_mem_naturalChars {value : Nat} {c : Char} (member : c ∈ naturalChars value) :
    isDecimal c = true :=
  (basicDigit_facts c (mem_basicDigits_of_mem_naturalChars member)).1

section Digits

variable {chars : List Char}

/-- Digits without underscores are read one by one. -/
theorem groupedDigits?_of_digits (filled : chars ≠ []) (digits : ∀ c ∈ chars, isDecimal c = true) :
    groupedDigits? chars = some (chars.filterMap decimalValue?) := by
  have notUnderscore : ¬isDecimal '_' = true := by decide
  fun_induction groupedDigits? chars with
  | case1 => exact absurd rfl filled
  | case2 c =>
      rcases Option.isSome_iff_exists.mp (digits c List.mem_cons_self) with ⟨value, digit⟩
      rw [digit, Option.map_some, List.filterMap_cons_some digit, List.filterMap_nil]
  | case3 c rest => exact absurd (digits '_' (List.mem_cons_of_mem c List.mem_cons_self)) notUnderscore
  | case4 c rest => exact absurd (digits '_' (List.mem_cons_of_mem c List.mem_cons_self)) notUnderscore
  | case5 c rest single _ value values others digit inductionHypothesis =>
      have behind := inductionHypothesis single fun d member => digits d (List.mem_cons_of_mem c member)
      rw [others, Option.some.injEq] at behind
      rw [List.filterMap_cons_some digit, behind]
  | case6 c rest single _ unread inductionHypothesis =>
      rcases Option.isSome_iff_exists.mp (digits c List.mem_cons_self) with ⟨value, digit⟩
      have behind := inductionHypothesis single fun d member => digits d (List.mem_cons_of_mem c member)
      exact absurd behind (unread value _ digit)

theorem optionalDigits?_of_digits (digits : ∀ c ∈ chars, isDecimal c = true) :
    optionalDigits? chars = some (chars.filterMap decimalValue?) := by
  unfold optionalDigits?
  by_cases none : chars = []
  · rw [none]
    rfl
  · rw [List.isEmpty_eq_false_iff.mpr none]
    exact groupedDigits?_of_digits none digits

/-- Every digit has a value. -/
theorem length_values_of_digits (digits : ∀ c ∈ chars, isDecimal c = true) :
    (chars.filterMap decimalValue?).length = chars.length := by
  rw [List.length_filterMap_eq_countP, List.countP_eq_length]
  exact digits

theorem values_ne_nil (filled : chars ≠ []) (digits : ∀ c ∈ chars, isDecimal c = true) :
    chars.filterMap decimalValue? ≠ [] := by
  intro none
  have count := length_values_of_digits digits
  rw [none] at count
  exact filled (List.length_eq_zero_iff.mp count.symm)

theorem isDigitOrUnderscore_of_digits (digits : ∀ c ∈ chars, isDecimal c = true) :
    ∀ c ∈ chars, isDigitOrUnderscore c = true := by
  intro c member
  rw [isDigitOrUnderscore, digits c member, Bool.or_true]

theorem takeSign_of_digits (digits : ∀ c ∈ chars, isDecimal c = true) : takeSign chars = (false, chars) := by
  fun_cases takeSign chars with
  | case1 rest => exact absurd (digits '-' List.mem_cons_self) (by decide)
  | case2 rest => exact absurd (digits '+' List.mem_cons_self) (by decide)
  | case3 => rfl

/-- The words for infinity and for no number have a letter in common. -/
theorem namedDouble?_eq_none {negative : Bool} (absent : 'n' ∉ chars.map Char.toLower) :
    namedDouble? negative chars = none := by
  have unlike {word : String} (letter : 'n' ∈ word.toList) : String.ofList (chars.map Char.toLower) ≠ word := by
    rintro rfl
    rw [String.toList_ofList] at letter
    exact absent letter
  have infinite : ¬(String.ofList (chars.map Char.toLower) = "inf" ∨
      String.ofList (chars.map Char.toLower) = "infinity") := by
    rintro (short | long)
    · exact unlike (by decide) short
    · exact unlike (by decide) long
  have named : String.ofList (chars.map Char.toLower) ≠ "nan" := unlike (by decide)
  rw [namedDouble?, if_neg infinite, if_neg named]

end Digits

theorem takeSign_integerChars (value : Int) :
    takeSign (integerChars value) = (decide (value < 0), naturalChars value.natAbs) := by
  cases value with
  | ofNat value =>
      have positive : decide (Int.ofNat value < 0) = false := decide_eq_false (by simp)
      rw [positive]
      exact takeSign_of_digits fun c member => isDecimal_of_mem_naturalChars member
  | negSucc value =>
      have negative : decide (Int.negSucc value < 0) = true := decide_eq_true (Int.negSucc_lt_zero value)
      rw [negative]
      rfl

theorem trimNumber_integerChars (value : Int) : trimNumber (integerChars value) = integerChars value := by
  have filled {value : Nat} : ∀ c ∈ naturalChars value, isBlank c = false := fun c member =>
    (basicDigit_facts c (mem_basicDigits_of_mem_naturalChars member)).2.1
  apply trimNumber_of_filled
  cases value with
  | ofNat value => exact filled
  | negSucc value => exact List.forall_mem_cons.mpr ⟨by decide, filled⟩

/-! ### Rounding what was read -/

/-- Zeros in front do not count. -/
theorem valueOfDigits_dropWhile (digits : List Nat) :
    valueOfDigits (digits.dropWhile (· == 0)) = valueOfDigits digits := by
  induction digits with
  | nil => rfl
  | cons digit rest inductionHypothesis =>
      by_cases zero : digit = 0
      · subst zero
        rw [List.dropWhile_cons_of_pos rfl, inductionHypothesis]
        rfl
      · rw [List.dropWhile_cons_of_neg (by simpa using zero)]

@[simp] theorem roundHalfEven_zero (denominator : Nat) : roundHalfEven 0 denominator = 0 := by
  simp [roundHalfEven]

theorem nearestUnits_zero (denominator : Nat) : nearestUnits 0 denominator = 0 := by
  unfold nearestUnits
  simp only [Nat.zero_mul, roundHalfEven_zero]

/-- Digits with a few places behind the point and without an exponent are rounded as the
quotient that they stand for. -/
theorem ofDecimal_of_places (negative : Bool) (digits : List Nat) {places : Nat} (few : places ≤ 330) :
    ofDecimal negative digits (-(places : Int)) = .nearest negative (valueOfDigits digits) (tenTo places) := by
  rw [← valueOfDigits_dropWhile digits]
  unfold ofDecimal
  generalize digits.dropWhile (· == 0) = significant
  by_cases none : significant = []
  · subst none
    have nothing : valueOfDigits [] = 0 := rfl
    simp only [List.isEmpty_nil, if_true, nothing, Double.nearest, nearestUnits_zero]
  · have filled : significant.isEmpty = false := List.isEmpty_eq_false_iff.mpr none
    have small : ¬310 < -(places : Int) := by omega
    have near : ¬-(places : Int) + significant.length < -330 := by
      have several := List.length_pos_iff.mpr none
      omega
    simp only [filled, Bool.false_eq_true, if_false, small, near, Int.neg_neg, Int.toNat_natCast]
    by_cases without : places = 0
    · subst without
      simp
    · have behind : ¬(0 : Int) ≤ -(places : Int) := by omega
      simp only [behind, if_false]

theorem decimalDouble?_naturalChars (negative : Bool) (value : Nat) :
    decimalDouble? negative (naturalChars value) = some (.nearest negative value 1) := by
  have digits : ∀ c ∈ naturalChars value, isDecimal c = true := fun c member =>
    isDecimal_of_mem_naturalChars member
  have run : (naturalChars value).takeWhile isDigitOrUnderscore = naturalChars value :=
    List.takeWhile_eq_self_iff.mpr (isDigitOrUnderscore_of_digits digits)
  have behind : (naturalChars value).dropWhile isDigitOrUnderscore = [] :=
    List.dropWhile_eq_nil_iff.mpr (isDigitOrUnderscore_of_digits digits)
  have whole := optionalDigits?_of_digits digits
  have filled : ((naturalChars value).filterMap decimalValue?).isEmpty = false :=
    List.isEmpty_eq_false_iff.mpr (values_ne_nil (naturalChars_ne_nil value) digits)
  have noPlaces : optionalDigits? [] = some [] := rfl
  simp only [decimalDouble?, run, behind, takeFraction, whole, noPlaces, exponent?, filled, Bool.false_and,
    Bool.false_eq_true, if_false, List.append_nil, List.length_nil, Int.natCast_zero, Int.sub_zero]
  have rounded := ofDecimal_of_places negative ((naturalChars value).filterMap decimalValue?) (Nat.zero_le 330)
  rw [valueOfDigits_naturalChars, tenTo_zero] at rounded
  exact congrArg some rounded

/-- The decimal form of a whole number is read as the double nearest to the number. -/
theorem readDouble?_integerChars (value : Int) :
    readDouble? (integerChars value) = some (.nearest (value < 0) value.natAbs 1) := by
  have unnamed : namedDouble? (decide (value < 0)) (naturalChars value.natAbs) = none := by
    apply namedDouble?_eq_none
    intro member
    rcases List.mem_map.mp member with ⟨c, digit, small⟩
    have facts := basicDigit_facts c (mem_basicDigits_of_mem_naturalChars digit)
    rw [facts.2.2.2.1] at small
    exact absurd (small ▸ facts.1) (by decide)
  rw [readDouble?, trimNumber_integerChars, takeSign_integerChars]
  simp only [unnamed, Option.none_or, decimalDouble?_naturalChars]

/-- Reading the decimal form of a whole number and rounding the number lead to the same
double. -/
theorem readDouble?_of_ofInteger? {value : Int} {held : Double} (near : Double.ofInteger? value = some held) :
    readDouble? (integerChars value) = some held := by
  rw [readDouble?_integerChars]
  rw [Double.ofInteger?] at near
  split at near
  · exact near
  · cases near

/-! ### Numbers that are not rounded -/

/-- A whole number up to 2⁵³ has no finer part than its grain. -/
theorem exists_grains {value : Nat} (small : value ≤ twoTo 53) :
    ∃ grains, value * twoTo 1074 = grains * twoTo (excessBits (value * twoTo 1074)) := by
  rcases Nat.lt_or_eq_of_le small with below | rfl
  · have scaled : value * twoTo 1074 < twoTo (53 + 1074) := by
      rw [twoTo_add]
      exact (Nat.mul_lt_mul_right (twoTo_pos 1074)).mpr below
    have finer : excessBits (value * twoTo 1074) ≤ 1074 := by
      by_cases none : value * twoTo 1074 = 0
      · rw [none, excessBits, Nat.log2_zero]
        omega
      · have bits := log2_lt_of_lt_twoTo none scaled
        rw [excessBits]
        omega
    refine ⟨value * twoTo (1074 - excessBits (value * twoTo 1074)), ?_⟩
    rw [Nat.mul_assoc, ← twoTo_add, Nat.sub_add_cancel finer]
  · -- at 2⁵³ itself the grain is two
    refine ⟨twoTo 52, ?_⟩
    rw [← twoTo_add, excessBits, log2_twoTo, ← twoTo_add]

theorem nearestUnits_of_small {value : Nat} (small : value ≤ twoTo 53) :
    nearestUnits value 1 = value * twoTo 1074 := by
  rcases exists_grains small with ⟨grains, parts⟩
  rw [nearestUnits_one]
  generalize excessBits (value * twoTo 1074) = excess at parts
  rw [parts, roundHalfEven_mul grains (twoTo_pos excess)]

namespace Double

/-- A whole number up to 2⁵³ becomes a double with the place of the number. -/
theorem place?_of_small {value : Int} {held : Double} (small : value.natAbs ≤ twoTo 53)
    (near : ofInteger? value = some held) : held.place? = some (value * twoTo 1074) := by
  rw [place?_of_ofInteger? near, nearestUnits_of_small small, Option.some.injEq]
  rcases Int.lt_or_le value 0 with negative | positive
  · have magnitude : (value.natAbs : Int) = -value := Int.ofNat_natAbs_of_nonpos (Int.le_of_lt negative)
    rw [if_pos negative, Int.natCast_mul, magnitude, Int.neg_mul, Int.neg_neg]
  · have magnitude : (value.natAbs : Int) = value := Int.natAbs_of_nonneg positive
    rw [if_neg (Int.not_lt.mpr positive), Int.natCast_mul, magnitude]

/-- A whole number below `tooLargeFrom` has a double. -/
theorem exists_ofInteger? {value : Int} (bounded : value.natAbs < tooLargeFrom) :
    ∃ held, ofInteger? value = some held := by
  apply Option.ne_none_iff_exists'.mp
  rw [Ne, ofInteger?_eq_none]
  exact Nat.not_le_of_gt bounded

end Double

/-- No whole number up to 2⁵³ is too large for a double. -/
theorem lt_tooLargeFrom_of_small {value : Nat} (small : value ≤ twoTo 53) : value < tooLargeFrom := by
  have far : twoTo 53 < tooLargeFrom := by decide +kernel
  exact Nat.lt_of_le_of_lt small far

/-!
## Canonical numerals

A numeral is canonical when no zero stands in front of other digits.  It is then the
one that its number is written with, so that reading it and writing the number gives
the same characters again.
-/

/-- A numeral of basic digits without a zero in front of other digits. -/
structure IsCanonical (digits : List Char) : Prop where
  filled : digits ≠ []
  basic : ∀ c ∈ digits, c ∈ basicDigits
  leading : digits.head? = some '0' → digits = ['0']

instance (digits : List Char) : Decidable (IsCanonical digits) :=
  decidable_of_iff
    (digits ≠ [] ∧ digits.all (fun c => basicDigits.contains c) = true ∧
      (digits.head? = some '0' → digits = ['0']))
    ⟨fun parts => ⟨parts.1, by simpa using parts.2.1, parts.2.2⟩,
      fun canonical => ⟨canonical.filled, by simpa using canonical.basic, canonical.leading⟩⟩

/-- Without its last digit, a canonical numeral of several digits is canonical, and is
not that of zero. -/
theorem IsCanonical.front {digits : List Char} {last : Char} (canonical : IsCanonical (digits ++ [last]))
    (several : digits ≠ []) : IsCanonical digits ∧ digits ≠ ['0'] := by
  have unlike : digits.head? ≠ some '0' := by
    intro zero
    have single : digits ++ [last] = ['0'] := by
      apply canonical.leading
      rw [List.head?_append, zero]
      rfl
    have lengths := congrArg List.length single
    rw [List.length_append, List.length_singleton, List.length_singleton] at lengths
    exact several (List.length_eq_zero_iff.mp (Nat.add_right_cancel lengths))
  refine ⟨⟨several, fun c member => canonical.basic c (List.mem_append_left _ member), ?_⟩, ?_⟩
  · exact fun zero => absurd zero unlike
  · rintro rfl
    exact unlike rfl

/-- A canonical numeral is what some number is written with. -/
theorem IsCanonical.exists_value {digits : List Char} (canonical : IsCanonical digits) :
    ∃ value, digits = naturalChars value := by
  induction digits using List.reverseRecOn with
  | nil => exact absurd rfl canonical.filled
  | append_singleton front last inductionHypothesis =>
      rcases List.mem_map.mp (canonical.basic last (by simp)) with ⟨digit, among, written⟩
      have small : digit < 10 := List.mem_range.mp among
      by_cases single : front = []
      · refine ⟨digit, ?_⟩
        rw [single, naturalChars_of_lt small, ← written]
        rfl
      · rcases canonical.front single with ⟨canonicalFront, notZero⟩
        rcases inductionHypothesis canonicalFront with ⟨value, same⟩
        have positive : value ≠ 0 := by
          rintro rfl
          exact notZero (same.trans (naturalChars_of_lt (by omega)))
        refine ⟨10 * value + digit, ?_⟩
        have front : (10 * value + digit) / 10 = value := by omega
        have behind : (10 * value + digit) % 10 = digit := by omega
        rw [naturalChars_of_ge (by omega), front, behind, same, written]

/-- A minus sign, or nothing. -/
def signChars (negative : Bool) : List Char :=
  if negative then ['-'] else []

/-- A whole number in canonical form: a canonical numeral with no more digits than are
read, and a minus sign in front of it if the number is negative. -/
def IsWholeNumeral (chars : List Char) : Prop :=
  ∃ negative digits, chars = signChars negative ++ digits ∧ IsCanonical digits ∧
    digits.length ≤ digitLimit ∧ ¬(negative = true ∧ digits = ['0'])

/-- A whole number in canonical form is what some number is written with. -/
theorem IsWholeNumeral.exists_value {chars : List Char} (numeral : IsWholeNumeral chars) :
    ∃ value : Int, chars = integerChars value ∧ value.natAbs < tenTo digitLimit := by
  rcases numeral with ⟨negative, digits, rfl, canonical, short, notMinusZero⟩
  rcases canonical.exists_value with ⟨magnitude, rfl⟩
  have bounded : magnitude < tenTo digitLimit := (length_naturalChars_le_iff magnitude 4299).mp short
  cases negative with
  | false => exact ⟨Int.ofNat magnitude, rfl, bounded⟩
  | true =>
      cases magnitude with
      | zero => exact absurd ⟨rfl, naturalChars_of_lt (by omega)⟩ notMinusZero
      | succ smaller => exact ⟨Int.negSucc smaller, rfl, bounded⟩

/-- A whole number that is not too long reads back from what it is written with. -/
theorem readInteger_integerChars {value : Int} (short : value.natAbs < tenTo digitLimit) :
    readInteger (integerChars value) = .ok value := by
  have digits : ∀ c ∈ naturalChars value.natAbs, isDecimal c = true := fun c member =>
    isDecimal_of_mem_naturalChars member
  have run := isDigitOrUnderscore_of_digits digits
  have read := groupedDigits?_of_digits (naturalChars_ne_nil value.natAbs) digits
  have few : ¬digitLimit < ((naturalChars value.natAbs).filterMap decimalValue?).length := by
    rw [length_values_of_digits digits]
    exact Nat.not_lt_of_ge ((length_naturalChars_le_iff value.natAbs 4299).mpr short)
  have signed : withSign (decide (value < 0)) value.natAbs = value := by
    unfold withSign
    by_cases negative : value < 0 <;> simp only [negative, decide_true, decide_false, if_true,
      Bool.false_eq_true, if_false] <;> omega
  unfold readInteger
  rw [trimNumber_integerChars, takeSign_integerChars]
  simp only [List.takeWhile_eq_self_iff.mpr run, List.dropWhile_eq_nil_iff.mpr run, read, few, if_false,
    List.isEmpty_nil, if_true, valueOfDigits_naturalChars, signed]

/-! ### Numbers that have been read -/

theorem decimalValue?_lt {c : Char} {value : Nat} (read : decimalValue? c = some value) : value < 10 := by
  rcases Option.map_eq_some_iff.mp read with ⟨start, found, rfl⟩
  have inside := List.find?_some found
  simp only [Bool.and_eq_true, decide_eq_true_eq] at inside
  omega

theorem lt_ten_of_groupedDigits? {chars : List Char} {digits : List Nat}
    (read : groupedDigits? chars = some digits) : ∀ digit ∈ digits, digit < 10 := by
  fun_induction groupedDigits? chars generalizing digits with
  | case1 => cases read
  | case2 c =>
      rcases Option.map_eq_some_iff.mp read with ⟨value, digit, rfl⟩
      exact List.forall_mem_singleton.mpr (decimalValue?_lt digit)
  | case3 c rest value values others digit inductionHypothesis =>
      cases read
      exact List.forall_mem_cons.mpr ⟨decimalValue?_lt digit, inductionHypothesis others⟩
  | case4 => cases read
  | case5 c rest _ _ value values others digit inductionHypothesis =>
      cases read
      exact List.forall_mem_cons.mpr ⟨decimalValue?_lt digit, inductionHypothesis others⟩
  | case6 => cases read

theorem tenTo_le_tenTo {a b : Nat} (less : a ≤ b) : tenTo a ≤ tenTo b :=
  Nat.pow_le_pow_right (by omega) less

/-- A number of digits stays below that power of ten. -/
theorem valueOfDigits_lt {digits : List Nat} (small : ∀ digit ∈ digits, digit < 10) :
    valueOfDigits digits < tenTo digits.length := by
  induction digits using List.reverseRecOn with
  | nil => exact Nat.one_pos
  | append_singleton digits last inductionHypothesis =>
      rw [List.forall_mem_append, List.forall_mem_singleton] at small
      have front := inductionHypothesis small.1
      rw [valueOfDigits_concat, List.length_append, List.length_singleton, tenTo_succ]
      omega

/-- A number that has been read can be written. -/
theorem natAbs_lt_of_readInteger {chars : List Char} {value : Int}
    (read : readInteger chars = .ok value) : value.natAbs < tenTo digitLimit := by
  unfold readInteger at read
  dsimp only at read
  split at read
  · cases read
  · rename_i digits grouped
    split at read
    · cases read
    · rename_i few
      split at read
      · cases read
        have below := valueOfDigits_lt (lt_ten_of_groupedDigits? grouped)
        have bound : tenTo digits.length ≤ tenTo digitLimit :=
          tenTo_le_tenTo (Nat.le_of_not_lt few)
        have magnitude : (withSign (takeSign (trimNumber chars)).1 (valueOfDigits digits)).natAbs =
            valueOfDigits digits := by
          rw [withSign]
          split <;> omega
        rw [magnitude]
        exact Nat.lt_of_lt_of_le below bound
      · cases read

end Number
end GameNight
