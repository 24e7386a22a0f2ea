import GameNight.Number.Decimal
import GameNight.Proofs.Text.Letters
import GameNight.Text.Character

namespace GameNight
namespace Number

open Text

/-!
# Numerals that are read

Which digits a numeral has, and of which characters a text is made that is read as a
number.
-/

/-!
## Numerals as they are written

The numeral of a natural number is made of basic digits, starts with one, and
reads back as the number.  It has no more than a given number of digits
exactly when the number lies below that power of ten, so that the limit on
digits is a limit on numbers.
-/

/-- The basic digits, from zero to nine. -/
def basicDigits : List Char :=
  (List.range 10).map digitChar

theorem digitChar_mem_basicDigits {value : Nat} (small : value < 10) :
    digitChar value ∈ basicDigits :=
  List.mem_map_of_mem (List.mem_range.mpr small)

theorem digitChar_facts : ∀ value : Fin 10, isDecimal (digitChar value) = true ∧
    isBlank (digitChar value) = false ∧ (digitChar value).toNat < 128 ∧
      (digitChar value).toLower = digitChar value ∧ digitChar value ≠ 'a' ∧ digitChar value ≠ ' ' := by
  decide

/-- What reading and trimming ask of a character holds of every basic digit. -/
theorem basicDigit_facts (c : Char) (basic : c ∈ basicDigits) :
    isDecimal c = true ∧ isBlank c = false ∧ c.toNat < 128 ∧ c.toLower = c ∧ c ≠ 'a' ∧ c ≠ ' ' := by
  rcases List.mem_map.mp basic with ⟨value, small, written⟩
  rw [← written]
  exact digitChar_facts ⟨value, List.mem_range.mp small⟩

theorem decimalValue?_of_lt {value : Nat} (small : value < 10) :
    decimalValue? (digitChar value) = some value :=
  decimalValue?_digitChar ⟨value, small⟩

theorem digitsBefore_eq_append (value : Nat) (tail : List Char) :
    digitsBefore value tail = naturalChars value ++ tail := by
  induction value using Nat.strongRecOn generalizing tail with
  | _ value inductionHypothesis =>
      rw [naturalChars, digitsBefore.eq_def value tail, digitsBefore.eq_def value []]
      by_cases small : value < 10
      · simp only [small, if_true, List.singleton_append]
      · have smaller : value / 10 < value := Nat.div_lt_self (by omega) (by omega)
        simp only [small, if_false]
        rw [inductionHypothesis _ smaller (digitChar (value % 10) :: tail),
          inductionHypothesis _ smaller [digitChar (value % 10)], List.append_assoc,
          List.singleton_append]

theorem naturalChars_of_lt {value : Nat} (small : value < 10) : naturalChars value = [digitChar value] := by
  rw [naturalChars, digitsBefore, if_pos small]

/-- A numeral of several digits is the numeral of the tenth part with one digit
behind it. -/
theorem naturalChars_of_ge {value : Nat} (large : 10 ≤ value) :
    naturalChars value = naturalChars (value / 10) ++ [digitChar (value % 10)] := by
  rw [naturalChars, digitsBefore, if_neg (Nat.not_lt_of_ge large), digitsBefore_eq_append]

theorem mem_basicDigits_of_mem_naturalChars {value : Nat} {c : Char} (member : c ∈ naturalChars value) :
    c ∈ basicDigits := by
  induction value using Nat.strongRecOn with
  | _ value inductionHypothesis =>
      by_cases small : value < 10
      · rw [naturalChars_of_lt small, List.mem_singleton] at member
        exact member ▸ digitChar_mem_basicDigits small
      · rw [naturalChars_of_ge (Nat.le_of_not_lt small)] at member
        rcases List.mem_append.mp member with earlier | last
        · exact inductionHypothesis _ (Nat.div_lt_self (by omega) (by omega)) earlier
        · rw [List.mem_singleton.mp last]
          exact digitChar_mem_basicDigits (Nat.mod_lt _ (by omega))

theorem naturalChars_ne_nil (value : Nat) : naturalChars value ≠ [] := by
  by_cases small : value < 10
  · rw [naturalChars_of_lt small]
    exact List.cons_ne_nil _ _
  · rw [naturalChars_of_ge (Nat.le_of_not_lt small)]
    exact List.append_ne_nil_of_right_ne_nil _ (List.cons_ne_nil _ _)

theorem valueOfDigits_concat (digits : List Nat) (digit : Nat) :
    valueOfDigits (digits ++ [digit]) = 10 * valueOfDigits digits + digit := by
  rw [valueOfDigits, List.foldl_append]
  rfl

/-- A numeral reads back as its number. -/
theorem valueOfDigits_naturalChars (value : Nat) :
    valueOfDigits ((naturalChars value).filterMap decimalValue?) = value := by
  induction value using Nat.strongRecOn with
  | _ value inductionHypothesis =>
      by_cases small : value < 10
      · rw [naturalChars_of_lt small, List.filterMap_cons_some (decimalValue?_of_lt small),
          List.filterMap_nil]
        simp [valueOfDigits]
      · have digit : decimalValue? (digitChar (value % 10)) = some (value % 10) :=
          decimalValue?_of_lt (Nat.mod_lt _ (by omega))
        rw [naturalChars_of_ge (Nat.le_of_not_lt small), List.filterMap_append,
          List.filterMap_cons_some digit, List.filterMap_nil, valueOfDigits_concat,
          inductionHypothesis _ (Nat.div_lt_self (by omega) (by omega))]
        exact Nat.div_add_mod value 10

/-- A number below a power of ten has no more digits than its exponent. -/
theorem length_naturalChars_le_iff (value digits : Nat) :
    (naturalChars value).length ≤ digits + 1 ↔ value < tenTo (digits + 1) := by
  induction digits generalizing value with
  | zero =>
      by_cases small : value < 10
      · simp [naturalChars_of_lt small, tenTo, small]
      · have several : (naturalChars (value / 10)).length ≠ 0 :=
          fun none => naturalChars_ne_nil _ (List.length_eq_zero_iff.mp none)
        rw [naturalChars_of_ge (Nat.le_of_not_lt small), List.length_append, List.length_singleton]
        simp [tenTo, several, small]
  | succ digits inductionHypothesis =>
      by_cases small : value < 10
      · have bound : 10 ≤ tenTo (digits + 1 + 1) := by
          rw [tenTo_succ]
          have positive : 0 < tenTo (digits + 1) := Nat.pow_pos (by omega)
          omega
        rw [naturalChars_of_lt small, List.length_singleton]
        omega
      · rw [naturalChars_of_ge (Nat.le_of_not_lt small), List.length_append, List.length_singleton,
          Nat.add_le_add_iff_right, inductionHypothesis, tenTo_succ (digits + 1)]
        omega

/-- A whole number that is not too long can be written. -/
theorem writeInteger_of_short {value : Int} (short : value.natAbs < tenTo digitLimit) :
    writeInteger value = .ok (integerText value) :=
  if_neg (Nat.not_le_of_lt short)

/-!
## Texts that are read as doubles

A text that is read as a double is a run of digits, letters, signs, points and
underscores, with blanks around it at most.  Other characters do not stand in it,
so that such a text can be written into a clause.  Trimming it drops the blanks
and leaves a text that is read as the same double.
-/

/-- The characters with which the tokens of a clause end, and the comma between
clauses. -/
def clauseMarks : List Char := [',', '=', '<', '>']

/-- The letters of the words for infinity and for no number, in small form. -/
def namedLetters : List Char := ['i', 'n', 'f', 't', 'y', 'a']

/-- A character that may stand in the text of a number, between the blanks around
it. -/
def StandsInNumber (c : Char) : Prop :=
  isBlank c = false ∧ c ∉ clauseMarks

instance : DecidablePred StandsInNumber := fun c =>
  inferInstanceAs (Decidable (isBlank c = false ∧ c ∉ clauseMarks))

theorem standsInNumber_of_isDigitOrUnderscore {c : Char} (digit : isDigitOrUnderscore c = true) :
    StandsInNumber c := by
  rw [isDigitOrUnderscore, Bool.or_eq_true, beq_iff_eq] at digit
  rcases digit with rfl | decimal
  · decide
  · constructor
    · rw [← Bool.not_eq_true]
      intro blank
      rw [not_isDecimal_of_isBlank blank] at decimal
      cases decimal
    · have others : clauseMarks.any isDecimal = false := by decide
      exact fun member => List.any_eq_false.mp others c member decimal

/-- The letters of the words may stand in either size. -/
theorem standsInNumber_of_letter {c : Char} (letter : c.toLower ∈ namedLetters) :
    StandsInNumber c := by
  constructor
  · rw [← Bool.not_eq_true]
    intro blank
    have others : ∀ code ∈ blankCodes, (Char.ofNat code).toLower ∉ namedLetters := by decide
    exact others c.toNat (toNat_mem_blankCodes blank) (by rwa [Char.ofNat_toNat])
  · have others : clauseMarks.any (fun d => d.toLower ∈ namedLetters) = false := by decide
    exact fun member => List.any_eq_false.mp others c member (decide_eq_true letter)

/-! ### The parts of a number -/

theorem isDigitOrUnderscore_of_decimalValue? {c : Char} {value : Nat} (read : decimalValue? c = some value) :
    isDigitOrUnderscore c = true := by
  rw [isDigitOrUnderscore, isDecimal, read, Option.isSome_some, Bool.or_true]

theorem isDigitOrUnderscore_of_groupedDigits? {chars : List Char} {digits : List Nat}
    (read : groupedDigits? chars = some digits) : ∀ c ∈ chars, isDigitOrUnderscore c = true := by
  fun_induction groupedDigits? chars generalizing digits with
  | case1 => cases read
  | case2 c =>
      rcases Option.map_eq_some_iff.mp read with ⟨value, digit, _⟩
      exact List.forall_mem_singleton.mpr (isDigitOrUnderscore_of_decimalValue? digit)
  | case3 c rest value values others digit inductionHypothesis =>
      exact List.forall_mem_cons.mpr ⟨isDigitOrUnderscore_of_decimalValue? digit,
        List.forall_mem_cons.mpr ⟨by decide, inductionHypothesis others⟩⟩
  | case4 => cases read
  | case5 c rest _ _ value values others digit inductionHypothesis =>
      exact List.forall_mem_cons.mpr ⟨isDigitOrUnderscore_of_decimalValue? digit, inductionHypothesis others⟩
  | case6 => cases read

theorem takeSign_cases (chars : List Char) :
    chars = (takeSign chars).2 ∨ chars = '-' :: (takeSign chars).2 ∨ chars = '+' :: (takeSign chars).2 := by
  fun_cases takeSign chars with
  | case1 => exact Or.inr (Or.inl rfl)
  | case2 => exact Or.inr (Or.inr rfl)
  | case3 => exact Or.inl rfl

/-- A sign may stand before what may stand in a number. -/
theorem standsInNumber_of_takeSign {chars : List Char} (stands : ∀ c ∈ (takeSign chars).2, StandsInNumber c) :
    ∀ c ∈ chars, StandsInNumber c := by
  rcases takeSign_cases chars with none | minus | plus
  · rwa [none]
  · rw [minus]
    exact List.forall_mem_cons.mpr ⟨by decide, stands⟩
  · rw [plus]
    exact List.forall_mem_cons.mpr ⟨by decide, stands⟩

theorem standsInNumber_of_groupedDigits? {chars : List Char} {digits : List Nat}
    (read : groupedDigits? chars = some digits) : ∀ c ∈ chars, StandsInNumber c := fun c member =>
  standsInNumber_of_isDigitOrUnderscore (isDigitOrUnderscore_of_groupedDigits? read c member)

theorem standsInNumber_of_exponent? {chars : List Char} {exponent : Int}
    (read : exponent? chars = some exponent) : ∀ c ∈ chars, StandsInNumber c := by
  cases chars with
  | nil => exact fun c member => absurd member List.not_mem_nil
  | cons letter rest =>
      rw [exponent?] at read
      split at read
      · rename_i marked
        rcases Option.map_eq_some_iff.mp read with ⟨digits, grouped, _⟩
        refine List.forall_mem_cons.mpr ⟨?_, ?_⟩
        · rcases marked with rfl | rfl <;> decide
        · exact standsInNumber_of_takeSign (standsInNumber_of_groupedDigits? grouped)
      · cases read

theorem standsInNumber_of_run {chars : List Char} :
    ∀ c ∈ chars.takeWhile isDigitOrUnderscore, StandsInNumber c := fun c member =>
  standsInNumber_of_isDigitOrUnderscore (List.all_eq_true.mp List.all_takeWhile c member)

theorem standsInNumber_of_takeFraction {chars : List Char}
    (stands : ∀ c ∈ (takeFraction chars).2, StandsInNumber c) : ∀ c ∈ chars, StandsInNumber c := by
  revert stands
  fun_cases takeFraction chars with
  | case1 rest =>
      intro stands
      refine List.forall_mem_cons.mpr ⟨by decide, ?_⟩
      rw [← List.takeWhile_append_dropWhile (p := isDigitOrUnderscore) (l := rest)]
      exact List.forall_mem_append.mpr ⟨standsInNumber_of_run, stands⟩
  | case2 => exact id

theorem standsInNumber_of_decimalDouble? {negative : Bool} {chars : List Char} {number : Double}
    (read : decimalDouble? negative chars = some number) : ∀ c ∈ chars, StandsInNumber c := by
  rw [decimalDouble?] at read
  split at read
  · rename_i whole places exponent _ _ ending
    rw [← List.takeWhile_append_dropWhile (p := isDigitOrUnderscore) (l := chars)]
    refine List.forall_mem_append.mpr ⟨standsInNumber_of_run, ?_⟩
    exact standsInNumber_of_takeFraction (standsInNumber_of_exponent? ending)
  · cases read

theorem standsInNumber_of_namedDouble? {negative : Bool} {chars : List Char} {number : Double}
    (read : namedDouble? negative chars = some number) : ∀ c ∈ chars, StandsInNumber c := by
  have letters {word : String} (spelled : String.ofList (chars.map Char.toLower) = word)
      (among : word.toList.all (· ∈ namedLetters) = true) :
      ∀ c ∈ chars, StandsInNumber c := by
    intro c member
    refine standsInNumber_of_letter (of_decide_eq_true (List.all_eq_true.mp among _ ?_))
    rw [← spelled, String.toList_ofList]
    exact List.mem_map_of_mem member
  simp only [namedDouble?] at read
  split at read
  · rename_i infinite
    rcases infinite with short | long
    · exact letters short (by decide)
    · exact letters long (by decide)
  · split at read
    · rename_i named
      exact letters named (by decide)
    · cases read

/-! ### The whole text -/

/-- Nothing else stands in a text that is read as a double, once the blanks around it
are dropped. -/
theorem standsInNumber_of_readDouble? {chars : List Char} {number : Double}
    (read : readDouble? chars = some number) : ∀ c ∈ trimNumber chars, StandsInNumber c := by
  refine standsInNumber_of_takeSign ?_
  rcases Option.or_eq_some_iff.mp read with named | ⟨_, decimal⟩
  · exact standsInNumber_of_namedDouble? named
  · exact standsInNumber_of_decimalDouble? decimal

/-- No double is read from nothing. -/
theorem trimNumber_ne_nil {chars : List Char} {number : Double} (read : readDouble? chars = some number) :
    trimNumber chars ≠ [] := by
  intro nothing
  have unread : (namedDouble? (takeSign []).1 (takeSign []).2).or
      (decimalDouble? (takeSign []).1 (takeSign []).2) = none := by decide
  rw [readDouble?, nothing, unread] at read
  cases read

theorem isBlank_of_isNumberBlank {c : Char} (blank : isNumberBlank c = true) : isBlank c = true := by
  rw [isNumberBlank, Bool.and_eq_true] at blank
  exact blank.1

/-- A text is what is left of it for a number, with blanks around it. -/
theorem exists_blanks_around_trimNumber (chars : List Char) :
    ∃ before after, chars = before ++ trimNumber chars ++ after ∧
      (∀ c ∈ before, isBlank c = true) ∧ ∀ c ∈ after, isBlank c = true := by
  refine ⟨chars.takeWhile isNumberBlank, ((chars.dropWhile isNumberBlank).reverse.takeWhile isNumberBlank).reverse,
    ?_, fun c member => ?_, fun c member => ?_⟩
  · rw [trimNumber, List.append_assoc, ← List.reverse_append, List.takeWhile_append_dropWhile,
      List.reverse_reverse, List.takeWhile_append_dropWhile]
  · exact isBlank_of_isNumberBlank (List.all_eq_true.mp List.all_takeWhile c member)
  · exact isBlank_of_isNumberBlank (List.all_eq_true.mp List.all_takeWhile c (List.mem_reverse.mp member))

/-- What stands in a text that is read as a double is a blank, or may stand in a
number. -/
theorem isBlank_or_standsInNumber {chars : List Char} {number : Double}
    (read : readDouble? chars = some number) : ∀ c ∈ chars, isBlank c = true ∨ StandsInNumber c := by
  rcases exists_blanks_around_trimNumber chars with ⟨before, after, parts, blankBefore, blankAfter⟩
  rw [parts]
  intro c member
  rcases List.mem_append.mp member with inFront | behind
  · rcases List.mem_append.mp inFront with front | inside
    · exact Or.inl (blankBefore c front)
    · exact Or.inr (standsInNumber_of_readDouble? read c inside)
  · exact Or.inl (blankAfter c behind)

/-- Trimming a text that is read as a double leaves what the number is read from. -/
theorem trim_eq_trimNumber {chars : List Char} {number : Double}
    (read : readDouble? chars = some number) : trim chars = trimNumber chars := by
  rcases exists_blanks_around_trimNumber chars with ⟨before, after, parts, blankBefore, blankAfter⟩
  calc trim chars
      = trim (before ++ trimNumber chars ++ after) := by rw [← parts]
    _ = trim (trimNumber chars) := by
        rw [trim_append_of_blanks blankAfter, trim_blanks_append blankBefore]
    _ = trimNumber chars := trim_of_filled fun c member => (standsInNumber_of_readDouble? read c member).1

/-- A text without blanks is left as it is for a number. -/
theorem trimNumber_of_filled {chars : List Char} (filled : ∀ c ∈ chars, isBlank c = false) :
    trimNumber chars = chars := by
  have unblank : ∀ c ∈ chars, isNumberBlank c = false := fun c member => by
    rw [isNumberBlank, filled c member, Bool.false_and]
  have kept {others : List Char} (among : others ⊆ chars) : others.dropWhile isNumberBlank = others := by
    cases others with
    | nil => rfl
    | cons c rest =>
        rw [List.dropWhile_cons_of_neg]
        rw [unblank c (among List.mem_cons_self)]
        exact Bool.false_ne_true
  rw [trimNumber, kept (List.Subset.refl chars), kept (List.reverse_subset.mpr (List.Subset.refl chars)),
    List.reverse_reverse]

/-- Trimming does not change the double that a text is read as. -/
theorem readDouble?_trim {chars : List Char} {number : Double} (read : readDouble? chars = some number) :
    readDouble? (trim chars) = some number := by
  have again : trimNumber (trimNumber chars) = trimNumber chars :=
    trimNumber_of_filled fun c member => (standsInNumber_of_readDouble? read c member).1
  rw [readDouble?] at read ⊢
  rwa [trim_eq_trimNumber read, again]

end Number
end GameNight
