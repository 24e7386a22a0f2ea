import GameNight.Proofs.Number.Reading
import GameNight.Proofs.Text.Letters
import GameNight.Proofs.Text.Words
import GameNight.Shortlist

namespace GameNight

open Text Number

/-!
# What selections pick

A selection picks games by a number, by a range or by a name, and which of these it is
depends on its text alone.
-/

/-!
## Selections by number

The numeral of a number is a selection of its own kind: it is neither blank
nor the word `all`, and it picks the one game with that number.  Only a
numeral that is too long to be read picks nothing.
-/

/-- A numeral has no blanks to trim. -/
@[simp] theorem trim_naturalChars (number : Nat) : trim (naturalChars number) = naturalChars number :=
  trim_of_filled fun c member => (basicDigit_facts c (mem_basicDigits_of_mem_naturalChars member)).2.1

theorem lowerChars_naturalChars (number : Nat) : lowerChars (naturalChars number) = naturalChars number :=
  lowerChars_of_plain fun c member =>
    have facts := basicDigit_facts c (mem_basicDigits_of_mem_naturalChars member)
    ⟨facts.2.2.1, facts.2.2.2.1⟩

theorem naturalChars_ne_all (number : Nat) : naturalChars number ≠ ['a', 'l', 'l'] := by
  intro same
  have member : 'a' ∈ naturalChars number := same ▸ List.mem_cons_self
  exact (basicDigit_facts 'a' (mem_basicDigits_of_mem_naturalChars member)).2.2.2.2.1 rfl

theorem isNumeral_iff {chars : List Char} :
    isNumeral chars = true ↔ chars ≠ [] ∧ ∀ c ∈ chars, isDecimal c = true := by
  rw [isNumeral, Bool.and_eq_true, Bool.not_eq_true', List.isEmpty_eq_false_iff, List.all_eq_true]

theorem isNumeral_naturalChars (number : Nat) : isNumeral (naturalChars number) = true :=
  isNumeral_iff.mpr ⟨naturalChars_ne_nil number, fun c member =>
    (basicDigit_facts c (mem_basicDigits_of_mem_naturalChars member)).1⟩

theorem numeralValue_naturalChars {number : Nat} (written : number < tenTo digitLimit) :
    numeralValue (naturalChars number) = .ok number := by
  have short : (naturalChars number).length ≤ digitLimit :=
    (length_naturalChars_le_iff number 4299).mpr written
  rw [numeralValue, if_neg (Nat.not_lt_of_ge short), valueOfDigits_naturalChars]

theorem selectGames_naturalText {number : Nat} {candidates : List Game} {game : Game}
    (written : number + 1 < tenTo digitLimit) (placed : candidates[number]? = some game) :
    selectGames (some (naturalText (number + 1))) candidates = .ok [game] := by
  have token : trim ((some (naturalText (number + 1))).getD "").toList = naturalChars (number + 1) := by
    rw [Option.getD_some, naturalText, String.toList_ofList, trim_naturalChars]
  simp only [selectGames, token, List.isEmpty_eq_false_iff.mpr (naturalChars_ne_nil _),
    lowerChars_naturalChars, naturalChars_ne_all, isNumeral_naturalChars, Bool.false_eq_true,
    if_false, if_true, gameNumbered, numeralValue_naturalChars written, Nat.add_one_ne_zero,
    Nat.add_sub_cancel, placed]

/-!
## Selections by a range

A range is two numbers with a hyphen between them, and blanks around the hyphen
if any.  It is made of characters without case, and so it is neither the word `all`
nor, because of its hyphen, a number.

A range of two numbers that are written out picks the games from the one to the
other.  Where games are put together from three pieces, the range that starts behind
the first piece and ends with the second picks the second.  In this form, nothing
has to be counted when some of the games are gone.
-/

/-- Digits end at a blank or at the hyphen. -/
theorem not_isDecimal_of_head? {blanks : List Char} (blank : ∀ c ∈ blanks, isBlank c = true)
    (rest : List Char) : ∀ c ∈ (blanks ++ '-' :: rest).head?, isDecimal c = false := by
  intro c head
  cases blanks with
  | nil => exact Option.mem_some.mp head ▸ by decide
  | cons first others =>
      exact not_isDecimal_of_isBlank (blank c (Option.mem_some.mp head ▸ List.mem_cons_self))

/-- Blanks end at the first digit of a number. -/
theorem not_isBlank_of_head? {chars : List Char} (digits : ∀ c ∈ chars, isDecimal c = true) :
    ∀ c ∈ chars.head?, isBlank c = false := by
  intro c head
  apply Bool.eq_false_iff.mpr
  intro blank
  have undecimal := not_isDecimal_of_isBlank blank
  rw [digits c (List.mem_of_mem_head? head)] at undecimal
  cases undecimal

/-- The two numerals of a range are what stands before its hyphen and behind
it, without the blanks around the hyphen. -/
theorem rangeNumerals?_eq_some {token first last : List Char} :
    rangeNumerals? token = some (first, last) ↔
      isNumeral first = true ∧ isNumeral last = true ∧
        ∃ blanks others, (∀ c ∈ blanks, isBlank c = true) ∧ (∀ c ∈ others, isBlank c = true) ∧
          token = first ++ (blanks ++ '-' :: (others ++ last)) := by
  constructor
  · intro found
    simp only [rangeNumerals?] at found
    split at found
    · rename_i rest behind
      split at found
      · rename_i filled
        rw [Option.some.injEq, Prod.mk.injEq] at found
        rw [Bool.and_eq_true, Bool.not_eq_true', List.isEmpty_eq_false_iff] at filled
        rcases found with ⟨rfl, rfl⟩
        refine ⟨isNumeral_iff.mpr ⟨filled.1, List.all_eq_true.mp List.all_takeWhile⟩, filled.2,
          (token.dropWhile isDecimal).takeWhile isBlank, rest.takeWhile isBlank,
          List.all_eq_true.mp List.all_takeWhile, List.all_eq_true.mp List.all_takeWhile, ?_⟩
        rw [trimStart, List.takeWhile_append_dropWhile, ← behind, trimStart,
          List.takeWhile_append_dropWhile, List.takeWhile_append_dropWhile]
      · cases found
    · cases found
  · rintro ⟨firstNumeral, lastNumeral, blanks, others, blanksBlank, othersBlank, parts⟩
    rcases isNumeral_iff.mp firstNumeral with ⟨firstFilled, firstDigits⟩
    rcases isNumeral_iff.mp lastNumeral with ⟨lastFilled, lastDigits⟩
    have digitsEnd := not_isDecimal_of_head? blanksBlank (others ++ last)
    have blanksEnd : ∀ c ∈ ('-' :: (others ++ last)).head?, isBlank c = false := by
      intro c head
      exact Option.mem_some.mp head ▸ by decide
    have othersEnd := not_isBlank_of_head? lastDigits
    simp only [rangeNumerals?, parts, takeWhile_of_run firstDigits digitsEnd,
      dropWhile_of_run firstDigits digitsEnd, trimStart, dropWhile_of_run blanksBlank blanksEnd,
      dropWhile_of_run othersBlank othersEnd, List.isEmpty_eq_false_iff.mpr firstFilled, lastNumeral,
      Bool.not_false, Bool.and_self, if_true]

/-- Whether a text is a range: two numbers and a hyphen, with any blanks around the
hyphen. -/
def IsRange (chars : List Char) : Prop :=
  ∃ first last, isNumeral first = true ∧ isNumeral last = true ∧
    ∃ blanks others, (∀ c ∈ blanks, isBlank c = true) ∧ (∀ c ∈ others, isBlank c = true) ∧
      chars = first ++ (blanks ++ '-' :: (others ++ last))

theorem isRange_iff {chars : List Char} :
    IsRange chars ↔ ∃ first last, rangeNumerals? chars = some (first, last) := by
  simp only [IsRange, rangeNumerals?_eq_some]

theorem isMark_of_isNumeral {chars : List Char} (numeral : isNumeral chars = true) :
    ∀ c ∈ chars, isMark c = true :=
  fun c member => isMark_of_isDecimal ((isNumeral_iff.mp numeral).2 c member)

namespace IsRange

variable {chars : List Char}

theorem hyphen_mem (isRange : IsRange chars) : '-' ∈ chars := by
  rcases isRange with ⟨first, last, _, _, blanks, others, _, _, parts⟩
  rw [parts]
  apply List.mem_append_right
  apply List.mem_append_right
  exact List.mem_cons_self

theorem isMark (isRange : IsRange chars) : ∀ c ∈ chars, Text.isMark c = true := by
  rcases isRange with ⟨first, last, firstNumeral, lastNumeral, blanks, others, blank, otherBlank, parts⟩
  intro c member
  simp only [parts, List.mem_append, List.mem_cons] at member
  rcases member with inFirst | inBlanks | hyphen | inOthers | inLast
  · exact isMark_of_isNumeral firstNumeral c inFirst
  · exact isMark_of_isBlank (blank c inBlanks)
  · exact hyphen ▸ isMark_hyphen
  · exact isMark_of_isBlank (otherBlank c inOthers)
  · exact isMark_of_isNumeral lastNumeral c inLast

/-- A range has a hyphen and is no number. -/
theorem not_isNumeral (isRange : IsRange chars) : isNumeral chars = false := by
  apply Bool.eq_false_iff.mpr
  intro numeral
  have digit := (isNumeral_iff.mp numeral).2 '-' isRange.hyphen_mem
  exact absurd digit (by decide)

theorem lowerChars_ne_all (isRange : IsRange chars) : lowerChars chars ≠ ['a', 'l', 'l'] := by
  rw [lowerChars_of_marks isRange.isMark]
  intro same
  have hyphen : '-' ∈ ['a', 'l', 'l'] := same ▸ isRange.hyphen_mem
  exact absurd hyphen (by decide)

end IsRange

theorem selectGames_of_range {selection : String} {first last : List Char} (candidates : List Game)
    (range : rangeNumerals? (trim selection.toList) = some (first, last)) :
    selectGames (some selection) candidates =
      gamesInRange (trim selection.toList) first last candidates := by
  have isRange : IsRange (trim selection.toList) := isRange_iff.mpr ⟨first, last, range⟩
  have filled : (trim selection.toList).isEmpty = false :=
    List.isEmpty_eq_false_iff.mpr (List.ne_nil_of_mem isRange.hyphen_mem)
  simp only [selectGames, Option.getD_some, filled, isRange.lowerChars_ne_all, isRange.not_isNumeral,
    range, Bool.false_eq_true, if_false]

/-! ### Written numbers -/

/-- The range of two numbers as it is written. -/
def rangeText (start stop : Nat) : String :=
  naturalText start ++ "-" ++ naturalText stop

theorem trim_rangeText (start stop : Nat) :
    trim (rangeText start stop).toList = naturalChars start ++ '-' :: naturalChars stop := by
  have written : (rangeText start stop).toList = naturalChars start ++ '-' :: naturalChars stop := by
    simp only [rangeText, naturalText, String.toList_append, String.toList_ofList, List.append_assoc]
    rfl
  rw [written]
  apply trim_of_filled
  intro c member
  rcases List.mem_append.mp member with inFirst | behind
  · exact (basicDigit_facts c (mem_basicDigits_of_mem_naturalChars inFirst)).2.1
  · rcases List.mem_cons.mp behind with hyphen | inLast
    · exact hyphen ▸ by decide
    · exact (basicDigit_facts c (mem_basicDigits_of_mem_naturalChars inLast)).2.1

theorem rangeNumerals?_rangeText (start stop : Nat) :
    rangeNumerals? (trim (rangeText start stop).toList) = some (naturalChars start, naturalChars stop) := by
  rw [trim_rangeText]
  apply rangeNumerals?_eq_some.mpr
  exact ⟨isNumeral_naturalChars start, isNumeral_naturalChars stop, [], [], nofun, nofun, rfl⟩

theorem selectGames_all (candidates : List Game) : selectGames (some "all") candidates = .ok candidates :=
  rfl

section Pieces

variable {before picked after : List Game}

/-- The range from behind the first of three pieces to the end of the second picks
the second. -/
theorem selectGames_rangeText (filled : picked ≠ [])
    (written : before.length + picked.length < tenTo digitLimit) :
    selectGames (some (rangeText (before.length + 1) (before.length + picked.length)))
      (before ++ picked ++ after) = .ok picked := by
  have some : 0 < picked.length := List.length_pos_iff.mpr filled
  have readStart : numeralValue (naturalChars (before.length + 1)) = .ok (before.length + 1) :=
    numeralValue_naturalChars (by omega)
  have readStop := numeralValue_naturalChars written
  have inside : ¬(before.length + picked.length < before.length + 1 ∨ before.length + 1 < 1 ∨
      (before ++ picked ++ after).length < before.length + picked.length) := by
    rw [List.length_append, List.length_append]
    omega
  have taken : (before ++ picked ++ after).take (before.length + picked.length) = before ++ picked := by
    rw [← List.length_append, List.take_left]
  rw [selectGames_of_range _ (rangeNumerals?_rangeText _ _)]
  simp only [gamesInRange, readStart, readStop, inside, if_false, taken, Nat.add_sub_cancel,
    List.drop_left]

/-- The number behind the length of a piece picks the game behind this piece. -/
theorem selectGames_number {game : Game} (written : before.length + 1 < tenTo digitLimit) :
    selectGames (some (naturalText (before.length + 1))) (before ++ game :: after) = .ok [game] := by
  apply selectGames_naturalText written
  rw [List.getElem?_append_right (Nat.le_refl _), Nat.sub_self, List.getElem?_cons_zero]

/-- Every range of numbers on offer cuts the games in three pieces. -/
theorem exists_pieces {games : List Game} {start stop : Nat} (positive : 1 ≤ start) (rising : start ≤ stop)
    (inside : stop ≤ games.length) :
    ∃ before picked after, games = before ++ picked ++ after ∧ before.length + 1 = start ∧
      before.length + picked.length = stop := by
  refine ⟨games.take (start - 1), (games.take stop).drop (start - 1), games.drop stop, ?_, ?_, ?_⟩
  · have front : (games.take stop).take (start - 1) = games.take (start - 1) := by
      rw [List.take_take, Nat.min_eq_left (by omega)]
    rw [← front, List.take_append_drop, List.take_append_drop]
  · rw [List.length_take, Nat.min_eq_left (by omega)]
    omega
  · rw [List.length_take, List.length_drop, List.length_take, Nat.min_eq_left (by omega),
      Nat.min_eq_left inside]
    omega

/-- Every number on offer has a game, with others before it and behind it. -/
theorem exists_piece {games : List Game} {number : Nat} (positive : 1 ≤ number)
    (inside : number ≤ games.length) :
    ∃ before game after, games = before ++ game :: after ∧ before.length + 1 = number := by
  rcases exists_pieces positive (Nat.le_refl number) inside with ⟨before, picked, after, pieces, starts, stops⟩
  have single : picked.length = 1 := by omega
  rcases List.length_eq_one_iff.mp single with ⟨game, alone⟩
  refine ⟨before, game, after, ?_, starts⟩
  rw [pieces, alone, List.append_assoc, List.singleton_append]

end Pieces

/-!
## Selections by name

A selection is looked up as a name only after it has been tried as the word `all`,
as a number and as a range.  So a game cannot be picked by a name that has one of
these forms.  Every other name picks the first game that has it, in whatever letters
the selection is given.

The word `all` is compared in small letters, like a name.  The other two forms are
not, and one has to rule out that a name takes one of them when its letters are
changed: what they are made of has no case.
-/

/-- Whether a name is no other kind of selection.  Blanks at its ends need not be
ruled out, since no selection has the small letters of such a name. -/
structure Addressable (name : String) : Prop where
  filled : name ≠ ""
  notAll : lower name ≠ "all"
  notNumber : ¬∀ c ∈ name.toList, isDecimal c = true
  notRange : ¬IsRange name.toList

section Alike

variable {token chars : List Char}

/-- A text of marks has the small letters of no other text. -/
theorem eq_of_marks (alike : lowerChars token = lowerChars chars)
    (marks : ∀ c ∈ token, isMark c = true) : chars = token := by
  rw [lowerChars_of_marks marks] at alike
  exact (lowerChars_eq_iff_of_marks marks).mp alike.symm

theorem ne_nil_of_alike (alike : lowerChars token = lowerChars chars) (filled : chars ≠ []) :
    token ≠ [] := by
  rintro rfl
  exact filled (eq_of_marks alike nofun)

theorem not_isNumeral_of_alike (alike : lowerChars token = lowerChars chars)
    (notNumber : ¬∀ c ∈ chars, isDecimal c = true) : isNumeral token = false := by
  apply Bool.eq_false_iff.mpr
  intro numeral
  apply notNumber
  rw [eq_of_marks alike (isMark_of_isNumeral numeral)]
  exact (isNumeral_iff.mp numeral).2

theorem rangeNumerals?_of_alike (alike : lowerChars token = lowerChars chars)
    (notRange : ¬IsRange chars) : rangeNumerals? token = none := by
  apply Option.eq_none_iff_forall_ne_some.mpr
  rintro ⟨first, last⟩ range
  have isRange : IsRange token := isRange_iff.mpr ⟨first, last, range⟩
  apply notRange
  rwa [eq_of_marks alike isRange.isMark]

end Alike

section Named

variable {selection name : String} {candidates before after : List Game} {found : Game}

/-- A selection with the letters of an addressable name, in any size, is looked up
as a name. -/
theorem selectGames_of_alike (addressable : Addressable name)
    (alike : lower (strip selection) = lower name) (candidates : List Game) :
    selectGames (some selection) candidates = gameNamed (trim selection.toList) candidates := by
  have small : lowerChars (trim selection.toList) = lowerChars name.toList := by
    rw [← toList_lower, ← alike, toList_lower, toList_strip]
  have filled : (trim selection.toList).isEmpty = false := by
    apply List.isEmpty_eq_false_iff.mpr
    exact ne_nil_of_alike small fun none => addressable.filled (String.toList_eq_nil_iff.mp none)
  have notAll : lowerChars (trim selection.toList) ≠ ['a', 'l', 'l'] := by
    intro same
    apply addressable.notAll
    rw [lower, ← small, same]
  simp only [selectGames, Option.getD_some, filled, notAll,
    not_isNumeral_of_alike small addressable.notNumber,
    rangeNumerals?_of_alike small addressable.notRange, Bool.false_eq_true, if_false]

/-- Such a selection picks the first game of the name. -/
theorem selectGames_named (addressable : Addressable name) (alike : lower (strip selection) = lower name)
    (parts : candidates = before ++ found :: after) (named : found.sortName = lower name)
    (unlike : ∀ other ∈ before, other.sortName ≠ lower name) :
    selectGames (some selection) candidates = .ok [found] := by
  have sought : lower (String.ofList (trim selection.toList)) = lower name := alike
  have first : (candidates.find? fun game => game.sortName == lower name) = some found := by
    apply List.find?_eq_some_iff_append.mpr
    refine ⟨beq_iff_eq.mpr named, before, after, parts, fun other earlier => ?_⟩
    rw [beq_false_of_ne (unlike other earlier)]
    rfl
  rw [selectGames_of_alike addressable alike, gameNamed, sought, first]

theorem exists_first_named {game : Game} (listed : game ∈ candidates) :
    ∃ before found after, candidates = before ++ found :: after ∧ found.sortName = game.sortName ∧
      ∀ other ∈ before, other.sortName ≠ game.sortName := by
  have some : (candidates.find? fun other => other.sortName == game.sortName).isSome = true :=
    List.find?_isSome.mpr ⟨game, listed, beq_self_eq_true _⟩
  rcases Option.isSome_iff_exists.mp some with ⟨found, first⟩
  rcases List.find?_eq_some_iff_append.mp first with ⟨named, before, after, parts, unlike⟩
  refine ⟨before, found, after, parts, beq_iff_eq.mp named, fun other earlier same => ?_⟩
  have different := unlike other earlier
  rw [same, beq_self_eq_true] at different
  cases different

end Named

/-!
## Selections with numbers that cannot be read

A selection by number or by a range of numbers is refused with a reason of
its own when one of its numbers has too many digits.  This depends on the text
of the selection alone, and not on the games that it is about.
-/

namespace Text

theorem lowerChar_ne_nil (c : Char) : lowerChar c ≠ [] := by
  rw [lowerChar]
  split
  · exact List.cons_ne_nil _ _
  · split
    · exact List.cons_ne_nil _ _
    · split <;> exact List.cons_ne_nil _ _

theorem length_le_lowerAfter (before chars : List Char) :
    chars.length ≤ (lowerAfter before chars).length := by
  induction chars generalizing before with
  | nil => exact Nat.le_refl 0
  | cons c rest inductionHypothesis =>
      rw [lowerAfter, List.length_append, List.length_cons, Nat.add_comm rest.length]
      refine Nat.add_le_add ?_ (inductionHypothesis (c :: before))
      split
      · exact Nat.le_refl 1
      · exact List.length_pos_iff.mpr (lowerChar_ne_nil c)

/-- Small letters are no fewer than the letters they are made of. -/
theorem length_le_lowerChars (chars : List Char) : chars.length ≤ (lowerChars chars).length :=
  length_le_lowerAfter [] chars

end Text

/-- A number with more digits than are read. -/
def IsLongNumber (token : List Char) : Prop :=
  isNumeral token = true ∧ digitLimit < token.length

/-- A range of two numbers, one of which has more digits than are read. -/
def IsLongRange (token : List Char) : Prop :=
  ∃ first last, (digitLimit < first.length ∨ digitLimit < last.length) ∧
    isNumeral first = true ∧ isNumeral last = true ∧
      ∃ blanks others, (∀ c ∈ blanks, isBlank c = true) ∧ (∀ c ∈ others, isBlank c = true) ∧
        token = first ++ (blanks ++ '-' :: (others ++ last))

/-- A selection that is such a number or such a range when the blanks around it
are dropped. -/
def Unreadable (selection : Option String) : Prop :=
  let token := trim (selection.getD "").toList
  IsLongNumber token ∨ IsLongRange token

theorem isLongRange_iff {token : List Char} :
    IsLongRange token ↔ ∃ first last, (digitLimit < first.length ∨ digitLimit < last.length) ∧
      rangeNumerals? token = some (first, last) := by
  simp only [IsLongRange, rangeNumerals?_eq_some]

theorem IsLongRange.isRange {token : List Char} (long : IsLongRange token) : IsRange token := by
  rcases isLongRange_iff.mp long with ⟨first, last, _, range⟩
  exact isRange_iff.mpr ⟨first, last, range⟩

/-- Numbers and ranges with so many digits are longer than any word. -/
theorem digitLimit_lt_length {token : List Char} (unread : IsLongNumber token ∨ IsLongRange token) :
    digitLimit < token.length := by
  rcases unread with ⟨_, long⟩ | ⟨first, last, long, _, _, blanks, others, _, _, parts⟩
  · exact long
  · rw [parts, List.length_append, List.length_append, List.length_cons, List.length_append]
    omega

theorem numeralValue_eq_ok_or_error (numeral : List Char) :
    (∃ value, numeralValue numeral = .ok value ∧ numeral.length ≤ digitLimit) ∨
      ∃ digits, numeralValue numeral = .error (.tooManyDigits digits) ∧ digitLimit < numeral.length := by
  rw [numeralValue]
  by_cases long : digitLimit < numeral.length
  · exact Or.inr ⟨_, if_pos long, long⟩
  · exact Or.inl ⟨_, if_neg long, Nat.le_of_not_lt long⟩

theorem gameNumbered_tooManyDigits (token : List Char) (candidates : List Game) :
    (∃ digits, gameNumbered token candidates = .error (.tooManyDigits digits)) ↔
      digitLimit < token.length := by
  rw [gameNumbered]
  rcases numeralValue_eq_ok_or_error token with ⟨value, read, short⟩ | ⟨digits, failed, long⟩
  · rw [read, iff_false_right (Nat.not_lt_of_ge short)]
    dsimp only
    split
    · simp
    · split <;> simp
  · rw [failed, iff_true_right long]
    exact ⟨digits, rfl⟩

theorem gamesInRange_tooManyDigits (token first last : List Char) (candidates : List Game) :
    (∃ digits, gamesInRange token first last candidates = .error (.tooManyDigits digits)) ↔
      digitLimit < first.length ∨ digitLimit < last.length := by
  rw [gamesInRange]
  rcases numeralValue_eq_ok_or_error first with ⟨start, read, short⟩ | ⟨digits, failed, long⟩
  · rw [read, or_iff_right (Nat.not_lt_of_ge short)]
    rcases numeralValue_eq_ok_or_error last with ⟨stop, readLast, shortLast⟩ | ⟨digits, failed, long⟩
    · rw [readLast, iff_false_right (Nat.not_lt_of_ge shortLast)]
      dsimp only
      split <;> simp
    · rw [failed, iff_true_right long]
      exact ⟨digits, rfl⟩
  · rw [failed, iff_true_right (Or.inl long)]
    exact ⟨digits, rfl⟩

theorem gameNamed_ne_tooManyDigits (token : List Char) (candidates : List Game) (digits : Nat) :
    gameNamed token candidates ≠ .error (.tooManyDigits digits) := by
  rw [gameNamed]
  split <;> simp

/-- A selection is refused for the digits of its numbers exactly when it is
unreadable, whatever it picks from. -/
theorem selectGames_tooManyDigits (selection : Option String) (candidates : List Game) :
    (∃ digits, selectGames selection candidates = .error (.tooManyDigits digits)) ↔
      Unreadable selection := by
  simp only [selectGames, Unreadable]
  generalize trim (selection.getD "").toList = token
  have readable (short : token.length ≤ 3) : ¬(IsLongNumber token ∨ IsLongRange token) := by
    intro unread
    have long : 4300 < token.length := digitLimit_lt_length unread
    omega
  by_cases empty : token = []
  · rw [iff_false_right (readable (empty ▸ Nat.zero_le 3))]
    simp [empty]
  by_cases word : lowerChars token = ['a', 'l', 'l']
  · have short : token.length ≤ 3 := by
      have bound := length_le_lowerChars token
      rwa [word] at bound
    rw [iff_false_right (readable short)]
    simp [empty, word]
  rw [if_neg (by simp [empty]), if_neg word]
  by_cases numeral : isNumeral token = true
  · rw [if_pos numeral, gameNumbered_tooManyDigits, IsLongNumber, and_iff_right numeral, or_iff_left]
    intro long
    rw [long.isRange.not_isNumeral] at numeral
    cases numeral
  · have unnumbered : ¬IsLongNumber token := fun long => numeral long.1
    rw [if_neg numeral, or_iff_right unnumbered, isLongRange_iff]
    cases range : rangeNumerals? token with
    | none => simp [gameNamed_ne_tooManyDigits]
    | some numerals =>
        rcases numerals with ⟨first, last⟩
        simp [gamesInRange_tooManyDigits]

end GameNight
