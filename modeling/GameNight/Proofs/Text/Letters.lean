import GameNight.Text.Character
import Mathlib.Data.List.TakeWhile

namespace GameNight
namespace Text

/-!
# Small letters

What becomes of texts that are written small: which characters stay as they are, which
have no other character as their small form, and what the sigma at the end of a word does
to pieces of a text.
-/

/-!
## Texts that are left as they are

Trimming leaves a text alone that neither starts nor ends with a blank, as digits
never do, and taking small letters leaves a text alone that is made of basic
characters without capital letters.
-/

/-- The code points of the blanks. -/
def blankCodes : List Nat :=
  [9, 10, 11, 12, 13, 28, 29, 30, 31, 32, 0x85, 0xA0, 0x1680, 0x2000, 0x2001, 0x2002, 0x2003, 0x2004,
    0x2005, 0x2006, 0x2007, 0x2008, 0x2009, 0x200A, 0x2028, 0x2029, 0x202F, 0x205F, 0x3000]

theorem toNat_mem_blankCodes {c : Char} (blank : isBlank c = true) : c.toNat ∈ blankCodes := by
  simp only [isBlank, Bool.or_eq_true, Bool.and_eq_true, decide_eq_true_eq, beq_iff_eq] at blank
  simp only [blankCodes, List.mem_cons, List.not_mem_nil, or_false]
  omega

theorem not_isDecimal_of_isBlank {c : Char} (blank : isBlank c = true) : isDecimal c = false := by
  have undecimal : ∀ code ∈ blankCodes, isDecimal (Char.ofNat code) = false := by decide +kernel
  exact Char.ofNat_toNat c ▸ undecimal c.toNat (toNat_mem_blankCodes blank)

theorem trimStart_of_head {chars : List Char} (head : ∀ c ∈ chars.head?, isBlank c = false) :
    trimStart chars = chars := by
  cases chars with
  | nil => rfl
  | cons c rest =>
      have filled : isBlank c = false := head c rfl
      rw [trimStart, List.dropWhile_cons, filled]
      rfl

theorem trimEnd_of_last {chars : List Char} (last : ∀ c ∈ chars.getLast?, isBlank c = false) :
    trimEnd chars = chars := by
  have reversed : trimStart chars.reverse = chars.reverse :=
    trimStart_of_head fun c first => last c (by rwa [List.head?_reverse] at first)
  rw [trimEnd, ← trimStart, reversed, List.reverse_reverse]

/-- Trimming leaves a text alone that neither starts nor ends with a blank. -/
theorem trim_of_ends {chars : List Char} (head : ∀ c ∈ chars.head?, isBlank c = false)
    (last : ∀ c ∈ chars.getLast?, isBlank c = false) : trim chars = chars := by
  rw [trim, trimStart_of_head head, trimEnd_of_last last]

/-- Trimming leaves a text without blanks alone. -/
theorem trim_of_filled {chars : List Char} (filled : ∀ c ∈ chars, isBlank c = false) :
    trim chars = chars :=
  trim_of_ends (fun c first => filled c (List.mem_of_mem_head? first))
    (fun c final => filled c (List.mem_of_mem_getLast? final))

theorem trim_cons_of_isBlank {c : Char} (blank : isBlank c = true) (rest : List Char) :
    trim (c :: rest) = trim rest := by
  rw [trim, trimStart, List.dropWhile_cons, if_pos blank]
  rfl

theorem trim_concat_of_isBlank {c : Char} (blank : isBlank c = true) (chars : List Char) :
    trim (chars ++ [c]) = trim chars := by
  rw [trim, trim, trimStart, trimStart, List.dropWhile_append]
  split
  · rename_i empty
    rw [List.isEmpty_iff.mp empty, List.dropWhile_cons, if_pos blank]
    rfl
  · rw [trimEnd, trimEnd, List.reverse_append, List.reverse_singleton, List.singleton_append,
      List.dropWhile_cons, if_pos blank]

/-- Blanks behind a text are trimmed off. -/
theorem trim_append_of_blanks {blanks : List Char} (blank : ∀ c ∈ blanks, isBlank c = true)
    (chars : List Char) : trim (chars ++ blanks) = trim chars := by
  induction blanks generalizing chars with
  | nil => rw [List.append_nil]
  | cons c rest inductionHypothesis =>
      rw [List.append_cons, inductionHypothesis fun other member => blank other (List.mem_cons_of_mem c member),
        trim_concat_of_isBlank (blank c List.mem_cons_self)]

/-- Blanks before a text are trimmed off. -/
theorem trim_blanks_append {blanks : List Char} (blank : ∀ c ∈ blanks, isBlank c = true)
    (chars : List Char) : trim (blanks ++ chars) = trim chars := by
  induction blanks with
  | nil => rw [List.nil_append]
  | cons c rest inductionHypothesis =>
      rw [List.cons_append, trim_cons_of_isBlank (blank c List.mem_cons_self),
        inductionHypothesis fun other member => blank other (List.mem_cons_of_mem c member)]

/-- A text is what its end is trimmed to, with blanks behind it. -/
theorem exists_blanks_behind (chars : List Char) :
    ∃ blanks, chars = trimEnd chars ++ blanks ∧ ∀ c ∈ blanks, isBlank c = true := by
  refine ⟨(chars.reverse.takeWhile isBlank).reverse, ?_, fun c member => ?_⟩
  · rw [trimEnd, ← List.reverse_append, List.takeWhile_append_dropWhile, List.reverse_reverse]
  · exact List.all_eq_true.mp List.all_takeWhile c (List.mem_reverse.mp member)

/-- Trimming adds no characters. -/
theorem trim_subset (chars : List Char) : trim chars ⊆ chars := by
  intro c member
  have among : c ∈ (trimStart chars).reverse.dropWhile isBlank := List.mem_reverse.mp member
  have started : c ∈ trimStart chars :=
    List.mem_reverse.mp ((List.dropWhile_sublist isBlank).subset among)
  exact (List.dropWhile_sublist isBlank).subset started

theorem trimEnd_isBeginning (chars : List Char) : trimEnd chars <+: chars := by
  rw [← List.reverse_suffix, trimEnd, List.reverse_reverse]
  exact List.dropWhile_suffix isBlank

/-- What trimming leaves is a piece of the text. -/
theorem trim_infix (chars : List Char) : trim chars <:+: chars :=
  (trimEnd_isBeginning (trimStart chars)).isInfix.trans (List.dropWhile_suffix isBlank).isInfix

theorem head_dropWhile_isBlank {chars : List Char} :
    ∀ c ∈ (chars.dropWhile isBlank).head?, isBlank c = false := by
  intro c first
  have filled := List.head?_dropWhile_not isBlank chars
  rw [Option.mem_def.mp first] at filled
  exact filled

/-- What trimming leaves does not start with a blank. -/
theorem head_trim {chars : List Char} : ∀ c ∈ (trim chars).head?, isBlank c = false := by
  intro c first
  rcases trimEnd_isBeginning (trimStart chars) with ⟨blanks, parts⟩
  apply @head_dropWhile_isBlank chars
  rw [← trimStart, ← parts, ← trim, List.head?_append, Option.mem_def.mp first]
  rfl

theorem last_trimEnd {chars : List Char} : ∀ c ∈ (trimEnd chars).getLast?, isBlank c = false := by
  intro c last
  rw [trimEnd, List.getLast?_reverse] at last
  exact head_dropWhile_isBlank c last

/-- What trimming leaves does not end with a blank. -/
theorem last_trim {chars : List Char} : ∀ c ∈ (trim chars).getLast?, isBlank c = false :=
  last_trimEnd

/-- Trimming twice is trimming once. -/
theorem trim_trim (chars : List Char) : trim (trim chars) = trim chars :=
  trim_of_ends head_trim last_trim

/-- Trimming leaves nothing exactly of blanks. -/
theorem trim_eq_nil {chars : List Char} : trim chars = [] ↔ ∀ c ∈ chars, isBlank c = true := by
  constructor
  · intro nothing
    have blanks : ∀ c ∈ trimStart chars, isBlank c = true := by
      rw [trim, trimEnd, List.reverse_eq_nil_iff, List.dropWhile_eq_nil_iff] at nothing
      exact fun c member => nothing c (List.mem_reverse.mpr member)
    cases started : trimStart chars with
    | nil => exact List.dropWhile_eq_nil_iff.mp started
    | cons first rest =>
        have filled : isBlank first = false :=
          @head_dropWhile_isBlank chars first (by rw [← trimStart, started, List.head?_cons]; rfl)
        have blank := blanks first (by rw [started]; exact List.mem_cons_self)
        rw [filled] at blank
        cases blank
  · intro blanks
    rw [trim, trimStart, List.dropWhile_eq_nil_iff.mpr blanks]
    rfl

/-- A basic character that is no capital letter is its own small form. -/
def isPlain (c : Char) : Prop :=
  c.toNat < 128 ∧ c.toLower = c

instance : DecidablePred isPlain := fun c =>
  inferInstanceAs (Decidable (c.toNat < 128 ∧ c.toLower = c))

theorem lowerAfter_of_plain {chars : List Char} (plain : ∀ c ∈ chars, isPlain c)
    (before : List Char) : lowerAfter before chars = chars := by
  induction chars generalizing before with
  | nil => rfl
  | cons c rest inductionHypothesis =>
      rcases plain c List.mem_cons_self with ⟨basic, small⟩
      have noSigma : c.toNat ≠ 0x3A3 := by omega
      rw [lowerAfter, if_neg noSigma, lowerChar, if_pos basic, small,
        inductionHypothesis fun other member => plain other (List.mem_cons_of_mem _ member)]
      rfl

/-- Taking small letters leaves plain texts alone. -/
theorem lowerChars_of_plain {chars : List Char} (plain : ∀ c ∈ chars, isPlain c) :
    lowerChars chars = chars :=
  lowerAfter_of_plain plain []

/-!
## Characters without case

Numbers and ranges of numbers are written with decimal digits of any script,
blanks and hyphens.  No character of these kinds has another small form, and none
of them is the small form of another character.

So a text of such characters is its own small form, and it is the small form of
no other text.  Taking small letters can neither make a name look like a number
nor hide that it is one.
-/

/-- The code points of hyphens, blanks and decimal digits. -/
def markIntervals : List (Nat × Nat) :=
  (0x2D, 0x2D) :: blankCodes.map (fun code => (code, code)) ++
    zeroDigits.map fun start => (start, start + 9)

/-- Whether a character is a decimal digit, a blank or a hyphen. -/
def isMark (c : Char) : Bool :=
  inIntervals markIntervals c.toNat

theorem isMark_hyphen : isMark '-' = true := by
  decide

theorem isMark_of_isBlank {c : Char} (blank : isBlank c = true) : isMark c = true := by
  apply inIntervals_iff.mpr
  refine ⟨(c.toNat, c.toNat), ?_, Nat.le_refl _, Nat.le_refl _⟩
  apply List.mem_append_left
  exact List.mem_cons_of_mem _ (List.mem_map_of_mem (toNat_mem_blankCodes blank))

theorem isMark_of_isDecimal {c : Char} (digit : isDecimal c = true) : isMark c = true := by
  unfold isDecimal decimalValue? at digit
  rw [Option.isSome_map] at digit
  rcases Option.isSome_iff_exists.mp digit with ⟨start, found⟩
  have within := List.find?_some found
  rw [Bool.and_eq_true, decide_eq_true_eq, decide_eq_true_eq] at within
  apply inIntervals_iff.mpr
  refine ⟨(start, start + 9), ?_, within⟩
  apply List.mem_append_right
  exact List.mem_map_of_mem (List.mem_of_find?_eq_some found)

/-! ### Small forms of single characters -/

/-- Whether no mark stands between two code points. -/
def hasNoMark (first last : Nat) : Bool :=
  markIntervals.all fun interval => Nat.blt last interval.1 || Nat.blt interval.2 first

theorem not_mark_of_hasNoMark {first last code : Nat} (clear : hasNoMark first last = true)
    (least : first ≤ code) (most : code ≤ last) : inIntervals markIntervals code = false := by
  apply Bool.eq_false_iff.mpr
  intro mark
  rcases inIntervals_iff.mp mark with ⟨interval, among, within⟩
  have beside := List.all_eq_true.mp clear interval among
  rw [Bool.or_eq_true, Nat.blt_eq, Nat.blt_eq] at beside
  omega

/-- No mark stands in a run of capital letters. -/
theorem hasNoMark_of_run :
    (capitalRuns.all fun run => hasNoMark run.first run.last) = true := by
  decide +kernel

/-- No mark stands among the small forms of a run. -/
theorem hasNoMark_of_small_run :
    (capitalRuns.all fun run =>
      hasNoMark (run.first + run.shift).toNat (run.last + run.shift).toNat) = true := by
  decide +kernel

/-- The basic capital letters and their small forms stand between the digits and the
further blanks. -/
theorem toLower_basic : ∀ code : Fin 128, (Char.ofNat code).toLower = Char.ofNat code ∨
    (65 ≤ code.val ∧ code.val ≤ 122) ∧
      65 ≤ (Char.ofNat code).toLower.toNat ∧ (Char.ofNat code).toLower.toNat ≤ 122 := by
  decide +kernel

theorem toLower_of_mark {c : Char} (basic : c.toNat < 128)
    (mark : isMark c = true ∨ isMark c.toLower = true) : c.toLower = c := by
  have cases := toLower_basic ⟨c.toNat, basic⟩
  rw [Char.ofNat_toNat] at cases
  rcases cases with same | ⟨capital, small⟩
  · exact same
  · have clear : hasNoMark 65 122 = true := by decide
    unfold isMark at mark
    rw [not_mark_of_hasNoMark clear capital.1 capital.2,
      not_mark_of_hasNoMark clear small.1 small.2] at mark
    rcases mark with mark | mark <;> cases mark

theorem toNat_ofNat (code : Nat) : (Char.ofNat code).toNat = code ∨ (Char.ofNat code).toNat = 0 := by
  unfold Char.ofNat
  by_cases valid : code.isValidChar
  · rw [dif_pos valid]
    exact Or.inl rfl
  · rw [dif_neg valid]
    exact Or.inr rfl

/-- A capital letter of a run is no mark, and its small form is none. -/
theorem not_isMark_of_run {run : CapitalRun} (listed : run ∈ capitalRuns) {c : Char}
    (holds : run.holds c.toNat = true) :
    isMark c = false ∧ isMark (Char.ofNat (c.toNat + run.shift).toNat) = false := by
  simp only [CapitalRun.holds, Bool.and_eq_true, decide_eq_true_eq] at holds
  constructor
  · have clear := List.all_eq_true.mp hasNoMark_of_run run listed
    exact not_mark_of_hasNoMark clear holds.1.1 holds.1.2
  · have clear := List.all_eq_true.mp hasNoMark_of_small_run run listed
    unfold isMark
    rcases toNat_ofNat (c.toNat + run.shift).toNat with same | zero
    · rw [same]
      apply not_mark_of_hasNoMark clear
      · omega
      · omega
    · rw [zero]
      decide

/-- A mark has no other small form, and a character whose small form is made of
marks is one. -/
theorem lowerChar_of_marks {c : Char}
    (marks : isMark c = true ∨ ∀ d ∈ lowerChar c, isMark d = true) : lowerChar c = [c] := by
  unfold lowerChar at marks ⊢
  split at marks
  · rename_i basic
    rw [if_pos basic]
    rw [toLower_of_mark basic (marks.imp id fun each => each _ List.mem_cons_self)]
  · rename_i beyond
    rw [if_neg beyond]
    split at marks
    · rename_i dotted
      -- the capital letter i with a dot has two characters for its small form
      exfalso
      rcases marks with mark | marks
      · rw [isMark, dotted] at mark
        exact absurd mark (by decide)
      · exact absurd (marks 'i' List.mem_cons_self) (by decide)
    · rename_i undotted
      rw [if_neg undotted]
      split at marks
      · rename_i run found
        have holds : run.holds c.toNat = true := by
          simpa only using List.find?_some found
        have unmarked := not_isMark_of_run (List.mem_of_find?_eq_some found) holds
        exfalso
        rcases marks with mark | marks
        · rw [unmarked.1] at mark
          cases mark
        · have small := marks _ List.mem_cons_self
          rw [unmarked.2] at small
          cases small
      · rfl

theorem not_isMark_smallSigma (before after : List Char) : isMark (smallSigma before after) = false := by
  unfold smallSigma
  split <;> decide

/-! ### Small forms of texts -/

theorem lowerAfter_of_marks {before chars : List Char}
    (marks : (∀ c ∈ chars, isMark c = true) ∨ ∀ d ∈ lowerAfter before chars, isMark d = true) :
    lowerAfter before chars = chars := by
  induction chars generalizing before with
  | nil => rfl
  | cons c rest inductionHypothesis =>
      rw [lowerAfter] at marks ⊢
      have noSigma : c.toNat ≠ 0x3A3 := by
        intro sigma
        rw [if_pos sigma] at marks
        rcases marks with marks | marks
        · have mark := marks c List.mem_cons_self
          rw [isMark, sigma] at mark
          exact absurd mark (by decide)
        · have mark := marks _ (List.mem_append_left _ List.mem_cons_self)
          rw [not_isMark_smallSigma] at mark
          cases mark
      rw [if_neg noSigma] at marks ⊢
      have first : lowerChar c = [c] :=
        lowerChar_of_marks (marks.imp (fun each => each c List.mem_cons_self)
          fun each d member => each d (List.mem_append_left _ member))
      have others : lowerAfter (c :: before) rest = rest :=
        inductionHypothesis (marks.imp (fun each d member => each d (List.mem_cons_of_mem c member))
          fun each d member => each d (List.mem_append_right _ member))
      rw [first, others, List.singleton_append]

/-- A text of marks is its own small form. -/
theorem lowerChars_of_marks {chars : List Char} (marks : ∀ c ∈ chars, isMark c = true) :
    lowerChars chars = chars :=
  lowerAfter_of_marks (Or.inl marks)

/-- A text of marks is the small form of itself alone. -/
theorem lowerChars_eq_iff_of_marks {chars text : List Char} (marks : ∀ c ∈ text, isMark c = true) :
    lowerChars chars = text ↔ chars = text := by
  constructor
  · intro small
    have smallMarks : ∀ d ∈ lowerAfter [] chars, isMark d = true := by
      intro d member
      apply marks
      rwa [← small]
    rw [← small]
    exact (lowerAfter_of_marks (Or.inr smallMarks)).symm
  · rintro rfl
    exact lowerChars_of_marks marks

/-!
## Small letters of a piece

The small form of a piece of a text is nearly always that of the piece alone.
Only a capital sigma is written by what stands around it, and only one at an
end of the piece can look beyond it: the last letter of a word, whose word may
go on behind the piece, and the first letter with no further one behind it,
which may end a word that starts before the piece.  Such a sigma is open.

Where no letter stands at an open end, the piece has the same small form in the
text as alone, and so it is found in the small form of the text.  An open end
at which the text goes on with a letter gives its sigma the other form, and then
the small form of the piece need not be found.
-/

def capitalSigma : Char := Char.ofNat 0x3A3

/-- The small sigma at the end of a word. -/
def finalSigma : Char := Char.ofNat 0x3C2

/-- The small sigma within a word. -/
def innerSigma : Char := Char.ofNat 0x3C3

/-- A piece that ends with a capital sigma, accents and joiners passed over, with a
letter next before it. -/
def OpenAtEnd (piece : List Char) : Prop :=
  ∃ left right, piece = left ++ capitalSigma :: right ∧ startsCased left.reverse = true ∧
    right.all isIgnorable = true

/-- A piece that starts with a capital sigma, accents and joiners passed over, with
no letter next behind it. -/
def OpenAtStart (piece : List Char) : Prop :=
  ∃ left right, piece = left ++ capitalSigma :: right ∧ left.all isIgnorable = true ∧
    startsCased right = false

theorem eq_capitalSigma_iff {c : Char} : c.toNat = 0x3A3 ↔ c = capitalSigma := by
  constructor
  · intro code
    rw [← Char.ofNat_toNat c, code, capitalSigma]
  · rintro rfl
    rfl

/-! ### The letter next to a sigma -/

theorem startsCased_cons (c : Char) (rest : List Char) :
    startsCased (c :: rest) = if isIgnorable c then startsCased rest else isCased c := by
  rw [startsCased, startsCased, List.dropWhile_cons]
  cases isIgnorable c <;> rfl

/-- Accents and joiners alone have no letter. -/
theorem startsCased_of_ignorable {chars : List Char} (ignorable : chars.all isIgnorable = true) :
    startsCased chars = false := by
  induction chars with
  | nil => rfl
  | cons c rest inductionHypothesis =>
      rw [List.all_cons, Bool.and_eq_true] at ignorable
      rw [startsCased_cons, if_pos ignorable.1, inductionHypothesis ignorable.2]

/-- The nearest letter of two texts stands in the second one when the first has
nothing but accents and joiners. -/
theorem startsCased_append (chars after : List Char) :
    startsCased (chars ++ after) =
      (startsCased chars || (chars.all isIgnorable && startsCased after)) := by
  induction chars with
  | nil => rfl
  | cons c rest inductionHypothesis =>
      rw [List.cons_append, startsCased_cons, startsCased_cons, List.all_cons, inductionHypothesis]
      cases isIgnorable c <;> simp

theorem smallSigma_eq_finalSigma (before after : List Char) :
    smallSigma before after = finalSigma ↔ startsCased before = true ∧ startsCased after = false := by
  rw [smallSigma]
  cases startsCased before <;> cases startsCased after <;> decide

theorem smallSigma_eq_innerSigma (before after : List Char) :
    smallSigma before after = innerSigma ↔ ¬(startsCased before = true ∧ startsCased after = false) := by
  rw [smallSigma]
  cases startsCased before <;> cases startsCased after <;> decide

/-- A sigma looks beyond its piece only at an open end. -/
theorem smallSigma_of_closed {left right before after : List Char}
    (closedEnd : startsCased left.reverse = true → right.all isIgnorable = true →
      startsCased after = false)
    (closedStart : left.all isIgnorable = true → startsCased right = false →
      startsCased before = false) :
    smallSigma (left.reverse ++ before) (right ++ after) = smallSigma left.reverse right := by
  rw [smallSigma, smallSigma, startsCased_append, startsCased_append, List.all_reverse]
  revert closedEnd closedStart
  cases startsCased left.reverse <;> cases right.all isIgnorable <;> cases startsCased after <;>
    cases left.all isIgnorable <;> cases startsCased right <;> cases startsCased before <;> decide

/-! ### Small letters between two texts -/

/-- The small form of a piece that stands between two texts, the first of which
is given in reverse. -/
def lowerBetween (before after : List Char) : List Char → List Char
  | [] => []
  | c :: rest =>
    (if c.toNat = 0x3A3 then [smallSigma before (rest ++ after)] else lowerChar c) ++
      lowerBetween (c :: before) after rest

@[simp] theorem lowerBetween_nil_right (before chars : List Char) :
    lowerBetween before [] chars = lowerAfter before chars := by
  induction chars generalizing before with
  | nil => rfl
  | cons c rest inductionHypothesis =>
      rw [lowerBetween, lowerAfter, inductionHypothesis, List.append_nil]

/-- The small form of a text is put together from those of its pieces, each
between the others. -/
theorem lowerAfter_append (before chars after : List Char) :
    lowerAfter before (chars ++ after) =
      lowerBetween before after chars ++ lowerAfter (chars.reverse ++ before) after := by
  induction chars generalizing before with
  | nil => rfl
  | cons c rest inductionHypothesis =>
      rw [List.cons_append, lowerAfter, lowerBetween, inductionHypothesis, List.append_assoc,
        List.reverse_cons, List.append_assoc, List.singleton_append]

theorem lowerBetween_append (before after chars others : List Char) :
    lowerBetween before after (chars ++ others) =
      lowerBetween before (others ++ after) chars ++
        lowerBetween (chars.reverse ++ before) after others := by
  induction chars generalizing before with
  | nil => rfl
  | cons c rest inductionHypothesis =>
      rw [List.cons_append, lowerBetween, lowerBetween, inductionHypothesis, List.append_assoc,
        List.append_assoc, List.reverse_cons, List.append_assoc, List.singleton_append]

section Contexts

variable {before after otherBefore otherAfter : List Char}

/-- Two places give a piece the same small form when they give it to every capital
sigma. -/
theorem lowerBetween_congr {chars : List Char}
    (alike : ∀ left right, chars = left ++ capitalSigma :: right →
      smallSigma (left.reverse ++ before) (right ++ after) =
        smallSigma (left.reverse ++ otherBefore) (right ++ otherAfter)) :
    lowerBetween before after chars = lowerBetween otherBefore otherAfter chars := by
  induction chars generalizing before otherBefore with
  | nil => rfl
  | cons c rest inductionHypothesis =>
      have others : lowerBetween (c :: before) after rest =
          lowerBetween (c :: otherBefore) otherAfter rest := by
        refine inductionHypothesis fun left right parts => ?_
        have shifted := alike (c :: left) right (by rw [parts, List.cons_append])
        simpa using shifted
      rw [lowerBetween, lowerBetween, others]
      split
      · rename_i code
        have here : smallSigma before (rest ++ after) = smallSigma otherBefore (rest ++ otherAfter) :=
          alike [] rest (by rw [eq_capitalSigma_iff.mp code]; rfl)
        rw [here]
      · rfl

/-- A place that gives a letter to no more capital sigmas than another one gives it
no more often. -/
theorem count_lowerBetween_le {c : Char} {chars : List Char}
    (fewer : ∀ left right, chars = left ++ capitalSigma :: right →
      smallSigma (left.reverse ++ before) (right ++ after) = c →
        smallSigma (left.reverse ++ otherBefore) (right ++ otherAfter) = c) :
    (lowerBetween before after chars).count c ≤
      (lowerBetween otherBefore otherAfter chars).count c := by
  induction chars generalizing before otherBefore with
  | nil => exact Nat.le_refl 0
  | cons first rest inductionHypothesis =>
      have others : (lowerBetween (first :: before) after rest).count c ≤
          (lowerBetween (first :: otherBefore) otherAfter rest).count c := by
        refine inductionHypothesis fun left right parts => ?_
        have shifted := fewer (first :: left) right (by rw [parts, List.cons_append])
        simpa using shifted
      rw [lowerBetween, lowerBetween, List.count_append, List.count_append]
      refine Nat.add_le_add ?_ others
      split
      · rename_i code
        have here : smallSigma before (rest ++ after) = c →
            smallSigma otherBefore (rest ++ otherAfter) = c :=
          fewer [] rest (by rw [eq_capitalSigma_iff.mp code]; rfl)
        rw [List.count_singleton, List.count_singleton]
        split
        · rename_i given
          exact Nat.le_of_eq (if_pos (beq_iff_eq.mpr (here (beq_iff_eq.mp given)))).symm
        · exact Nat.zero_le _
      · exact Nat.le_refl _

/-- It gives the letter less often when it withholds it from one capital sigma. -/
theorem count_lowerBetween_lt {c : Char} {left right : List Char}
    (fewer : ∀ before' after', left ++ capitalSigma :: right = before' ++ capitalSigma :: after' →
      smallSigma (before'.reverse ++ before) (after' ++ after) = c →
        smallSigma (before'.reverse ++ otherBefore) (after' ++ otherAfter) = c)
    (withheld : smallSigma (left.reverse ++ before) (right ++ after) ≠ c)
    (given : smallSigma (left.reverse ++ otherBefore) (right ++ otherAfter) = c) :
    (lowerBetween before after (left ++ capitalSigma :: right)).count c <
      (lowerBetween otherBefore otherAfter (left ++ capitalSigma :: right)).count c := by
  have sigma : capitalSigma.toNat = 0x3A3 := rfl
  have earlier : (lowerBetween before (capitalSigma :: right ++ after) left).count c ≤
      (lowerBetween otherBefore (capitalSigma :: right ++ otherAfter) left).count c := by
    refine count_lowerBetween_le fun start rest parts => ?_
    have here := fewer start (rest ++ capitalSigma :: right) (by rw [parts]; simp)
    simpa using here
  have later : (lowerBetween (capitalSigma :: (left.reverse ++ before)) after right).count c ≤
      (lowerBetween (capitalSigma :: (left.reverse ++ otherBefore)) otherAfter right).count c := by
    refine count_lowerBetween_le fun start rest parts => ?_
    have here := fewer (left ++ capitalSigma :: start) rest (by rw [parts]; simp)
    simpa using here
  simp only [lowerBetween_append, lowerBetween, sigma, if_true, List.count_append, List.count_singleton,
    given, beq_self_eq_true, beq_eq_false_iff_ne.mpr withheld, Bool.false_eq_true, if_false]
  omega

end Contexts

/-! ### Finding the small form of a piece -/

/-- A piece has the same small form in a text as alone where the text does not go
on with a letter at an open end, and so its small form is found in that of the
text. -/
theorem lowerChars_infix_of_closed {before piece after : List Char}
    (closedEnd : OpenAtEnd piece → startsCased after = false)
    (closedStart : OpenAtStart piece → startsCased before.reverse = false) :
    lowerChars piece <:+: lowerChars (before ++ piece ++ after) := by
  have within : lowerBetween before.reverse after piece = lowerChars piece := by
    rw [lowerChars, ← lowerBetween_nil_right]
    refine lowerBetween_congr fun left right parts => ?_
    rw [List.append_nil, List.append_nil]
    exact smallSigma_of_closed (fun ending rest => closedEnd ⟨left, right, parts, ending, rest⟩)
      (fun starting rest => closedStart ⟨left, right, parts, starting, rest⟩)
  have whole : lowerChars (before ++ piece ++ after) =
      lowerBetween [] (piece ++ after) before ++ lowerChars piece ++
        lowerAfter (piece.reverse ++ before.reverse) after := by
    rw [lowerChars, List.append_assoc, lowerAfter_append, lowerAfter_append, List.append_nil, within,
      List.append_assoc]
  exact ⟨_, _, whole.symm⟩

theorem startsCased_a : startsCased ['a'] = true := by
  decide +kernel

/-- Where a letter follows, the sigma at an open end is an inner one, so that the
text has one final sigma less than the piece alone. -/
theorem not_infix_of_openAtEnd {piece : List Char} (opens : OpenAtEnd piece) :
    ¬lowerChars piece <:+: lowerChars (piece ++ ['a']) := by
  rcases opens with ⟨left, right, parts, ending, rest⟩
  intro inside
  have fewer : (lowerBetween [] ['a'] piece).count finalSigma <
      (lowerBetween [] [] piece).count finalSigma := by
    rw [parts]
    apply count_lowerBetween_lt
    case fewer =>
      intro start behind _ final
      rw [List.append_nil, smallSigma_eq_finalSigma, startsCased_append, Bool.or_eq_false_iff] at final
      rw [List.append_nil, List.append_nil, smallSigma_eq_finalSigma]
      exact ⟨final.1, final.2.1⟩
    case withheld =>
      rw [List.append_nil, Ne, smallSigma_eq_finalSigma, startsCased_append right, rest, startsCased_a]
      simp
    case given =>
      rw [List.append_nil, List.append_nil, smallSigma_eq_finalSigma]
      exact ⟨ending, startsCased_of_ignorable rest⟩
  have whole : lowerChars (piece ++ ['a']) = lowerBetween [] ['a'] piece ++ ['a'] := by
    rw [lowerChars, lowerAfter_append]
    rfl
  have bound := inside.sublist.count_le finalSigma
  rw [whole, List.count_append, lowerChars, ← lowerBetween_nil_right] at bound
  have none : ['a'].count finalSigma = 0 := by decide
  omega

/-- Where a letter stands before it, the sigma at an open start is a final one, so
that the text has one inner sigma less than the piece alone. -/
theorem not_infix_of_openAtStart {piece : List Char} (opens : OpenAtStart piece) :
    ¬lowerChars piece <:+: lowerChars ('a' :: piece) := by
  rcases opens with ⟨left, right, parts, starting, rest⟩
  intro inside
  have fewer : (lowerBetween ['a'] [] piece).count innerSigma <
      (lowerBetween [] [] piece).count innerSigma := by
    rw [parts]
    apply count_lowerBetween_lt
    case fewer =>
      intro start behind _ inner
      rw [smallSigma_eq_innerSigma, startsCased_append] at inner
      rw [List.append_nil, smallSigma_eq_innerSigma]
      rintro ⟨before, after⟩
      exact inner ⟨by rw [before, Bool.true_or], after⟩
    case withheld =>
      rw [List.append_nil, Ne, smallSigma_eq_innerSigma, startsCased_append, List.all_reverse, starting,
        startsCased_a, rest]
      simp
    case given =>
      rw [List.append_nil, List.append_nil, smallSigma_eq_innerSigma,
        startsCased_of_ignorable (List.all_reverse.trans starting)]
      simp
  have whole : lowerChars ('a' :: piece) = 'a' :: lowerBetween ['a'] [] piece := by
    rw [lowerBetween_nil_right]
    rfl
  have bound := inside.sublist.count_le innerSigma
  rw [whole, List.count_cons_of_ne (by decide), lowerChars, ← lowerBetween_nil_right] at bound
  omega

end Text
end GameNight
