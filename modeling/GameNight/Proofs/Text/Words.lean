import GameNight.Proofs.Text.Letters
import GameNight.Text.Character
import Mathlib.Data.List.Induction
import Mathlib.Data.List.TakeWhile

namespace GameNight
namespace Text

/-!
# Words and what stands between them

Texts are divided into words with blanks between them, and a pattern that is searched
for from the left finds the same as the words counted from the end.
-/

/-!
## Runs of characters

Every text falls into the run of characters of a class at its beginning and what stands
behind the run, which does not start with such a character.
-/

section Runs

variable {belongs : Char → Bool}

/-- What stands before the first other character is a run of a class. -/
theorem takeWhile_of_run {run rest : List Char} (within : ∀ c ∈ run, belongs c = true)
    (ends : ∀ c ∈ rest.head?, belongs c = false) : (run ++ rest).takeWhile belongs = run := by
  rw [List.takeWhile_append_of_pos within]
  cases rest with
  | nil => exact List.append_nil run
  | cons c others => rw [List.takeWhile_cons_of_neg (by simp [ends c rfl]), List.append_nil]

theorem dropWhile_of_run {run rest : List Char} (within : ∀ c ∈ run, belongs c = true)
    (ends : ∀ c ∈ rest.head?, belongs c = false) : (run ++ rest).dropWhile belongs = rest := by
  rw [List.dropWhile_append_of_pos within]
  cases rest with
  | nil => rfl
  | cons c others => exact List.dropWhile_cons_of_neg (by simp [ends c rfl])

theorem exists_run (belongs : Char → Bool) (chars : List Char) :
    ∃ run rest, chars = run ++ rest ∧ (∀ c ∈ run, belongs c = true) ∧
      ∀ c ∈ rest.head?, belongs c = false := by
  refine ⟨chars.takeWhile belongs, chars.dropWhile belongs, List.takeWhile_append_dropWhile.symm, ?_, ?_⟩
  · exact fun c member => List.mem_takeWhile_imp member
  · intro c first
    have stop := List.head?_dropWhile_not belongs chars
    rw [first] at stop
    exact stop

end Runs

/-!
## Words and where they stand

The words of a text are its maximal runs of characters that are not blank.  Here
each word is kept with all that stands before it, so that a text can be divided at
a word.  Whether the words are read from the start or cut off from the end makes
no difference.
-/

/-- A word of a text, with the text before it. -/
structure PlacedWord where
  before : List Char
  chars : List Char

/-- The words that follow a text, given the run that is being read behind it. -/
def placedWordsFrom (before current : List Char) : List Char → List PlacedWord
  | [] => if current.isEmpty then [] else [⟨before, current⟩]
  | c :: rest =>
    if isBlank c then
      if current.isEmpty then placedWordsFrom (before ++ [c]) [] rest
      else ⟨before, current⟩ :: placedWordsFrom (before ++ current ++ [c]) [] rest
    else placedWordsFrom before (current ++ [c]) rest

/-- The words of a text in order, each with the text before it. -/
def placedWords (chars : List Char) : List PlacedWord :=
  placedWordsFrom [] [] chars

theorem map_chars_placedWordsFrom (before current chars : List Char) :
    (placedWordsFrom before current chars).map PlacedWord.chars = wordsFrom current chars := by
  induction chars generalizing before current with
  | nil =>
      rw [placedWordsFrom, wordsFrom]
      split <;> rfl
  | cons c rest inductionHypothesis =>
      rw [placedWordsFrom, wordsFrom]
      split
      · split
        · exact inductionHypothesis _ _
        · rw [List.map_cons, inductionHypothesis]
      · exact inductionHypothesis _ _

/-- Without the texts before them, the placed words are the words. -/
theorem map_chars_placedWords (chars : List Char) :
    (placedWords chars).map PlacedWord.chars = words chars :=
  map_chars_placedWordsFrom [] [] chars

/-! ### Words, blanks, and texts before a word -/

/-- Whether a text is one word. -/
def IsWord (chars : List Char) : Prop :=
  chars ≠ [] ∧ ∀ c ∈ chars, isBlank c = false

/-- Whether a text is made of blanks. -/
def IsGap (chars : List Char) : Prop :=
  ∀ c ∈ chars, isBlank c = true

/-- Whether a word that follows a text is told apart from it: the text is empty or
ends with a blank. -/
def EndsApart (chars : List Char) : Prop :=
  ∀ c ∈ chars.getLast?, isBlank c = true

/-- Whether a placed word is a whole word of a text: it stands apart from the text
before it, and nothing or a blank follows it. -/
def PlacedWord.StandsIn (word : PlacedWord) (chars : List Char) : Prop :=
  ∃ rest, chars = word.before ++ (word.chars ++ rest) ∧ EndsApart word.before ∧
    IsWord word.chars ∧ ∀ c ∈ rest.head?, isBlank c = true

theorem endsApart_nil : EndsApart [] :=
  fun _ last => nomatch last

theorem endsApart_concat {c : Char} (blank : isBlank c = true) (chars : List Char) :
    EndsApart (chars ++ [c]) := by
  intro d last
  rw [List.getLast?_concat, Option.mem_some_iff] at last
  exact last ▸ blank

/-- A text that ends with some blanks ends apart. -/
theorem endsApart_append {gap : List Char} (blank : IsGap gap) (filled : gap ≠ [])
    (chars : List Char) : EndsApart (chars ++ gap) := by
  rcases List.eq_nil_or_concat gap with empty | ⟨front, c, parts⟩
  · exact absurd empty filled
  · rw [List.concat_eq_append] at parts
    subst parts
    rw [← List.append_assoc]
    exact endsApart_concat (blank c (by simp)) _

/-! ### Words one after another -/

theorem placedWordsFrom_gap {gap : List Char} (blank : IsGap gap) (before : List Char) :
    placedWordsFrom before [] gap = [] := by
  induction gap generalizing before with
  | nil => rfl
  | cons c rest inductionHypothesis =>
      rw [placedWordsFrom, if_pos (blank c List.mem_cons_self)]
      exact inductionHypothesis (fun other member => blank other (List.mem_cons_of_mem c member)) _

/-- Characters that are not blank join the run that is being read. -/
theorem placedWordsFrom_append_word {word : List Char} (filled : ∀ c ∈ word, isBlank c = false)
    (before current rest : List Char) :
    placedWordsFrom before current (word ++ rest) = placedWordsFrom before (current ++ word) rest := by
  induction word generalizing current with
  | nil => rw [List.nil_append, List.append_nil]
  | cons c others inductionHypothesis =>
      have here : ¬isBlank c = true := by
        rw [filled c List.mem_cons_self]
        exact Bool.false_ne_true
      rw [List.cons_append, placedWordsFrom, if_neg here,
        inductionHypothesis fun other member => filled other (List.mem_cons_of_mem c member),
        List.append_assoc, List.singleton_append]

/-- The run that is being read ends with the blanks behind it. -/
theorem placedWordsFrom_run {current gap : List Char} (begun : current ≠ []) (blank : IsGap gap)
    (before : List Char) : placedWordsFrom before current gap = [⟨before, current⟩] := by
  have filled : ¬current.isEmpty = true := by
    rwa [List.isEmpty_iff]
  cases gap with
  | nil => rw [placedWordsFrom, if_neg filled]
  | cons c rest =>
      rw [placedWordsFrom, if_pos (blank c List.mem_cons_self), if_neg filled,
        placedWordsFrom_gap fun other member => blank other (List.mem_cons_of_mem c member)]

/-- Behind a text that ends with a blank, words are read anew. -/
theorem placedWordsFrom_append {chars : List Char} (filled : chars ≠ []) (apart : EndsApart chars)
    (before current rest : List Char) :
    placedWordsFrom before current (chars ++ rest) =
      placedWordsFrom before current chars ++
        placedWordsFrom (before ++ current ++ chars) [] rest := by
  induction chars generalizing before current with
  | nil => exact absurd rfl filled
  | cons c others inductionHypothesis =>
      by_cases last : others = []
      · subst last
        have blank : isBlank c = true := apart c rfl
        rw [List.singleton_append, placedWordsFrom, placedWordsFrom, if_pos blank, if_pos blank,
          placedWordsFrom, List.isEmpty_nil, if_pos rfl]
        cases current with
        | nil => rw [List.isEmpty_nil, if_pos rfl, if_pos rfl, List.append_nil, List.nil_append]
        | cons d run => rfl
      · have later : EndsApart others := by
          intro d final
          apply apart d
          rwa [List.getLast?_cons_of_ne_nil last]
        rw [List.cons_append, placedWordsFrom, placedWordsFrom]
        split
        · split
          · rename_i empty
            rw [inductionHypothesis last later, List.isEmpty_iff.mp empty]
            simp
          · rw [inductionHypothesis last later]
            simp
        · rw [inductionHypothesis last later]
          simp

/-- A word with blanks behind it is the last word of a text, and the others are
those of the text before it. -/
theorem placedWords_append {before word gap : List Char} (apart : EndsApart before)
    (isWord : IsWord word) (blank : IsGap gap) :
    placedWords (before ++ (word ++ gap)) = placedWords before ++ [⟨before, word⟩] := by
  have alone : placedWordsFrom before [] (word ++ gap) = [⟨before, word⟩] := by
    rw [placedWordsFrom_append_word isWord.2, List.nil_append, placedWordsFrom_run isWord.1 blank]
  by_cases first : before = []
  · subst first
    exact alone
  · rw [placedWords, placedWordsFrom_append first apart, List.nil_append, List.nil_append, alone]
    rfl

theorem placedWords_gap {gap : List Char} (blank : IsGap gap) : placedWords gap = [] :=
  placedWordsFrom_gap blank []

/-- A word that a blank follows is the first of the words. -/
theorem words_of_word {word : List Char} (isWord : IsWord word) {c : Char} (blank : isBlank c = true)
    (rest : List Char) : words (word ++ c :: rest) = word :: words rest := by
  have filled : ¬word.isEmpty = true := by
    rw [List.isEmpty_iff]
    exact isWord.1
  rw [← map_chars_placedWords, placedWords, placedWordsFrom_append_word isWord.2, List.nil_append,
    placedWordsFrom, if_pos blank, if_neg filled, List.map_cons, map_chars_placedWordsFrom]
  rfl

/-! ### Words of trimmed texts -/

theorem words_gap_append {gap : List Char} (blank : IsGap gap) (chars : List Char) :
    words (gap ++ chars) = words chars := by
  induction gap with
  | nil => rfl
  | cons c rest inductionHypothesis =>
      rw [List.cons_append, words, wordsFrom, if_pos (blank c List.mem_cons_self)]
      exact inductionHypothesis fun other member => blank other (List.mem_cons_of_mem c member)

theorem wordsFrom_append_gap {gap : List Char} (blank : IsGap gap) (current chars : List Char) :
    wordsFrom current (chars ++ gap) = wordsFrom current chars := by
  induction chars generalizing current with
  | nil =>
      cases gap with
      | nil => rfl
      | cons c rest =>
          have none : wordsFrom [] rest = [] := by
            have wordless := words_gap_append (fun other member => blank other (List.mem_cons_of_mem c member)) []
            rwa [List.append_nil] at wordless
          rw [List.nil_append, wordsFrom, wordsFrom, if_pos (blank c List.mem_cons_self), none]
  | cons c rest inductionHypothesis =>
      rw [List.cons_append, wordsFrom, wordsFrom, inductionHypothesis, inductionHypothesis]

/-- The blanks at the ends of a text make no difference to its words. -/
theorem words_trim (chars : List Char) : words (trim chars) = words chars := by
  rcases exists_blanks_behind (trimStart chars) with ⟨blanks, parts, blank⟩
  rw [trim, words, ← wordsFrom_append_gap blank, ← parts, ← words]
  have started : IsGap (chars.takeWhile isBlank) := fun c member =>
    List.all_eq_true.mp List.all_takeWhile c member
  rw [trimStart, ← words_gap_append started, List.takeWhile_append_dropWhile]

/-! ### Words from the end -/

/-- Only a text of blanks has no last word. -/
theorem isGap_of_lastWord? {chars : List Char} (wordless : lastWord? chars = none) : IsGap chars := by
  rw [lastWord?] at wordless
  split at wordless
  case h_2 => cases wordless
  case h_1 empty =>
    -- the first character behind the blanks would start a word
    cases rest : chars.reverse.dropWhile isBlank with
    | nil =>
        intro c member
        exact List.dropWhile_eq_nil_iff.mp rest c (List.mem_reverse.mpr member)
    | cons c others =>
        have filled : isBlank c = false := by
          apply @head_dropWhile_isBlank chars.reverse
          rw [rest, List.head?_cons, Option.mem_some_iff]
        rw [rest, List.takeWhile_cons, filled] at empty
        cases empty

/-- The last word of a text stands apart from what is before it, and has nothing
but blanks behind it. -/
theorem exists_gap_of_lastWord? {chars before word : List Char}
    (found : lastWord? chars = some (before, word)) :
    ∃ gap, chars = before ++ (word ++ gap) ∧ EndsApart before ∧ IsWord word ∧ IsGap gap := by
  rw [lastWord?] at found
  split at found
  case h_1 => cases found
  case h_2 c rest run =>
    simp only [Option.some.injEq, Prod.mk.injEq] at found
    rcases found with ⟨rfl, rfl⟩
    have parts := @List.takeWhile_append_dropWhile _ (fun c => !isBlank c)
      (chars.reverse.dropWhile isBlank)
    refine ⟨(chars.reverse.takeWhile isBlank).reverse, ?_, ?apart, ⟨?_, ?word⟩, ?gap⟩
    · rw [← List.reverse_append, ← List.reverse_append, ← run, List.append_assoc, parts,
        List.takeWhile_append_dropWhile, List.reverse_reverse]
    case apart =>
      intro d last
      rw [List.getLast?_reverse] at last
      have filled := List.head?_dropWhile_not (fun c => !isBlank c) (chars.reverse.dropWhile isBlank)
      rw [Option.mem_def.mp last] at filled
      simpa using filled
    · rw [Ne, List.reverse_eq_nil_iff]
      exact List.cons_ne_nil c rest
    case word =>
      intro d member
      rw [List.mem_reverse, ← run] at member
      simpa using List.all_eq_true.mp List.all_takeWhile d member
    case gap =>
      intro d member
      exact List.all_eq_true.mp List.all_takeWhile d (List.mem_reverse.mp member)

/-- Cutting off the last word is leaving out the last of the words. -/
theorem placedWords_of_lastWord? {chars before word : List Char}
    (found : lastWord? chars = some (before, word)) :
    placedWords chars = placedWords before ++ [⟨before, word⟩] := by
  rcases exists_gap_of_lastWord? found with ⟨gap, parts, apart, isWord, blank⟩
  rw [parts, placedWords_append apart isWord blank]

theorem placedWords_of_no_lastWord? {chars : List Char} (wordless : lastWord? chars = none) :
    placedWords chars = [] :=
  placedWords_gap (isGap_of_lastWord? wordless)

/-- A text is divided at its last word. -/
theorem placedWords_eq_concat {chars before word : List Char} {front : List PlacedWord} :
    placedWords chars = front ++ [⟨before, word⟩] ↔
      ∃ gap, chars = before ++ (word ++ gap) ∧ EndsApart before ∧ IsWord word ∧ IsGap gap ∧
        placedWords before = front := by
  constructor
  · intro placed
    cases cut : lastWord? chars with
    | none =>
        rw [placedWords_of_no_lastWord? cut] at placed
        exact absurd placed.symm (by simp)
    | some last =>
        rcases last with ⟨start, run⟩
        rw [placedWords_of_lastWord? cut] at placed
        rcases List.append_inj' placed rfl with ⟨same, sameLast⟩
        rw [List.cons.injEq, PlacedWord.mk.injEq] at sameLast
        rcases sameLast.1 with ⟨rfl, rfl⟩
        rcases exists_gap_of_lastWord? cut with ⟨gap, parts, apart, isWord, blank⟩
        exact ⟨gap, parts, apart, isWord, blank, same⟩
  · rintro ⟨gap, rfl, apart, isWord, blank, rfl⟩
    exact placedWords_append apart isWord blank

/-- Between two words there are blanks. -/
theorem filled_of_endsApart {word gap : List Char} (isWord : IsWord word) {before : List Char}
    (apart : EndsApart (before ++ (word ++ gap))) : gap ≠ [] := by
  rintro rfl
  rw [List.append_nil] at apart
  rcases List.eq_nil_or_concat word with empty | ⟨front, c, parts⟩
  · exact isWord.1 empty
  · rw [List.concat_eq_append] at parts
    subst parts
    have blank : isBlank c = true := apart c (by rw [← List.append_assoc, List.getLast?_concat]; rfl)
    rw [isWord.2 c (by simp)] at blank
    cases blank

/-- The placed words stand where they are said to stand. -/
theorem standsIn_of_mem_placedWords {chars : List Char} {word : PlacedWord}
    (member : word ∈ placedWords chars) : word.StandsIn chars := by
  generalize listed : placedWords chars = found at member
  induction found using List.reverseRecOn generalizing chars with
  | nil => cases member
  | append_singleton front last inductionHypothesis =>
      rcases placedWords_eq_concat.mp listed with ⟨gap, rfl, apart, isWord, blank, placed⟩
      rcases List.mem_append.mp member with earlier | final
      · rcases inductionHypothesis placed earlier with ⟨rest, parts, apartWord, whole, blankRest⟩
        rw [parts] at apart
        have filled := filled_of_endsApart whole apart
        refine ⟨rest ++ (last.chars ++ gap), ?_, apartWord, whole, ?_⟩
        · rw [parts]
          simp only [List.append_assoc]
        · rwa [List.head?_append, Option.or_of_isSome (List.isSome_head?.mpr filled)]
      · rw [List.mem_singleton.mp final]
        exact ⟨gap, rfl, apart, isWord, fun c first => blank c (List.mem_of_mem_head? first)⟩

/-- A text is divided at its last two words, with blanks between them. -/
theorem placedWords_eq_pair {chars before word place last : List Char} {front : List PlacedWord} :
    placedWords chars = front ++ [⟨before, word⟩, ⟨place, last⟩] ↔
      ∃ gap rest, chars = before ++ (word ++ (gap ++ (last ++ rest))) ∧ EndsApart before ∧
        IsWord word ∧ gap ≠ [] ∧ IsGap gap ∧ IsWord last ∧ IsGap rest ∧
          place = before ++ (word ++ gap) ∧ placedWords before = front := by
  rw [List.append_cons, placedWords_eq_concat]
  constructor
  · rintro ⟨rest, rfl, apart, isLast, blank, placed⟩
    rcases placedWords_eq_concat.mp placed with ⟨gap, rfl, apartBefore, isWord, between, same⟩
    refine ⟨gap, rest, by simp, apartBefore, isWord, filled_of_endsApart isWord apart, between, isLast,
      blank, rfl, same⟩
  · rintro ⟨gap, rest, rfl, apart, isWord, filled, between, isLast, blank, rfl, same⟩
    refine ⟨rest, by simp, ?_, isLast, blank, ?_⟩
    · rw [← List.append_assoc]
      exact endsApart_append between filled _
    · exact placedWords_eq_concat.mpr ⟨gap, rfl, apart, isWord, between, same⟩

/-!
## Patterns

A pattern says what a search looks for.  At one place of a text it may fit in
several ways, which are listed in the order in which they are tried: an alternative
before the one behind it, and a run of characters the longest first.  A search tries
the places of a text from left to right, and takes the first way of the first place
that has any.

The ways of a pattern are told by what they pass over, so that callers never open
the lists.
-/

/-- What a search looks for. -/
inductive Pattern where
  | nothing
  | letter (accepts : Char → Bool)
  | many (accepts : Char → Bool)
  | atStart
  | atEnd
  | sequence (first second : Pattern)
  | either (first second : Pattern)
  | group (name : String) (inner : Pattern)

/-- A way in which a pattern fits at a place: what it passes over, what is left
behind it, and what its groups have passed over. -/
structure Way where
  passed : List Char
  rest : List Char
  groups : List (String × List Char)

namespace Way

def group? (way : Way) (name : String) : Option (List Char) :=
  way.groups.lookup name

/-- Two ways, one behind the other. -/
def followedBy (way next : Way) : Way :=
  ⟨way.passed ++ next.passed, next.rest, next.groups ++ way.groups⟩

def inGroup (name : String) (way : Way) : Way :=
  { way with groups := (name, way.passed) :: way.groups }

/-- Whether a way passes over the front of a text and sets no group. -/
def Passes (way : Way) (chars : List Char) : Prop :=
  chars = way.passed ++ way.rest ∧ way.groups = []

end Way

namespace Pattern

/-- The runs of accepted characters at the start of a text, the longest first,
each with the text behind it. -/
def runs (accepts : Char → Bool) : List Char → List Way
  | [] => [⟨[], [], []⟩]
  | c :: rest =>
    if accepts c then
      (runs accepts rest).map (Way.followedBy ⟨[c], rest, []⟩) ++ [⟨[], c :: rest, []⟩]
    else [⟨[], c :: rest, []⟩]

/-- The ways in which a pattern fits at the front of a text, in the order in which
they are tried.  The text may be the whole one, or what is left of it behind some
place. -/
def ways : Pattern → Bool → List Char → List Way
  | nothing, _, chars => [⟨[], chars, []⟩]
  | letter _, _, [] => []
  | letter accepts, _, c :: rest => if accepts c then [⟨[c], rest, []⟩] else []
  | many accepts, _, chars => runs accepts chars
  | atStart, whole, chars => if whole then [⟨[], chars, []⟩] else []
  | atEnd, _, chars => if chars = [] ∨ chars = ['\n'] then [⟨[], chars, []⟩] else []
  | sequence first second, whole, chars =>
    (first.ways whole chars).flatMap fun way =>
      (second.ways (whole && way.passed.isEmpty) way.rest).map way.followedBy
  | either first second, whole, chars => first.ways whole chars ++ second.ways whole chars
  | group name inner, whole, chars => (inner.ways whole chars).map (Way.inGroup name)

/-- A run of accepted characters that is not empty. -/
def atLeastOne (accepts : Char → Bool) : Pattern :=
  .sequence (.letter accepts) (.many accepts)

/-- The first place behind a text where a pattern fits: the text before the place,
and the first way there. -/
def searchFrom (pattern : Pattern) (before : List Char) : List Char → Option (List Char × Way)
  | [] => (pattern.ways before.isEmpty []).head?.map fun way => (before, way)
  | c :: rest =>
    match (pattern.ways before.isEmpty (c :: rest)).head? with
    | some way => some (before, way)
    | none => searchFrom pattern (before ++ [c]) rest

def search (pattern : Pattern) (chars : List Char) : Option (List Char × Way) :=
  pattern.searchFrom [] chars

/-! ### What ways pass over -/

section Ways

variable {way : Way} {whole : Bool} {chars : List Char}

attribute [local simp] ways

/-- The way that passes over nothing. -/
theorem mem_singleton_nothing :
    way ∈ [(⟨[], chars, []⟩ : Way)] ↔ way.Passes chars ∧ way.passed = [] := by
  rcases way with ⟨passed, rest, groups⟩
  simp only [List.mem_singleton, Way.mk.injEq]
  constructor
  · rintro ⟨rfl, rfl, rfl⟩
    exact ⟨⟨rfl, rfl⟩, rfl⟩
  · rintro ⟨⟨rfl, rfl⟩, rfl⟩
    exact ⟨rfl, rfl, rfl⟩

theorem mem_ways_nothing :
    way ∈ nothing.ways whole chars ↔ way.Passes chars ∧ way.passed = [] := by
  rw [ways, mem_singleton_nothing]

theorem mem_ways_letter {accepts : Char → Bool} :
    way ∈ (letter accepts).ways whole chars ↔
      way.Passes chars ∧
        ∃ c, way.passed = [c] ∧ accepts c = true := by
  rcases way with ⟨passed, rest, groups⟩
  cases chars with
  | nil =>
      simp only [ways, List.not_mem_nil, false_iff]
      rintro ⟨⟨parts, _⟩, c, rfl, _⟩
      cases parts
  | cons d others =>
      rw [ways]
      split
      · rename_i accepted
        simp only [List.mem_singleton, Way.mk.injEq]
        constructor
        · rintro ⟨rfl, rfl, rfl⟩
          exact ⟨⟨rfl, rfl⟩, d, rfl, accepted⟩
        · rintro ⟨⟨parts, rfl⟩, c, rfl, _⟩
          rw [List.singleton_append, List.cons.injEq] at parts
          exact ⟨by rw [parts.1], parts.2.symm, rfl⟩
      · rename_i refused
        simp only [List.not_mem_nil, false_iff]
        rintro ⟨⟨parts, _⟩, c, rfl, accepted⟩
        rw [List.singleton_append, List.cons.injEq] at parts
        exact refused (parts.1 ▸ accepted)

/-- A run passes over accepted characters: over none, or over one and then over a
run behind it. -/
theorem mem_ways_many {accepts : Char → Bool} :
    way ∈ (many accepts).ways whole chars ↔
      way.Passes chars ∧ ∀ c ∈ way.passed, accepts c = true := by
  rw [ways]
  induction chars generalizing way with
  | nil =>
      rw [runs, mem_singleton_nothing]
      refine and_congr_right fun passes => ?_
      have empty : way.passed = [] := (List.nil_eq_append_iff.mp passes.1).1
      simp [empty]
  | cons d others inductionHypothesis =>
      rw [runs]
      split
      · rename_i accepted
        rw [List.mem_append, mem_singleton_nothing, List.mem_map]
        constructor
        · rintro (⟨run, member, rfl⟩ | ⟨passes, nothing⟩)
          · rcases inductionHypothesis.mp member with ⟨⟨parts, ungrouped⟩, all⟩
            refine ⟨⟨by rw [parts]; rfl, by rw [Way.followedBy, ungrouped]; rfl⟩, ?_⟩
            exact List.forall_mem_cons.mpr ⟨accepted, all⟩
          · refine ⟨passes, ?_⟩
            simp [nothing]
        · rcases way with ⟨passed, rest, groups⟩
          rintro ⟨⟨parts, rfl⟩, all⟩
          cases passed with
          | nil => exact Or.inr ⟨⟨parts, rfl⟩, rfl⟩
          | cons c run =>
              rw [List.cons_append, List.cons.injEq] at parts
              rcases parts with ⟨rfl, parts⟩
              refine Or.inl ⟨⟨run, rest, []⟩, inductionHypothesis.mpr ⟨⟨parts, rfl⟩, ?_⟩, rfl⟩
              exact (List.forall_mem_cons.mp all).2
      · rename_i refused
        rw [mem_singleton_nothing]
        refine and_congr_right fun passes => ?_
        constructor
        · intro nothing
          simp [nothing]
        · intro all
          rcases List.append_eq_cons_iff.mp passes.1.symm with ⟨nothing, _⟩ | ⟨run, begins, _⟩
          · exact nothing
          · exact absurd (all d (begins ▸ List.mem_cons_self)) refused

theorem mem_ways_atStart :
    way ∈ atStart.ways whole chars ↔
      way.Passes chars ∧ way.passed = [] ∧ whole = true := by
  cases whole with
  | false => simp
  | true => rw [ways, if_pos rfl, mem_singleton_nothing, and_iff_left rfl]

theorem mem_ways_atEnd :
    way ∈ atEnd.ways whole chars ↔
      way.Passes chars ∧ way.passed = [] ∧
        (way.rest = [] ∨ way.rest = ['\n']) := by
  have left (nothing : way.Passes chars ∧ way.passed = []) : chars = way.rest := by
    rw [nothing.1.1, nothing.2, List.nil_append]
  rw [ways, ← and_assoc]
  split
  · rename_i ends
    rw [mem_singleton_nothing]
    exact (and_iff_left_of_imp fun nothing => left nothing ▸ ends).symm
  · rename_i goesOn
    refine iff_of_false List.not_mem_nil ?_
    rintro ⟨nothing, ends⟩
    exact goesOn (left nothing ▸ ends)

theorem mem_ways_sequence {first second : Pattern} :
    way ∈ (sequence first second).ways whole chars ↔
      ∃ begun ∈ first.ways whole chars, ∃ ended ∈ second.ways (whole && begun.passed.isEmpty) begun.rest,
        begun.followedBy ended = way := by
  simp only [ways, List.mem_flatMap, List.mem_map]

/-- A pattern fits if its first part does and its second part fits behind that. -/
theorem exists_mem_ways_sequence {first second : Pattern} {begun : Way}
    (start : begun ∈ first.ways whole chars)
    (goesOn : ∃ ended, ended ∈ second.ways (whole && begun.passed.isEmpty) begun.rest) :
    ∃ way, way ∈ (sequence first second).ways whole chars := by
  rcases goesOn with ⟨ended, member⟩
  exact ⟨begun.followedBy ended, mem_ways_sequence.mpr ⟨begun, start, ended, member, rfl⟩⟩

theorem mem_ways_either {first second : Pattern} :
    way ∈ (either first second).ways whole chars ↔
      way ∈ first.ways whole chars ∨ way ∈ second.ways whole chars := by
  rw [ways, List.mem_append]

theorem mem_ways_group {name : String} {inner : Pattern} :
    way ∈ (group name inner).ways whole chars ↔
      ∃ found ∈ inner.ways whole chars, found.inGroup name = way := by
  rw [ways, List.mem_map]

theorem mem_ways_atLeastOne {accepts : Char → Bool} :
    way ∈ (atLeastOne accepts).ways whole chars ↔
      way.Passes chars ∧
        (way.passed ≠ [] ∧ ∀ c ∈ way.passed, accepts c = true) := by
  rw [atLeastOne, mem_ways_sequence]
  constructor
  · rintro ⟨begun, first, ended, others, rfl⟩
    rcases mem_ways_letter.mp first with ⟨⟨parts, ungrouped⟩, c, alone, accepted⟩
    rcases mem_ways_many.mp others with ⟨⟨later, alsoUngrouped⟩, all⟩
    refine ⟨⟨?_, by rw [Way.followedBy, ungrouped, alsoUngrouped]; rfl⟩, ?_, ?_⟩
    · rw [parts, later, Way.followedBy, List.append_assoc]
    · rw [Way.followedBy, alone]
      exact List.cons_ne_nil c _
    · rw [Way.followedBy, alone]
      exact List.forall_mem_cons.mpr ⟨accepted, all⟩
  · rcases way with ⟨passed, rest, groups⟩
    rintro ⟨⟨parts, rfl⟩, filled, all⟩
    cases passed with
    | nil => exact absurd rfl filled
    | cons c run =>
        rcases List.forall_mem_cons.mp all with ⟨accepted, others⟩
        exact ⟨⟨[c], run ++ rest, []⟩, mem_ways_letter.mpr ⟨⟨parts, rfl⟩, c, rfl, accepted⟩,
          ⟨run, rest, []⟩, mem_ways_many.mpr ⟨⟨rfl, rfl⟩, others⟩, rfl⟩

end Ways

/-! ### Where a search ends -/

theorem searchFrom_eq_none {pattern : Pattern} {before chars : List Char}
    (missed : pattern.searchFrom before chars = none) {left right : List Char}
    (parts : chars = left ++ right) : pattern.ways (before ++ left).isEmpty right = [] := by
  induction chars generalizing before left with
  | nil =>
      rcases List.nil_eq_append_iff.mp parts with ⟨rfl, rfl⟩
      rw [searchFrom, Option.map_eq_none_iff, List.head?_eq_none_iff] at missed
      rwa [List.append_nil]
  | cons c rest inductionHypothesis =>
      rw [searchFrom] at missed
      split at missed
      · cases missed
      · rename_i nowhere
        cases left with
        | nil =>
            rw [List.nil_append] at parts
            rw [List.append_nil, ← parts]
            exact List.head?_eq_none_iff.mp nowhere
        | cons d others =>
            rw [List.cons_append, List.cons.injEq] at parts
            rw [← parts.1, List.append_cons]
            exact inductionHypothesis missed parts.2

/-- A search ends at a place where the pattern fits, and it fits at no place before. -/
theorem searchFrom_eq_some {pattern : Pattern} {before chars place : List Char} {way : Way}
    (found : pattern.searchFrom before chars = some (place, way)) :
    ∃ left right, chars = left ++ right ∧ place = before ++ left ∧
      way ∈ pattern.ways place.isEmpty right ∧
      ∀ earlier later, chars = earlier ++ later → earlier.length < left.length →
        pattern.ways (before ++ earlier).isEmpty later = [] := by
  induction chars generalizing before with
  | nil =>
      rw [searchFrom, Option.map_eq_some_iff] at found
      rcases found with ⟨first, head, same⟩
      rw [Prod.mk.injEq] at same
      rcases same with ⟨rfl, rfl⟩
      refine ⟨[], [], rfl, (List.append_nil _).symm, List.mem_of_mem_head? head, ?_⟩
      intro earlier later _ shorter
      exact absurd shorter (Nat.not_lt_zero _)
  | cons c rest inductionHypothesis =>
      rw [searchFrom] at found
      split at found
      · rename_i first head
        rw [Option.some.injEq, Prod.mk.injEq] at found
        rcases found with ⟨rfl, rfl⟩
        refine ⟨[], c :: rest, rfl, (List.append_nil _).symm, List.mem_of_mem_head? head, ?_⟩
        intro earlier later _ shorter
        exact absurd shorter (Nat.not_lt_zero _)
      · rename_i nowhere
        rcases inductionHypothesis found with ⟨left, right, parts, place, member, first⟩
        refine ⟨c :: left, right, by rw [parts]; rfl, by rw [place, List.append_assoc]; rfl, member, ?_⟩
        intro earlier later split shorter
        cases earlier with
        | nil =>
            rw [List.nil_append] at split
            rw [List.append_nil, ← split]
            exact List.head?_eq_none_iff.mp nowhere
        | cons d others =>
            rw [List.cons_append, List.cons.injEq] at split
            rw [← split.1, List.append_cons]
            refine first others later split.2 ?_
            rw [List.length_cons, List.length_cons] at shorter
            omega

end Pattern

end Text
end GameNight
