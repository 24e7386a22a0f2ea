import GameNight.Proofs.Console.Lines
import GameNight.Proofs.Console.SortClause
import GameNight.Proofs.Game.Order
import GameNight.Proofs.Shortlist.Selection

namespace GameNight
namespace Console

open Text Number Journal Messages

/-!
# Directions and the command for sorting

In which direction a sort clause sorts, and how the command for sorting goes about it.
-/

/-!
## The direction of a sort clause

A direction is read twice: by the search, in letters of any size, and by its small
form, when the order is taken from it.  The two ways of passing over the size of
letters differ in the long `ſ`, which is read as an `s` but is a small letter of its
own.  So a direction that is read as `desc` turns the order around unless it is
spelled with a long `ſ`, and games are then shown upwards.
-/

/-- The letter that is read as an `s` and is another one in small letters. -/
def longS : Char := 'ſ'

theorem readsAs_eq_true {letter c : Char} :
    readsAs letter c = true ↔ c.toLower = letter ∨ (letter = 's' ∧ c = longS) := by
  have code : c.toNat = 0x17F ↔ c = longS := @Char.toNat_inj c longS
  rw [readsAs, Bool.or_eq_true, Bool.and_eq_true, beq_iff_eq, beq_iff_eq, beq_iff_eq, code]

/-! ### Small letters of keywords -/

theorem toNat_lt_of_toLower {letter c : Char} (listed : letter ∈ keywordLetters)
    (small : c.toLower = letter) : c.toNat < 128 := by
  delta Char.toLower at small
  split at small
  · rename_i capital
    have last : c.toNat ≤ 'Z'.toNat := UInt32.le_iff_toNat_le.mp capital.2
    exact Nat.lt_of_le_of_lt last (by decide)
  · have basic : keywordLetters.all (fun letter => letter.toNat < 128) = true := by decide
    rw [small]
    exact of_decide_eq_true (List.all_eq_true.mp basic letter listed)

/-- The small form of what is read as a letter of a keyword is one letter. -/
theorem lowerAfter_cons_of_readsAs {letter c : Char} (listed : letter ∈ keywordLetters)
    (reads : readsAs letter c = true) (before rest : List Char) :
    lowerAfter before (c :: rest) = c.toLower :: lowerAfter (c :: before) rest := by
  rw [lowerAfter]
  rcases readsAs_eq_true.mp reads with small | ⟨_, rfl⟩
  · have basic := toNat_lt_of_toLower listed small
    have noSigma : c.toNat ≠ 0x3A3 := by omega
    rw [if_neg noSigma, lowerChar, if_pos basic]
    rfl
  · have alone : lowerChar longS = [longS.toLower] := by decide +kernel
    rw [if_neg (by decide), alone]
    rfl

theorem lowerAfter_of_isKeyword {letters word : List Char} (listed : letters ⊆ keywordLetters)
    (reads : isKeyword letters word = true) (before : List Char) :
    lowerAfter before word = word.map Char.toLower := by
  induction letters generalizing word before with
  | nil =>
      cases word with
      | nil => rfl
      | cons c rest => cases reads
  | cons letter others inductionHypothesis =>
      cases word with
      | nil => cases reads
      | cons c rest =>
          rw [isKeyword, Bool.and_eq_true] at reads
          rcases List.cons_subset.mp listed with ⟨first, later⟩
          rw [lowerAfter_cons_of_readsAs first reads.1, inductionHypothesis later reads.2, List.map_cons]

/-- A word turns into a keyword letter by letter if it is read as the keyword and has
no long `ſ`. -/
theorem map_toLower_eq {letters word : List Char} (short : longS ∉ letters) :
    word.map Char.toLower = letters ↔ isKeyword letters word = true ∧ longS ∉ word := by
  induction letters generalizing word with
  | nil => cases word <;> simp [isKeyword]
  | cons letter others inductionHypothesis =>
      cases word with
      | nil => simp [isKeyword]
      | cons c rest =>
          rw [List.mem_cons, not_or] at short
          rw [List.map_cons, List.cons.injEq, inductionHypothesis short.2, isKeyword, Bool.and_eq_true,
            readsAs_eq_true, List.mem_cons, not_or]
          constructor
          · rintro ⟨small, keyword, none⟩
            refine ⟨⟨Or.inl small, keyword⟩, fun long => ?_, none⟩
            rw [← long] at small
            exact short.1 small
          · rintro ⟨⟨reads, keyword⟩, other, none⟩
            refine ⟨reads.resolve_right fun long => other long.2.symm, keyword, none⟩

/-- The small form of a direction is `desc` if it is read as `desc` and has no long
`ſ`. -/
theorem lowerChars_eq_downWord {direction : List Char} (directed : isDirection direction = true) :
    lowerChars direction = downWord ↔ isKeyword downWord direction = true ∧ longS ∉ direction := by
  have small : lowerChars direction = direction.map Char.toLower := by
    rw [isDirection, Bool.or_eq_true] at directed
    rcases directed with up | down
    · exact lowerAfter_of_isKeyword (by decide) up []
    · exact lowerAfter_of_isKeyword (by decide) down []
  rw [small]
  exact map_toLower_eq (by decide)

namespace SortClause

/-- The direction that the search finds at the end of a text. -/
def direction? (text : String) : Option (List Char) :=
  (clausePattern.search text.toList).bind fun (_, way) => way.group? "direction"

/-- Where the search finds a direction, there is a field, and the order is taken from
the direction. -/
theorem parse_of_direction? {text : String} {direction : List Char}
    (given : direction? text = some direction) :
    isDirection direction = true ∧
      ∃ expression field, parse text = ⟨expression, some field, lowerChars direction != downWord⟩ := by
  rcases Option.bind_eq_some_iff.mp given with ⟨⟨place, way⟩, searched, grouped⟩
  rcases ends_of_search searched with ⟨before, field, ends, named, _, _⟩
  change way.group? "direction" = some direction at grouped
  have directed : isDirection direction = true := by
    rw [grouped] at ends
    cases ends with
    | long _ _ directed => exact directed
  refine ⟨directed, String.ofList (trim place), String.ofList field, ?_⟩
  rw [parse_eq_ofWords, ← found_eq_ofWords, found, searched]
  simp only [named, grouped, Option.map_some, Option.getD_some]

/-- The order is turned around by a direction that is read as `desc` and has no long
`ſ`. -/
theorem ascending_eq_false {text : String} {direction : List Char}
    (given : direction? text = some direction) :
    (parse text).ascending = false ↔ isKeyword downWord direction = true ∧ longS ∉ direction := by
  rcases parse_of_direction? given with ⟨directed, expression, field, parsed⟩
  rw [parsed, bne_eq_false_iff_eq]
  exact lowerChars_eq_downWord directed

end SortClause

/-! ### How games are shown -/

/-- What comes of showing the games that are left in an order: they are shown so, or
a number is too large to be compared and nothing is shown. -/
inductive Shows [Machine] (turn : Turn) (field : Field) (ascending : Bool) : Prop
  | failed (fault : TooLarge) (ended : turn.fault = some (.tooLarge fault)) (silent : turn.output = "")
  | shown (listed : List Game) (left : listed.Perm turn.desk.planner.current)
      (ordered : listed.Pairwise fun a b => field.mayPrecede ascending a b = true)
      (told : turn = turn.desk.showGames listed field)

/-- The text whose sort clause says in which order the games of a line are shown. -/
def clauseTextOf? (line : String) : Option String :=
  match Command.ofWord? (wordOf line) with
  | some .filter => some (argumentsOf line)
  | some .sort => some ("sort " ++ argumentsOf line)
  | _ => none

theorem shows_sortGames [Machine] (desk : Desk) (field : Field) (ascending : Bool) :
    Shows (desk.showGames (sortGames desk.planner.current field ascending) field) field ascending := by
  refine .shown (sortGames desk.planner.current field ascending) ?_ (sorted_sortGames _ _ _) ?_
  · rw [Desk.desk_showGames]
    exact sortGames_perm _ _ _
  · rw [Desk.desk_showGames]

theorem shows_narrowAndShow [Machine] (desk : Desk) (expression : String) (field : Field) (ascending : Bool) :
    Shows (desk.narrowAndShow expression field ascending).value field ascending := by
  simp only [Desk.narrowAndShow, Logged.value_andThen]
  cases answer : (desk.planner.filter (some expression) (.known field) ascending).value with
  | mk listed left =>
      cases listed with
      | error fault => exact .failed fault rfl rfl
      | ok games =>
          rw [Planner.filter_listed answer]
          exact shows_sortGames { desk with planner := left } field ascending

/-- A line whose text has a direction shows the games in the order of its clause, if
the clause names a field. -/
theorem execute_of_direction? [Machine] {text line : String} {direction : List Char}
    (given : SortClause.direction? text = some direction) (clause : clauseTextOf? line = some text)
    (desk : Desk) :
    ∃ word, (SortClause.parse text).field = some word ∧
      match (FieldName.word word).resolve with
      | .ok field => Shows (desk.execute line).value field (SortClause.parse text).ascending
      | .error _ => (desk.execute line).value = desk.unknownSortField word := by
  rcases SortClause.parse_of_direction? given with ⟨_, expression, word, parsed⟩
  refine ⟨word, by rw [parsed], ?_⟩
  rw [clauseTextOf?] at clause
  split at clause
  case h_1 filters =>
    rw [Option.some.injEq] at clause
    subst clause
    have filled : (argumentsOf line).isEmpty = false := by
      refine Bool.eq_false_iff.mpr fun empty => ?_
      have none : (SortClause.parse "").field = none := by decide +kernel
      rw [← String.isEmpty_iff.mp empty, parsed] at none
      cases none
    rw [Desk.execute_of_command desk filters, Desk.carryOut, Desk.filter, filled]
    simp only [Bool.false_eq_true, if_false, parsed, Desk.sortField]
    cases (FieldName.word word).resolve with
    | error fault => rfl
    | ok field => exact shows_narrowAndShow desk _ field _
  case h_2 sorts =>
    rw [Option.some.injEq] at clause
    subst clause
    have filled : (argumentsOf line).isEmpty = false := by
      refine Bool.eq_false_iff.mpr fun empty => ?_
      have none : (SortClause.parse ("sort " ++ "")).field = none := by decide +kernel
      rw [← String.isEmpty_iff.mp empty, parsed] at none
      cases none
    rw [Desk.execute_of_command desk sorts, Desk.carryOut, Desk.sort, filled]
    simp only [Bool.false_eq_true, if_false, parsed]
    cases (FieldName.word word).resolve with
    | error fault => rfl
    | ok field => exact shows_narrowAndShow desk _ field _
  case h_3 => cases clause

/-- A direction turns the order around exactly if it is read as `desc` and has no long
`ſ`.  A line whose clause has a direction shows the games in the order of the clause,
unless the field of the clause is unknown. -/
theorem direction_followed [Machine] {text : String} {direction : List Char}
    (given : SortClause.direction? text = some direction) :
    ((SortClause.parse text).ascending = false ↔
        isKeyword downWord direction = true ∧ longS ∉ direction) ∧
      ∀ (desk : Desk) (line : String), clauseTextOf? line = some text →
        ∃ word, (SortClause.parse text).field = some word ∧
          match (FieldName.word word).resolve with
          | .ok field => Shows (desk.execute line).value field (SortClause.parse text).ascending
          | .error _ => (desk.execute line).value = desk.unknownSortField word :=
  ⟨SortClause.ascending_eq_false given, fun desk _ clause => execute_of_direction? given clause desk⟩

/-- Two games, the later one of which goes first by name. -/
def earlyAndLate : List Game :=
  [{ name := "Go", year := -2200 }, { name := "Catan", year := 1995 }]

/-- The desk with these two games. -/
def deskOfTwo : Desk :=
  .opened earlyAndLate ⟨[]⟩ (.text "games.txt")

section

attribute [local instance] Machine.usual

/-- A filter with a direction in capital letters turns the order around. -/
theorem capital_direction_followed :
    (SortClause.parse "rank<100 sort year DESC").ascending = false ∧
      Shows (deskOfTwo.execute "filter rank<100 sort year DESC").value (.numeric (.integer .year)) false := by
  have given : SortClause.direction? "rank<100 sort year DESC" = some ['D', 'E', 'S', 'C'] := by
    decide +kernel
  have followed := direction_followed given
  have downwards := followed.1.mpr (by decide)
  rcases followed.2 deskOfTwo "filter rank<100 sort year DESC" (by decide +kernel) with
    ⟨word, named, shown⟩
  have year : (SortClause.parse "rank<100 sort year DESC").field = some "year" := by decide +kernel
  have known : (FieldName.word "year").resolve = .ok (.numeric (.integer .year)) := by decide +kernel
  rw [year, Option.some.injEq] at named
  rw [← named, known, downwards] at shown
  exact ⟨downwards, shown⟩

/-- With a long `ſ`, a direction that is read as `desc` shows the games upwards. -/
theorem long_s_shows_upwards :
    SortClause.direction? "sort year deſc" = some ['d', 'e', 'ſ', 'c'] ∧
      isKeyword downWord ['d', 'e', 'ſ', 'c'] = true ∧
      (SortClause.parse "sort year deſc").ascending = true ∧
      (deskOfTwo.execute "sort year deſc").value =
        deskOfTwo.showGames earlyAndLate (.numeric (.integer .year)) := by
  refine ⟨by decide +kernel, by decide, by decide +kernel, ?_⟩
  have word : Command.ofWord? (wordOf "sort year deſc") = some .sort := by decide +kernel
  have asks : sortArrangement (argumentsOf "sort year deſc") = some (.numeric (.integer .year), true) := by
    decide +kernel
  have sorted : sortGames deskOfTwo.planner.current (.numeric (.integer .year)) true = earlyAndLate :=
    sortGames_of_sorted (by decide +kernel)
  rw [Desk.execute_of_command deskOfTwo word, Desk.carryOut, Desk.sort_arranged deskOfTwo asks, sorted]

end

/-!
## What a sort answers

A sort takes the name of a field, and a direction that may be left out.  Its
arguments are read as a sort clause behind the word `sort`, and a sort clause stands
at the end of a text.  So arguments that end with a sort clause of their own are
answered by that one, and what stands before it is passed over.  Help is what all
other arguments are answered with.
-/

/-! ### Words and arguments -/

/-- A line is divided at its first word, if a space follows it. -/
theorem wordAndArguments_of_word {word : List Char} (isWord : IsWord word) (chars : List Char) :
    Desk.wordAndArguments (trim (word ++ ' ' :: chars)) =
      (String.ofList (lowerChars word), String.ofList (trim chars)) := by
  rcases exists_blanks_behind chars with ⟨blanks, parts, blank⟩
  have same : trim chars = trim (trimEnd chars) := by
    rw [← trim_append_of_blanks blank (trimEnd chars), ← parts]
  have noSpace : ∀ c ∈ word, (c != ' ') = true := by
    intro c member
    apply bne_iff_ne.mpr
    rintro rfl
    cases isWord.2 ' ' member
  by_cases empty : trimEnd chars = []
  · have line : trim (word ++ ' ' :: chars) = word := by
      rw [empty, List.nil_append] at parts
      rw [parts, trim_append_of_blanks (List.forall_mem_cons.mpr ⟨by decide, blank⟩),
        trim_of_filled isWord.2]
    have first : word.takeWhile (fun c => c != ' ') = word :=
      List.takeWhile_eq_self_iff.mpr noSpace
    rw [line, Desk.wordAndArguments, first, List.drop_length, same, empty]
  · have line : trim (word ++ ' ' :: chars) = word ++ ' ' :: trimEnd chars := by
      rw [parts, ← List.cons_append, ← List.append_assoc, trim_append_of_blanks blank, ← parts]
      refine trim_of_ends (fun c first => ?_) (fun c last => ?_)
      · rw [List.head?_append, Option.or_of_isSome (List.isSome_head?.mpr isWord.1)] at first
        exact isWord.2 c (List.mem_of_mem_head? first)
      · rw [List.append_cons, List.getLast?_append_of_ne_nil _ empty] at last
        exact last_trimEnd c last
    have first : (word ++ ' ' :: trimEnd chars).takeWhile (fun c => c != ' ') = word :=
      takeWhile_of_run noSpace (by simp)
    rw [line, Desk.wordAndArguments, first, List.drop_left, trim_cons_of_isBlank (by decide), same]

/-! ### What a sort asks for -/

/-- The field and the order that words ask for in the form in which help shows a sort:
a field alone, or a field and a direction. -/
def sortForm? : List (List Char) → Option (String × Bool)
  | [field] => some (String.ofList field, true)
  | [field, direction] =>
    if isDirection direction then
      some (String.ofList field, lowerChars direction != downWord)
    else none
  | _ => none

/-- The field and the order of a clause, if there is one. -/
def SortClause.asked? (clause : SortClause) : Option (String × Bool) :=
  clause.field.map fun word => (word, clause.ascending)

/-- The field and the order of the clause with which some words end, given in
reverse. -/
def askedBehind? : List (List Char) → Option (String × Bool)
  | direction :: field :: word :: _ =>
    if isKeyword sortWord word && isDirection direction then
      some (String.ofList field, lowerChars direction != downWord)
    else if isKeyword sortWord field then some (String.ofList direction, true)
    else none
  | [field, word] => if isKeyword sortWord word then some (String.ofList field, true) else none
  | _ => none

/-- What a clause asks for is told by the words alone. -/
theorem asked?_parse (text : String) :
    (SortClause.parse text).asked? = askedBehind? (words text.toList).reverse := by
  rw [SortClause.parse_eq_ofWords, SortClause.ofWords, ← map_chars_placedWords, ← List.map_reverse]
  rcases (placedWords text.toList).reverse with _ | ⟨last, _ | ⟨field, _ | ⟨word, others⟩⟩⟩
  · rfl
  · rfl
  · simp only [List.map_cons, List.map_nil, askedBehind?]
    split <;> rfl
  · simp only [List.map_cons, askedBehind?]
    split
    · rfl
    · split <;> rfl

/-- More than two words are not in the form of a sort. -/
theorem sortForm?_of_many {given : List (List Char)} (many : 2 < given.length) : sortForm? given = none := by
  rcases given with _ | ⟨first, _ | ⟨second, _ | ⟨third, others⟩⟩⟩
  · rfl
  · exact absurd many (by simp)
  · exact absurd many (by simp)
  · rfl

/-- Behind the word `sort`, words in the form of a sort ask for their field, and other
words for what they end with. -/
theorem askedBehind?_sortWord (others : List (List Char)) :
    askedBehind? (sortWord :: others).reverse = (sortForm? others).or (askedBehind? others.reverse) := by
  have keyword : isKeyword sortWord sortWord = true := by decide
  rw [List.reverse_cons]
  rcases reversed : others.reverse with _ | ⟨last, _ | ⟨field, _ | ⟨word, front⟩⟩⟩ <;>
    rw [List.reverse_eq_iff] at reversed <;> subst reversed
  · rfl
  · simp [askedBehind?, sortForm?, keyword]
  · by_cases directed : isDirection last = true
    · simp [askedBehind?, sortForm?, keyword, directed]
    · simp [askedBehind?, sortForm?, directed]
  · rw [sortForm?_of_many (by simp), Option.none_or]
    rfl

/-! ### What a sort answers -/

/-- The answer to a sort by a word: the games that are left, or that no field is named
by the word. -/
def Desk.sortedBy [Machine] (desk : Desk) (word : String) (ascending : Bool) : Turn :=
  match (FieldName.word word).resolve with
  | .error _ => desk.unknownSortField word
  | .ok field => desk.showGames (sortGames desk.planner.current field ascending) field

theorem Desk.sort_eq [Machine] (desk : Desk) (arguments : String) :
    (desk.sort arguments).value =
      match (SortClause.parse ("sort " ++ arguments)).asked? with
      | some (word, ascending) => desk.sortedBy word ascending
      | none => desk.say (desk.helpText "sort") := by
  by_cases empty : arguments.isEmpty
  · rw [String.isEmpty_iff.mp empty]
    have none : (SortClause.parse ("sort " ++ "")).asked? = none := by decide +kernel
    rw [none]
    rfl
  · simp only [Desk.sort, empty, Bool.false_eq_true, if_false, SortClause.asked?]
    cases (SortClause.parse ("sort " ++ arguments)).field with
    | none => rfl
    | some word =>
        simp only [Option.map_some, Desk.sortedBy]
        cases (FieldName.word word).resolve with
        | error fault => rfl
        | ok field => exact Desk.narrowAndShow_blank desk field _

theorem isWord_sortWord : IsWord sortWord :=
  isWord_of_sortWord (by decide)

theorem toList_sort_append (arguments : String) :
    ("sort " ++ arguments).toList = sortWord ++ ' ' :: arguments.toList := by
  rw [String.toList_append]
  rfl

/-- A sort of any arguments is answered by the field that they name in the form in
which help shows it, else by the field of the clause with which they end, else with
help.  The same holds on every desk that a session reaches. -/
theorem answer_to_sort [Machine] (desk : Desk) (arguments : String) :
    (desk.execute ("sort " ++ arguments)).value =
      match (sortForm? (words arguments.toList)).or (SortClause.parse arguments).asked? with
      | some (word, ascending) => desk.sortedBy word ascending
      | none => desk.say (desk.helpText "sort") := by
  have parts : Desk.wordAndArguments (trim ("sort " ++ arguments).toList) = ("sort", strip arguments) := by
    rw [toList_sort_append, wordAndArguments_of_word isWord_sortWord]
    rfl
  have word : Command.ofWord? (wordOf ("sort " ++ arguments)) = some .sort := by
    rw [wordOf, parts]
    rfl
  have asked : (SortClause.parse ("sort " ++ strip arguments)).asked? =
      (sortForm? (words arguments.toList)).or (SortClause.parse arguments).asked? := by
    rw [asked?_parse, asked?_parse, toList_sort_append, words_of_word isWord_sortWord (by decide),
      toList_strip, words_trim, askedBehind?_sortWord]
  rw [Desk.execute_of_command desk word, argumentsOf, parts, Desk.carryOut, Desk.sort_eq, asked]

section

attribute [local instance] Machine.usual

/-- Arguments that are in no form of a sort, but end with a clause, list the games. -/
theorem leading_words_passed_over :
    sortForm? (words "x sort year".toList) = none ∧
      (deskOfTwo.execute "sort x sort year").value =
        deskOfTwo.showGames earlyAndLate (.numeric (.integer .year)) := by
  refine ⟨by decide +kernel, ?_⟩
  have word : Command.ofWord? (wordOf "sort x sort year") = some .sort := by decide +kernel
  have asks : sortArrangement (argumentsOf "sort x sort year") = some (.numeric (.integer .year), true) := by
    decide +kernel
  have sorted : sortGames deskOfTwo.planner.current (.numeric (.integer .year)) true = earlyAndLate :=
    sortGames_of_sorted (by decide +kernel)
  rw [Desk.execute_of_command deskOfTwo word, Desk.carryOut, Desk.sort_arranged deskOfTwo asks, sorted]

end

end Console
end GameNight
