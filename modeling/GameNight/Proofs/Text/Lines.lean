import GameNight.Text.Line

namespace GameNight
namespace Text

/-!
# Pieces and lines of a text

A text is put together again from the pieces and the lines that it is cut into.
-/

/-!
## Where a pattern stands

Cutting a text at a pattern finds the first place where the pattern stands, so
that looking for the pattern succeeds exactly when it is a piece of the text.

A character that is not in the pattern keeps the two sides of it apart: no
occurrence of the pattern reaches across it.  Neither does one reach across a
place when its last character is lacking behind the place, or its first one
before it.

Cutting at every occurrence of one character cuts a text at each of them apart
from the others.
-/

/-- Wherever a pattern stands, a text is cut there or earlier. -/
theorem exists_cut?_of_append (left pattern right : List Char) :
    ∃ before after, cut? pattern (left ++ pattern ++ right) = some (before, after) ∧
      before.length ≤ left.length := by
  induction left with
  | nil =>
      rw [List.nil_append]
      cases text : pattern ++ right with
      | nil =>
          have empty : pattern = [] := (List.append_eq_nil_iff.mp text).1
          exact ⟨[], [], by rw [cut?, empty, List.isEmpty_nil, if_pos rfl], Nat.le_refl 0⟩
      | cons c rest =>
          have here : pattern.isPrefixOf (c :: rest) = true :=
            List.isPrefixOf_iff_prefix.mpr ⟨right, text⟩
          exact ⟨[], _, by rw [cut?, if_pos here], Nat.le_refl 0⟩
  | cons c others inductionHypothesis =>
      rcases inductionHypothesis with ⟨before, after, found, early⟩
      rw [List.cons_append, List.cons_append, cut?]
      by_cases here : pattern.isPrefixOf (c :: (others ++ pattern ++ right)) = true
      · exact ⟨[], _, by rw [if_pos here], Nat.zero_le _⟩
      · refine ⟨c :: before, after, ?_, Nat.succ_le_succ early⟩
        rw [if_neg here, found, Option.map_some]

/-- A text is cut at the first place where the pattern stands, and nowhere
else. -/
theorem cut?_eq_some {pattern chars before after : List Char} :
    cut? pattern chars = some (before, after) ↔
      chars = before ++ pattern ++ after ∧
        ∀ left right, chars = left ++ pattern ++ right → before.length ≤ left.length := by
  constructor
  · intro found
    refine ⟨eq_append_of_cut? found, fun left right parts => ?_⟩
    rcases exists_cut?_of_append left pattern right with ⟨other, rest, alsoFound, early⟩
    rw [← parts, found, Option.some.injEq, Prod.mk.injEq] at alsoFound
    rwa [alsoFound.1]
  · rintro ⟨parts, first⟩
    rcases exists_cut?_of_append before pattern after with ⟨other, rest, found, early⟩
    rw [← parts] at found
    have otherParts : chars = other ++ pattern ++ rest := eq_append_of_cut? found
    have long : before.length = other.length :=
      Nat.le_antisymm (first other rest otherParts) early
    have same : before ++ (pattern ++ after) = other ++ (pattern ++ rest) := by
      rw [← List.append_assoc, ← List.append_assoc, ← parts, ← otherParts]
    rcases List.append_inj same long with ⟨sameBefore, sameRest⟩
    rw [found, sameBefore, List.append_cancel_left sameRest]

/-- A pattern is found exactly when it is a piece of the text. -/
theorem occurs_iff {pattern chars : List Char} : occurs pattern chars = true ↔ pattern <:+: chars := by
  rw [occurs, Option.isSome_iff_exists]
  constructor
  · rintro ⟨⟨before, after⟩, found⟩
    exact ⟨before, after, (eq_append_of_cut? found).symm⟩
  · rintro ⟨left, right, parts⟩
    rcases exists_cut?_of_append left pattern right with ⟨before, after, found, _⟩
    rw [← parts]
    exact ⟨_, found⟩

/-- An occurrence of a pattern lies on one side of a character that the pattern
lacks. -/
theorem beside_of_not_mem {pattern left right before after : List Char} {c : Char}
    (apart : c ∉ pattern) (parts : left ++ pattern ++ right = before ++ c :: after) :
    (∃ rest, before = left ++ pattern ++ rest) ∨ ∃ rest, left = before ++ c :: rest := by
  rcases List.append_eq_append_iff.mp parts with ⟨rest, early, _⟩ | ⟨rest, across, behind⟩
  · exact Or.inl ⟨rest, early⟩
  cases rest with
  | nil => exact Or.inl ⟨[], by rw [List.append_nil, across, List.append_nil]⟩
  | cons mark others =>
      have marked : c = mark := (List.cons.inj behind).1
      rcases List.append_eq_append_iff.mp across with ⟨middle, _, inside⟩ | ⟨middle, late, inside⟩
      · -- the pattern would reach up to the character and hold it
        refine absurd ?_ apart
        rw [inside, marked]
        exact List.mem_append_right middle List.mem_cons_self
      · cases middle with
        | nil =>
            refine absurd ?_ apart
            rw [marked, ← List.nil_append pattern, ← inside]
            exact List.mem_cons_self
        | cons first rest =>
            refine Or.inr ⟨rest, ?_⟩
            rw [late, ← (List.cons.inj inside).1, marked]

/-- A pattern is a piece of what stands on one side of a character that it
lacks. -/
theorem infix_append_cons {pattern before after : List Char} {c : Char} (apart : c ∉ pattern) :
    pattern <:+: before ++ c :: after ↔ pattern <:+: before ∨ pattern <:+: after := by
  constructor
  · rintro ⟨left, right, parts⟩
    rcases beside_of_not_mem apart parts with ⟨rest, inside⟩ | ⟨rest, late⟩
    · exact Or.inl ⟨left, rest, inside.symm⟩
    · have behind : after = rest ++ pattern ++ right := by
        rw [late, List.append_assoc, List.append_assoc, List.cons_append] at parts
        rw [← (List.cons.inj (List.append_cancel_left parts)).2, List.append_assoc]
      exact Or.inr ⟨rest, right, behind.symm⟩
  · rintro (inside | inside)
    · exact inside.trans (List.prefix_append before (c :: after)).isInfix
    · exact inside.trans ((List.suffix_cons c after).trans (List.suffix_append before _)).isInfix

/-- A pattern whose last character is lacking behind a place does not reach across
it. -/
theorem infix_of_last_not_mem {pattern before after : List Char} (filled : pattern ≠ [])
    (apart : ∀ c ∈ pattern.getLast?, c ∉ after) (inside : pattern <:+: before ++ after) :
    pattern <:+: before := by
  have last : pattern.getLast filled ∉ after :=
    apart _ (List.getLast?_eq_some_getLast filled)
  rcases List.infix_append_iff_ne_nil.mp inside with whole | whole | ⟨start, rest, _, reaching, parts, _, behind⟩
  · exact whole
  · exact absurd (whole.subset (List.getLast_mem filled)) last
  · refine absurd (behind.subset ?_) last
    simp only [parts, List.getLast_append_of_ne_nil _ reaching]
    exact List.getLast_mem reaching

/-- A pattern whose first character is lacking before a place does not reach across
it. -/
theorem infix_of_head_not_mem {pattern before after : List Char} (filled : pattern ≠ [])
    (apart : ∀ c ∈ pattern.head?, c ∉ before) (inside : pattern <:+: before ++ after) :
    pattern <:+: after := by
  have reversed : pattern.reverse <:+: after.reverse ++ before.reverse := by
    rw [← List.reverse_append]
    exact List.reverse_infix.mpr inside
  refine List.reverse_infix.mp (infix_of_last_not_mem ?_ (fun c last => ?_) reversed)
  · rwa [Ne, List.reverse_eq_nil_iff]
  · rw [List.getLast?_reverse] at last
    rw [List.mem_reverse]
    exact apart c last

/-- A text without the separator is one piece. -/
theorem splitOn_of_not_mem {separator : Char} {chars : List Char} (apart : separator ∉ chars) :
    splitOn separator chars = [chars] := by
  induction chars with
  | nil => rfl
  | cons c rest inductionHypothesis =>
      rw [List.mem_cons, not_or] at apart
      rw [splitOn, if_neg (Ne.symm apart.1), inductionHypothesis apart.2]

/-- A separator cuts what stands before it apart from what stands behind it. -/
theorem splitOn_append_cons (separator : Char) (before after : List Char) :
    splitOn separator (before ++ separator :: after) =
      splitOn separator before ++ splitOn separator after := by
  induction before with
  | nil => simp [splitOn]
  | cons c rest inductionHypothesis =>
      rw [List.cons_append, splitOn, splitOn, inductionHypothesis]
      by_cases cut : c = separator
      · rw [if_pos cut, if_pos cut, List.cons_append]
      · rw [if_neg cut, if_neg cut]
        -- the first piece, which the character joins, lies before the separator
        cases pieces : splitOn separator rest with
        | nil => exact absurd pieces (splitOn_ne_nil separator rest)
        | cons piece others => rfl

/-!
## Cutting a text at its line feeds

A text that is written line by line is cut into the same lines again.  Only
the last line may stand without a line feed, and an empty rest behind the last
line feed is no line.
-/

theorem linesFrom_append {line : List Char} (whole : '\n' ∉ line) (current rest : List Char) :
    linesFrom current (line ++ rest) = linesFrom (line.reverse ++ current) rest := by
  induction line generalizing current with
  | nil => rfl
  | cons c others inductionHypothesis =>
      have here : c ≠ '\n' := (List.ne_of_not_mem_cons whole).symm
      have later : '\n' ∉ others := List.not_mem_of_not_mem_cons whole
      rw [List.cons_append, linesFrom, if_neg here, inductionHypothesis later,
        List.reverse_cons, List.append_assoc, List.singleton_append]

theorem not_mem_dropLast_of_mem_linesFrom {current chars : List Char} (whole : '\n' ∉ current)
    {line : List Char} (member : line ∈ linesFrom current chars) : '\n' ∉ line.dropLast := by
  induction chars generalizing current with
  | nil =>
      rw [linesFrom] at member
      split at member
      · cases member
      · rw [List.mem_singleton.mp member]
        intro inside
        apply whole
        exact List.mem_reverse.mp ((List.dropLast_sublist _).subset inside)
  | cons c rest inductionHypothesis =>
      rw [linesFrom] at member
      by_cases ends : c = '\n'
      · rw [if_pos ends] at member
        rcases List.mem_cons.mp member with first | later
        · rw [first, List.reverse_cons, List.dropLast_concat, List.mem_reverse]
          exact whole
        · exact inductionHypothesis List.not_mem_nil later
      · rw [if_neg ends] at member
        exact inductionHypothesis (List.not_mem_cons_of_ne_of_not_mem (Ne.symm ends) whole) member

theorem not_mem_dropLast_of_mem_physicalLines {chars line : List Char}
    (member : line ∈ physicalLines chars) : '\n' ∉ line.dropLast :=
  not_mem_dropLast_of_mem_linesFrom List.not_mem_nil member

theorem ne_nil_of_mem_linesFrom {current chars line : List Char}
    (member : line ∈ linesFrom current chars) : line ≠ [] := by
  induction chars generalizing current with
  | nil =>
      rw [linesFrom] at member
      split at member
      case isTrue => cases member
      case isFalse filled =>
        rw [List.mem_singleton.mp member]
        intro empty
        apply filled
        exact List.isEmpty_iff.mpr (List.reverse_eq_nil_iff.mp empty)
  | cons c rest inductionHypothesis =>
      rw [linesFrom] at member
      split at member
      · rcases List.mem_cons.mp member with first | later
        · rw [first, List.reverse_cons]
          exact List.concat_ne_nil c current.reverse
        · exact inductionHypothesis later
      · exact inductionHypothesis member

/-- Every line but the last one ends with a line feed. -/
theorem getLast?_of_mem_dropLast_linesFrom {current chars line : List Char}
    (member : line ∈ (linesFrom current chars).dropLast) : line.getLast? = some '\n' := by
  induction chars generalizing current with
  | nil =>
      rw [linesFrom] at member
      split at member <;> cases member
  | cons c rest inductionHypothesis =>
      rw [linesFrom] at member
      split at member
      case isTrue ends =>
        cases others : linesFrom [] rest with
        | nil =>
            rw [others] at member
            cases member
        | cons next more =>
            rw [others, List.dropLast_cons_cons, ← others] at member
            rcases List.mem_cons.mp member with first | later
            · rw [first, List.reverse_cons, List.getLast?_concat, ends]
            · exact inductionHypothesis later
      case isFalse => exact inductionHypothesis member

/-- The first line of a text ends with its first line feed. -/
theorem physicalLines_append {line : List Char} (whole : '\n' ∉ line) (rest : List Char) :
    physicalLines (line ++ '\n' :: rest) = (line ++ ['\n']) :: physicalLines rest := by
  rw [physicalLines, linesFrom_append whole, List.append_nil, linesFrom, if_pos rfl,
    List.reverse_cons, List.reverse_reverse]
  rfl

/-- A text without line feeds is one line, unless it is empty. -/
theorem physicalLines_of_whole {line : List Char} (whole : '\n' ∉ line) (filled : line ≠ []) :
    physicalLines line = [line] := by
  have cut := linesFrom_append whole [] []
  rw [List.append_nil, List.append_nil] at cut
  have reversed : line.reverse.isEmpty = false := by
    rw [List.isEmpty_eq_false_iff]
    exact mt List.reverse_eq_nil_iff.mp filled
  rw [physicalLines, cut, linesFrom, reversed, List.reverse_reverse]
  rfl

/-- What has been read of a line stands in front of the first line that is cut. -/
theorem linesFrom_of_ne_nil (current : List Char) {chars : List Char} (more : chars ≠ []) :
    ∃ first others, physicalLines chars = first :: others ∧
      linesFrom current chars = (current.reverse ++ first) :: others := by
  induction chars generalizing current with
  | nil => exact absurd rfl more
  | cons c rest inductionHypothesis =>
      rw [physicalLines, linesFrom, linesFrom]
      by_cases ends : c = '\n'
      · rw [if_pos ends, if_pos ends, List.reverse_cons, List.reverse_cons]
        exact ⟨[c], linesFrom [] rest, rfl, rfl⟩
      · rw [if_neg ends, if_neg ends]
        by_cases last : rest = []
        · subst last
          exact ⟨[c], [], rfl, by simp [linesFrom]⟩
        · rcases inductionHypothesis [c] last with ⟨first, others, cut, alone⟩
          rcases inductionHypothesis (c :: current) last with ⟨_, _, sameCut, joined⟩
          cases cut.symm.trans sameCut
          exact ⟨c :: first, others, alone, by rw [joined]; simp⟩

/-- A character that ends no line stands at the front of the line behind it. -/
theorem physicalLines_cons_of_ne {c : Char} (within : c ≠ '\n') {rest : List Char}
    (more : rest ≠ []) :
    ∃ first others, physicalLines rest = first :: others ∧
      physicalLines (c :: rest) = (c :: first) :: others := by
  rcases linesFrom_of_ne_nil [c] more with ⟨first, others, cut, joined⟩
  refine ⟨first, others, cut, ?_⟩
  rw [physicalLines, linesFrom, if_neg within]
  exact joined

/-- Lines as a text, with a line feed behind each of them; the last one may
lack it. -/
def textOfLines (ended : Bool) : List (List Char) → List Char
  | [] => []
  | [line] => if ended then line ++ ['\n'] else line
  | line :: next :: rest => line ++ '\n' :: textOfLines ended (next :: rest)

/-- Every line but the last ends with a line feed. -/
theorem textOfLines_cons (ended : Bool) (line : List Char) {rest : List (List Char)}
    (more : rest ≠ []) :
    textOfLines ended (line :: rest) = line ++ '\n' :: textOfLines ended rest := by
  cases rest with
  | nil => exact absurd rfl more
  | cons next others => rfl

/-- Writing lines as a text adds line feeds only. -/
theorem unmarked_textOfLines (ended : Bool) {lines : List (List Char)}
    (unmarked : ∀ line ∈ lines, '\x22' ∉ line) : '\x22' ∉ textOfLines ended lines := by
  induction lines with
  | nil => exact List.not_mem_nil
  | cons line rest inductionHypothesis =>
      have here : '\x22' ∉ line := unmarked line List.mem_cons_self
      have later := inductionHypothesis fun other member =>
        unmarked other (List.mem_cons_of_mem line member)
      cases rest with
      | nil => cases ended <;> simp [textOfLines, here]
      | cons next others =>
          rw [textOfLines_cons ended line (List.cons_ne_nil next others)]
          simp [here, later]

/-- A single line is cut into itself. -/
theorem physicalLines_textOfLines {line : List Char} (whole : '\n' ∉ line) (filled : line ≠ [])
    (ended : Bool) : physicalLines (textOfLines ended [line]) = [textOfLines ended [line]] := by
  cases ended with
  | true => exact physicalLines_append whole []
  | false => exact physicalLines_of_whole whole filled

/-! ### Lines that are written one after another -/

/-- Each line feed ends a line. -/
theorem length_linesFrom_append (current line rest : List Char) :
    (linesFrom current (line ++ '\n' :: rest)).length =
      line.count '\n' + 1 + (physicalLines rest).length := by
  induction line generalizing current with
  | nil =>
      rw [List.nil_append, linesFrom, if_pos rfl, List.length_cons, List.count_nil, physicalLines]
      omega
  | cons c others inductionHypothesis =>
      rw [List.cons_append, linesFrom]
      by_cases ends : c = '\n'
      · rw [if_pos ends, List.length_cons, inductionHypothesis, ends, List.count_cons_self]
        omega
      · rw [if_neg ends, inductionHypothesis, List.count_cons_of_ne ends]

/-- With a line feed behind every line, the last line is like the others. -/
theorem textOfLines_true_cons (line : List Char) (rest : List (List Char)) :
    textOfLines true (line :: rest) = line ++ '\n' :: textOfLines true rest := by
  cases rest <;> rfl

/-- Lines without line feeds are read as they were written. -/
theorem physicalLines_textOfLines_true {lines : List (List Char)}
    (whole : ∀ line ∈ lines, '\n' ∉ line) :
    physicalLines (textOfLines true lines) = lines.map fun line => line ++ ['\n'] := by
  induction lines with
  | nil => rfl
  | cons line rest inductionHypothesis =>
      have wholeLine : '\n' ∉ line := whole line List.mem_cons_self
      have wholeRest : ∀ other ∈ rest, '\n' ∉ other :=
        fun other member => whole other (List.mem_cons_of_mem line member)
      rw [textOfLines_true_cons, physicalLines_append wholeLine, inductionHypothesis wholeRest, List.map_cons]

/-- No line is lost, and there are more of them than were written exactly when
one of these holds a line feed. -/
theorem length_physicalLines_textOfLines (lines : List (List Char)) :
    lines.length ≤ (physicalLines (textOfLines true lines)).length ∧
      ((physicalLines (textOfLines true lines)).length = lines.length ↔ ∀ line ∈ lines, '\n' ∉ line) := by
  induction lines with
  | nil => exact ⟨Nat.le_refl 0, by simp [textOfLines, physicalLines, linesFrom]⟩
  | cons line rest inductionHypothesis =>
      rcases inductionHypothesis with ⟨noFewer, same⟩
      rw [textOfLines_true_cons, physicalLines, length_linesFrom_append, List.length_cons,
        List.forall_mem_cons, ← same, ← List.count_eq_zero]
      constructor
      · omega
      · omega

end Text
end GameNight
