import GameNight.Console
import GameNight.Proofs.Text.Words

namespace GameNight
namespace Console

open Text

/-!
# The grammar of sort clauses

A sort clause can be told in three ways: by cutting words off from the end, by the
words of the whole text, and by a pattern that is searched for.  They agree on
every text.

The pattern may fit at two places at most, since it reaches to the end of the text
and what it passes over are whole words.  Where it fits at both, the third word from
the end and the second one are `sort`, and the last one is a direction; the search
comes to the longer form first.
-/

/-! ## Keywords -/

/-- The letters of the keywords. -/
def keywordLetters : List Char :=
  ['a', 'c', 'd', 'e', 'o', 'r', 's', 't']

theorem not_readsAs_of_blankCode :
    ∀ code ∈ blankCodes, keywordLetters.any (readsAs · (Char.ofNat code)) = false := by
  decide +kernel

/-- No letter of a keyword is read as a blank. -/
theorem not_isBlank_of_readsAs {letter c : Char} (listed : letter ∈ keywordLetters)
    (reads : readsAs letter c = true) : isBlank c = false := by
  apply Bool.eq_false_iff.mpr
  intro blank
  have none := not_readsAs_of_blankCode c.toNat (toNat_mem_blankCodes blank)
  rw [Char.ofNat_toNat, List.any_eq_false] at none
  exact none letter listed reads

theorem filled_of_isKeyword {letters word : List Char} (listed : letters ⊆ keywordLetters)
    (reads : isKeyword letters word = true) : ∀ c ∈ word, isBlank c = false := by
  induction letters generalizing word with
  | nil =>
      cases word with
      | nil => exact fun c member => absurd member List.not_mem_nil
      | cons c rest => cases reads
  | cons letter others inductionHypothesis =>
      cases word with
      | nil => cases reads
      | cons c rest =>
          rw [isKeyword, Bool.and_eq_true] at reads
          rcases List.cons_subset.mp listed with ⟨first, later⟩
          exact List.forall_mem_cons.mpr
            ⟨not_isBlank_of_readsAs first reads.1, inductionHypothesis later reads.2⟩

/-- What is read as a keyword is a word. -/
theorem isWord_of_isKeyword {letters word : List Char} (listed : letters ⊆ keywordLetters)
    (given : letters ≠ []) (reads : isKeyword letters word = true) : IsWord word := by
  refine ⟨?_, filled_of_isKeyword listed reads⟩
  rintro rfl
  cases letters with
  | nil => exact given rfl
  | cons letter others => cases reads

theorem isWord_of_sortWord {word : List Char} (reads : isKeyword sortWord word = true) :
    IsWord word :=
  isWord_of_isKeyword (by decide) (by decide) reads

theorem isWord_of_isDirection {word : List Char} (reads : isDirection word = true) : IsWord word := by
  rw [isDirection, Bool.or_eq_true] at reads
  rcases reads with up | down
  · exact isWord_of_isKeyword (by decide) (by decide) up
  · exact isWord_of_isKeyword (by decide) (by decide) down

/-! ## The clause by the words of a text -/

namespace SortClause

/-- A text without a sort clause. -/
def absent (text : String) : SortClause :=
  ⟨strip text, none, true⟩

/-- The clause that the words of a text give: that of the last three words if the
first of them is `sort` and the last one a direction, else that of the last two
words if the first of them is `sort`. -/
def ofWords (text : String) : SortClause :=
  match (placedWords text.toList).reverse with
  | direction :: field :: word :: _ =>
    if isKeyword sortWord word.chars && isDirection direction.chars then
      behind word.before field.chars (lowerChars direction.chars != downWord)
    else if isKeyword sortWord field.chars then behind field.before direction.chars true
    else absent text
  | [field, word] =>
    if isKeyword sortWord word.chars then behind word.before field.chars true else absent text
  | _ => absent text

/-- Cutting words off from the end gives the same clause. -/
theorem parse_eq_ofWords (text : String) : parse text = ofWords text := by
  rw [parse, withDirection?, withoutDirection?, ofWords]
  cases last : lastWord? text.toList with
  | none =>
      rw [placedWords_of_no_lastWord? last]
      rfl
  | some cut =>
      rcases cut with ⟨beforeLast, direction⟩
      rw [placedWords_of_lastWord? last]
      cases second : lastWord? beforeLast with
      | none =>
          rw [placedWords_of_no_lastWord? second]
          simp only [second]
          rfl
      | some cut =>
          rcases cut with ⟨beforeSecond, field⟩
          rw [placedWords_of_lastWord? second]
          cases third : lastWord? beforeSecond with
          | none =>
              rw [placedWords_of_no_lastWord? third]
              simp only [second, third]
              cases short : isKeyword sortWord field with
              | true => simp [short]
              | false => simp [short, absent, strip]
          | some cut =>
              rcases cut with ⟨before, word⟩
              rw [placedWords_of_lastWord? third]
              simp only [second, third]
              cases long : isKeyword sortWord word && isDirection direction with
              | true => simp [long]
              | false =>
                  cases short : isKeyword sortWord field with
                  | true => simp [long, short]
                  | false => simp [long, short, absent, strip]

/-! ## The clause by a pattern -/

/-- The pattern of a keyword. -/
def keywordPattern (letters : List Char) : Pattern :=
  letters.foldr (fun letter rest => .sequence (.letter (readsAs letter)) rest) .nothing

/-- What may stand at the end of a sort clause: blanks and a direction, or nothing. -/
def directionPattern : Pattern :=
  .either
    (.sequence (.atLeastOne isBlank)
      (.group "direction" (.either (keywordPattern upWord) (keywordPattern downWord))))
    .nothing

/-- The pattern of a sort clause, which starts a text or stands behind a blank, and
reaches to the end. -/
def clausePattern : Pattern :=
  .sequence (.either .atStart (.letter isBlank)) <|
    .sequence (keywordPattern sortWord) <|
      .sequence (.atLeastOne isBlank) <|
        .sequence (.group "field" (.atLeastOne fun c => !isBlank c)) <|
          .sequence directionPattern <| .sequence (.many isBlank) .atEnd

/-- The clause that a search for the pattern gives. -/
def found (text : String) : SortClause :=
  match clausePattern.search text.toList with
  | none => absent text
  | some (before, way) =>
    ⟨String.ofList (trim before), (way.group? "field").map String.ofList,
      lowerChars ((way.group? "direction").getD []) != downWord⟩

theorem mem_ways_keywordPattern {letters : List Char} {way : Way} {whole : Bool}
    {chars : List Char} :
    way ∈ (keywordPattern letters).ways whole chars ↔
      way.Passes chars ∧ isKeyword letters way.passed = true := by
  induction letters generalizing way whole chars with
  | nil =>
      rw [keywordPattern, List.foldr_nil, Pattern.mem_ways_nothing]
      cases way.passed <;> simp [isKeyword]
  | cons letter others inductionHypothesis =>
      rw [keywordPattern, List.foldr_cons, Pattern.mem_ways_sequence, ← keywordPattern]
      constructor
      · rintro ⟨begun, first, ended, later, rfl⟩
        rcases Pattern.mem_ways_letter.mp first with ⟨⟨parts, ungrouped⟩, c, alone, reads⟩
        rcases inductionHypothesis.mp later with ⟨⟨rest, alsoUngrouped⟩, keyword⟩
        refine ⟨⟨?_, ?_⟩, ?_⟩
        · rw [parts, rest, Way.followedBy, List.append_assoc]
        · rw [Way.followedBy, ungrouped, alsoUngrouped]
          rfl
        · rw [Way.followedBy, alone, List.singleton_append, isKeyword, reads, keyword]
          rfl
      · rcases way with ⟨passed, rest, groups⟩
        rintro ⟨⟨parts, rfl⟩, keyword⟩
        cases passed with
        | nil => cases keyword
        | cons c run =>
            rw [isKeyword, Bool.and_eq_true] at keyword
            exact ⟨⟨[c], run ++ rest, []⟩, Pattern.mem_ways_letter.mpr ⟨⟨parts, rfl⟩, c, rfl, keyword.1⟩,
              ⟨run, rest, []⟩, inductionHypothesis.mpr ⟨⟨rfl, rfl⟩, keyword.2⟩, rfl⟩

/-! ## Texts that end with a clause -/

/-- A text that ends with a sort clause: the text before the clause, the field, and
the direction if the clause has one. -/
inductive Ends (chars before field : List Char) : Option (List Char) → Prop
  | short {front : List PlacedWord} {word place : List Char}
      (placed : placedWords chars = front ++ [⟨before, word⟩, ⟨place, field⟩])
      (keyword : isKeyword sortWord word = true) : Ends chars before field none
  | long {front : List PlacedWord} {word place further direction : List Char}
      (placed : placedWords chars =
        front ++ [⟨before, word⟩, ⟨place, field⟩, ⟨further, direction⟩])
      (keyword : isKeyword sortWord word = true) (directed : isDirection direction = true) :
      Ends chars before field (some direction)

variable {text : String} {chars before field direction : List Char}

theorem ofWords_of_long (ends : Ends text.toList before field (some direction)) :
    ofWords text = behind before field (lowerChars direction != downWord) := by
  cases ends with
  | long placed keyword directed =>
      rw [ofWords, placed]
      simp [keyword, directed]

theorem ofWords_of_short (ends : Ends text.toList before field none)
    (only : ∀ before field direction, ¬Ends text.toList before field (some direction)) :
    ofWords text = behind before field true := by
  cases ends with
  | @short front word place placed keyword =>
      rcases List.eq_nil_or_concat front with empty | ⟨others, third, parts⟩
      · subst empty
        rw [ofWords, placed]
        simp [keyword]
      · rw [List.concat_eq_append] at parts
        subst parts
        have unlike : (isKeyword sortWord third.chars && isDirection field) = false := by
          apply Bool.eq_false_iff.mpr
          intro alike
          rw [Bool.and_eq_true] at alike
          rw [List.append_assoc] at placed
          exact only _ _ _ (.long placed alike.1 alike.2)
        rw [ofWords, placed]
        simp [unlike, keyword]

theorem ofWords_of_no_end (none : ∀ before field direction?, ¬Ends text.toList before field direction?) :
    ofWords text = absent text := by
  rw [ofWords]
  cases reversed : (placedWords text.toList).reverse with
  | nil => rfl
  | cons last others =>
      cases others with
      | nil => rfl
      | cons field others =>
          have placed := congrArg List.reverse reversed
          rw [List.reverse_reverse, List.reverse_cons, List.reverse_cons, List.append_assoc] at placed
          have noShort : isKeyword sortWord field.chars = false :=
            Bool.eq_false_iff.mpr fun keyword => none _ _ _ (.short placed keyword)
          cases others with
          | nil => simp [noShort]
          | cons word others =>
              rw [List.reverse_cons, List.append_assoc] at placed
              have noLong : (isKeyword sortWord word.chars && isDirection last.chars) = false := by
                apply Bool.eq_false_iff.mpr
                intro alike
                rw [Bool.and_eq_true] at alike
                exact none _ _ _ (.long placed alike.1 alike.2)
              simp [noLong, noShort]

/-! ## The pattern fits where a clause starts -/

/-- A place that is told apart can be reached over nothing or over one blank. -/
theorem exists_way_to_clause (apart : EndsApart before) (rest : List Char) :
    ∃ place lead, before = place ++ lead ∧ (⟨lead, rest, []⟩ : Way) ∈
      (Pattern.either .atStart (.letter isBlank)).ways place.isEmpty (lead ++ rest) := by
  rcases List.eq_nil_or_concat before with empty | ⟨place, c, parts⟩
  · subst empty
    refine ⟨[], [], rfl, Pattern.mem_ways_either.mpr (Or.inl ?_)⟩
    exact Pattern.mem_ways_atStart.mpr ⟨⟨rfl, rfl⟩, rfl, rfl⟩
  · rw [List.concat_eq_append] at parts
    subst parts
    have blank : isBlank c = true := apart c (by rw [List.getLast?_concat]; rfl)
    refine ⟨place, [c], rfl, Pattern.mem_ways_either.mpr (Or.inr ?_)⟩
    exact Pattern.mem_ways_letter.mpr ⟨⟨rfl, rfl⟩, c, rfl, blank⟩

/-- Behind `sort`, blanks and a field, the pattern fits with what is read as a
direction, if all that is left behind it are blanks. -/
theorem exists_way_of_parts {lead word gap further rest : List Char}
    {groups : List (String × List Char)} {whole : Bool}
    (start : (⟨lead, word ++ (gap ++ (field ++ (further ++ rest))), []⟩ : Way) ∈
      (Pattern.either .atStart (.letter isBlank)).ways whole
        (lead ++ (word ++ (gap ++ (field ++ (further ++ rest))))))
    (keyword : isKeyword sortWord word = true) (filled : gap ≠ []) (between : IsGap gap)
    (isField : IsWord field)
    (ended : ∀ whole, (⟨further, rest, groups⟩ : Way) ∈ directionPattern.ways whole (further ++ rest))
    (blank : IsGap rest) :
    ∃ way, way ∈
      clausePattern.ways whole (lead ++ (word ++ (gap ++ (field ++ (further ++ rest))))) := by
  have keywordWay (whole : Bool) : (⟨word, gap ++ (field ++ (further ++ rest)), []⟩ : Way) ∈
      (keywordPattern sortWord).ways whole (word ++ (gap ++ (field ++ (further ++ rest)))) :=
    mem_ways_keywordPattern.mpr ⟨⟨rfl, rfl⟩, keyword⟩
  have gapWay (whole : Bool) : (⟨gap, field ++ (further ++ rest), []⟩ : Way) ∈
      (Pattern.atLeastOne isBlank).ways whole (gap ++ (field ++ (further ++ rest))) :=
    Pattern.mem_ways_atLeastOne.mpr ⟨⟨rfl, rfl⟩, filled, between⟩
  have fieldWay (whole : Bool) : (⟨field, further ++ rest, [("field", field)]⟩ : Way) ∈
      (Pattern.group "field" (.atLeastOne fun c => !isBlank c)).ways whole
        (field ++ (further ++ rest)) := by
    refine Pattern.mem_ways_group.mpr ⟨⟨field, further ++ rest, []⟩, ?_, rfl⟩
    refine Pattern.mem_ways_atLeastOne.mpr ⟨⟨rfl, rfl⟩, isField.1, fun c member => ?_⟩
    rw [isField.2 c member]
    rfl
  have restWay (whole : Bool) : (⟨rest, [], []⟩ : Way) ∈ (Pattern.many isBlank).ways whole rest :=
    Pattern.mem_ways_many.mpr ⟨⟨(List.append_nil rest).symm, rfl⟩, blank⟩
  have endWay (whole : Bool) : (⟨[], [], []⟩ : Way) ∈ Pattern.atEnd.ways whole [] :=
    Pattern.mem_ways_atEnd.mpr ⟨⟨rfl, rfl⟩, rfl, Or.inl rfl⟩
  exact
    Pattern.exists_mem_ways_sequence start <|
      Pattern.exists_mem_ways_sequence (keywordWay _) <|
        Pattern.exists_mem_ways_sequence (gapWay _) <|
          Pattern.exists_mem_ways_sequence (fieldWay _) <|
            Pattern.exists_mem_ways_sequence (ended _) <|
              Pattern.exists_mem_ways_sequence (restWay _) ⟨_, endWay _⟩

/-- Where a text ends with a clause, the pattern fits at the place of the clause. -/
theorem exists_way_of_ends {direction? : Option (List Char)}
    (ends : Ends chars before field direction?) :
    ∃ place right, chars = place ++ right ∧ place.length ≤ before.length ∧
      ∃ way, way ∈ clausePattern.ways place.isEmpty right := by
  cases ends with
  | @short front word _ placed keyword =>
      rcases placedWords_eq_pair.mp placed with
        ⟨gap, rest, parts, apart, _, filled, between, isField, blank, _, _⟩
      rcases exists_way_to_clause apart (word ++ (gap ++ (field ++ ([] ++ rest)))) with
        ⟨place, lead, rfl, start⟩
      have undirected (whole : Bool) : (⟨[], rest, []⟩ : Way) ∈ directionPattern.ways whole ([] ++ rest) :=
        Pattern.mem_ways_either.mpr (Or.inr (Pattern.mem_ways_nothing.mpr ⟨⟨rfl, rfl⟩, rfl⟩))
      refine ⟨place, _, ?_, by simp,
        exists_way_of_parts start keyword filled between isField undirected blank⟩
      rw [parts, List.append_assoc, List.nil_append]
  | @long front word place further direction placed keyword directed =>
      have lastTwo := placed
      rw [List.append_cons, placedWords_eq_pair] at lastTwo
      rcases lastTwo with ⟨space, rest, parts, apart, isField, spaced, between, _, blank, _, placed⟩
      rw [List.append_cons, List.append_assoc] at placed
      rcases placedWords_eq_concat.mp placed with ⟨gap, rfl, apartBefore, isWord, blankGap, _⟩
      rcases exists_way_to_clause apartBefore
        (word ++ (gap ++ (field ++ ((space ++ direction) ++ rest)))) with ⟨place, lead, rfl, start⟩
      have directedWay (whole : Bool) :
          (⟨space ++ direction, rest, [("direction", direction)]⟩ : Way) ∈
            directionPattern.ways whole ((space ++ direction) ++ rest) := by
        refine Pattern.mem_ways_either.mpr (Or.inl (Pattern.mem_ways_sequence.mpr
          ⟨⟨space, direction ++ rest, []⟩, ?space, ⟨direction, rest, [("direction", direction)]⟩, ?_, rfl⟩))
        case space =>
          rw [List.append_assoc]
          exact Pattern.mem_ways_atLeastOne.mpr ⟨⟨rfl, rfl⟩, spaced, between⟩
        refine Pattern.mem_ways_group.mpr ⟨⟨direction, rest, []⟩, ?_, rfl⟩
        rw [isDirection, Bool.or_eq_true] at directed
        exact Pattern.mem_ways_either.mpr (directed.imp
          (fun up => mem_ways_keywordPattern.mpr ⟨⟨rfl, rfl⟩, up⟩)
          (fun down => mem_ways_keywordPattern.mpr ⟨⟨rfl, rfl⟩, down⟩))
      refine ⟨place, _, ?_, by simp, exists_way_of_parts start keyword
        (filled_of_endsApart isWord apart) blankGap isField directedWay blank⟩
      rw [parts]
      simp only [List.append_assoc]

/-! ## What the pattern passes over is a clause -/

/-- The pattern starts at the start of the text, or passes over one blank. -/
theorem endsApart_of_way {place right : List Char} {way : Way}
    (member : way ∈ (Pattern.either .atStart (.letter isBlank)).ways place.isEmpty right) :
    way.Passes right ∧ EndsApart (place ++ way.passed) ∧ trim (place ++ way.passed) = trim place ∧
      way.passed.length ≤ 1 := by
  rcases Pattern.mem_ways_either.mp member with start | blank
  · rcases Pattern.mem_ways_atStart.mp start with ⟨passes, nothing, whole⟩
    rw [nothing, List.append_nil, List.isEmpty_iff.mp whole]
    exact ⟨passes, endsApart_nil, rfl, Nat.zero_le 1⟩
  · rcases Pattern.mem_ways_letter.mp blank with ⟨passes, c, alone, blank⟩
    rw [alone]
    exact ⟨passes, endsApart_concat blank place, trim_concat_of_isBlank blank place, Nat.le_refl 1⟩

/-- What may stand behind the field is blanks and a direction, or nothing. -/
theorem direction_of_way {chars : List Char} {whole : Bool} {way : Way}
    (member : way ∈ directionPattern.ways whole chars) :
    (way.Passes chars ∧ way.passed = []) ∨
      ∃ space direction, chars = space ++ (direction ++ way.rest) ∧
        way.groups = [("direction", direction)] ∧ space ≠ [] ∧ IsGap space ∧
          isDirection direction = true := by
  rcases Pattern.mem_ways_either.mp member with directed | undirected
  · rcases Pattern.mem_ways_sequence.mp directed with ⟨space, atSpace, ended, atEnded, rfl⟩
    rcases Pattern.mem_ways_atLeastOne.mp atSpace with ⟨⟨parts, ungrouped⟩, filled, blank⟩
    rcases Pattern.mem_ways_group.mp atEnded with ⟨word, atWord, rfl⟩
    have keyword : word.Passes space.rest ∧ isDirection word.passed = true := by
      rw [isDirection, Bool.or_eq_true]
      rcases Pattern.mem_ways_either.mp atWord with up | down
      · exact ⟨(mem_ways_keywordPattern.mp up).1, Or.inl (mem_ways_keywordPattern.mp up).2⟩
      · exact ⟨(mem_ways_keywordPattern.mp down).1, Or.inr (mem_ways_keywordPattern.mp down).2⟩
    refine Or.inr ⟨space.passed, word.passed, ?_, ?_, filled, blank, keyword.2⟩
    · rw [parts, keyword.1.1]
      rfl
    · rw [Way.followedBy, Way.inGroup, ungrouped, keyword.1.2]
      rfl
  · exact Or.inl (Pattern.mem_ways_nothing.mp undirected)

/-- The parts of a text from a place on where a clause may stand there: what leads
to the clause, `sort`, blanks, the field, and what is behind it. -/
structure Parts (place right lead word gap field behind : List Char) : Prop where
  parts : right = lead ++ (word ++ (gap ++ (field ++ behind)))
  apart : EndsApart (place ++ lead)
  trimmed : trim (place ++ lead) = trim place
  short : lead.length ≤ 1
  keyword : isKeyword sortWord word = true
  filled : gap ≠ []
  between : IsGap gap
  isField : IsWord field

/-- Where the pattern fits, it passes over the parts of a clause; behind the field
it passes over a direction or nothing, and then over blanks. -/
theorem exists_parts_of_way {place right : List Char} {way : Way}
    (member : way ∈ clausePattern.ways place.isEmpty right) :
    ∃ lead word gap field behind whole further, Parts place right lead word gap field behind ∧
      further ∈ directionPattern.ways whole behind ∧ IsGap further.rest ∧
        way.groups = further.groups ++ [("field", field)] := by
  rcases Pattern.mem_ways_sequence.mp member with ⟨lead, atLead, behindLead, inBehindLead, rfl⟩
  rcases Pattern.mem_ways_sequence.mp inBehindLead with ⟨word, atWord, behindWord, inBehindWord, rfl⟩
  rcases Pattern.mem_ways_sequence.mp inBehindWord with ⟨gap, atGap, behindGap, inBehindGap, rfl⟩
  rcases Pattern.mem_ways_sequence.mp inBehindGap with ⟨named, atNamed, behindField, inBehindField, rfl⟩
  rcases Pattern.mem_ways_sequence.mp inBehindField with ⟨further, atFurther, last, inLast, rfl⟩
  rcases Pattern.mem_ways_sequence.mp inLast with ⟨blanks, atBlanks, ending, atEnding, rfl⟩
  rcases Pattern.mem_ways_group.mp atNamed with ⟨field, atField, rfl⟩
  rcases endsApart_of_way atLead with ⟨⟨leadParts, leadGroups⟩, apart, trimmed, short⟩
  rcases mem_ways_keywordPattern.mp atWord with ⟨⟨wordParts, wordGroups⟩, keyword⟩
  rcases Pattern.mem_ways_atLeastOne.mp atGap with ⟨⟨gapParts, gapGroups⟩, filled, between⟩
  rcases Pattern.mem_ways_atLeastOne.mp atField with ⟨⟨fieldParts, fieldGroups⟩, given, noBlank⟩
  rcases Pattern.mem_ways_many.mp atBlanks with ⟨⟨blanksParts, blanksGroups⟩, blank⟩
  rcases Pattern.mem_ways_atEnd.mp atEnding with ⟨⟨endingParts, endingGroups⟩, passed, ends⟩
  have blankEnd : IsGap further.rest := by
    intro c inside
    rw [blanksParts, endingParts, passed] at inside
    rcases List.mem_append.mp inside with among | final
    · exact blank c among
    · rcases ends with none | feed
      · rw [none] at final
        cases final
      · rw [feed] at final
        rw [List.mem_singleton.mp final]
        decide
  refine ⟨lead.passed, word.passed, gap.passed, field.passed, field.rest, _, further,
    ⟨?_, apart, trimmed, short, keyword, filled, between, given, ?_⟩, atFurther, blankEnd, ?_⟩
  · rw [leadParts, wordParts, gapParts, fieldParts]
  · exact fun c inside => by simpa using noBlank c inside
  · simp only [Way.followedBy, Way.inGroup, leadGroups, wordGroups, gapGroups, fieldGroups,
      blanksGroups, endingGroups, List.nil_append, List.append_nil]

namespace Parts

variable {place right lead word gap field behind : List Char}

/-- Blanks behind the field leave it the last word of the text. -/
theorem placedWords_eq (parts : Parts place right lead word gap field behind) {rest : List Char}
    (blank : IsGap rest) :
    placedWords ((place ++ lead) ++ (word ++ (gap ++ (field ++ rest)))) =
      placedWords (place ++ lead) ++
        [⟨place ++ lead, word⟩, ⟨(place ++ lead) ++ (word ++ gap), field⟩] :=
  placedWords_eq_pair.mpr ⟨gap, rest, rfl, parts.apart, isWord_of_sortWord parts.keyword,
    parts.filled, parts.between, parts.isField, blank, rfl, rfl⟩

theorem ends_of_isGap (parts : Parts place right lead word gap field behind) (blank : IsGap behind) :
    Ends (place ++ right) (place ++ lead) field none := by
  rw [parts.parts, ← List.append_assoc]
  exact .short (parts.placedWords_eq blank) parts.keyword

theorem ends_of_isDirection {space direction rest : List Char}
    (parts : Parts place right lead word gap field (space ++ (direction ++ rest)))
    (spaced : space ≠ []) (blankSpace : IsGap space) (directed : isDirection direction = true)
    (blank : IsGap rest) : Ends (place ++ right) (place ++ lead) field (some direction) := by
  have lastWord := placedWords_append
    (endsApart_append blankSpace spaced ((place ++ lead) ++ (word ++ (gap ++ field))))
    (isWord_of_isDirection directed) blank
  have others := parts.placedWords_eq blankSpace
  have all : placedWords ((place ++ lead) ++ (word ++ (gap ++ (field ++
      (space ++ (direction ++ rest)))))) =
        placedWords (place ++ lead) ++ [⟨place ++ lead, word⟩,
          ⟨(place ++ lead) ++ (word ++ gap), field⟩,
          ⟨((place ++ lead) ++ (word ++ (gap ++ field))) ++ space, direction⟩] := by
    simp only [List.append_assoc] at lastWord others ⊢
    rw [lastWord, others]
    simp only [List.append_assoc, List.cons_append, List.nil_append]
  rw [parts.parts, ← List.append_assoc]
  exact .long all parts.keyword directed

end Parts

/-- Where the pattern fits, the text ends with a clause, whose field and direction
are what the groups have passed over. -/
theorem ends_of_way {place right : List Char} {way : Way}
    (member : way ∈ clausePattern.ways place.isEmpty right) :
    ∃ before field, Ends (place ++ right) before field (way.group? "direction") ∧
      way.group? "field" = some field ∧ trim before = trim place ∧
        before.length ≤ place.length + 1 := by
  rcases exists_parts_of_way member with
    ⟨lead, word, gap, field, behind, whole, further, parts, atFurther, blank, groups⟩
  have close : (place ++ lead).length ≤ place.length + 1 := by
    have short := parts.short
    rw [List.length_append]
    omega
  rw [Way.group?, Way.group?, groups]
  rcases direction_of_way atFurther with ⟨⟨furtherParts, furtherGroups⟩, nothing⟩ |
    ⟨space, direction, rfl, furtherGroups, spaced, blankSpace, directed⟩
  · rw [nothing, List.nil_append] at furtherParts
    rw [furtherGroups]
    exact ⟨place ++ lead, field, parts.ends_of_isGap (furtherParts ▸ blank), rfl, parts.trimmed, close⟩
  · rw [furtherGroups]
    exact ⟨place ++ lead, field, parts.ends_of_isDirection spaced blankSpace directed blank, rfl,
      parts.trimmed, close⟩

/-! ## The three clauses are one -/

/-- A clause with a direction starts before one without. -/
theorem length_lt_of_long {other field' : List Char} (long : Ends chars before field (some direction))
    (short : Ends chars other field' none) : before.length + 1 < other.length := by
  cases long with
  | @long front word place further _ placed keyword _ =>
      cases short with
      | short otherwise _ =>
          rw [placed, List.append_cons] at otherwise
          have same := (List.append_inj' otherwise rfl).2
          simp only [List.cons.injEq, PlacedWord.mk.injEq] at same
          rw [List.append_cons, List.append_cons, placedWords_eq_concat] at placed
          rcases placed with ⟨_, _, _, _, _, placed⟩
          rw [List.append_assoc] at placed
          rcases placedWords_eq_pair.mp placed with ⟨gap, _, _, _, isWord, filled, _, _, _, parts, _⟩
          rw [← same.1.1, parts]
          have longer := List.length_pos_iff.mpr isWord.1
          have further := List.length_pos_iff.mpr filled
          rw [List.length_append, List.length_append]
          omega

/-- A search that ends at a place finds the clause with which the text ends there. -/
theorem ends_of_search {place : List Char} {way : Way}
    (searched : clausePattern.search chars = some (place, way)) :
    ∃ before field, Ends chars before field (way.group? "direction") ∧
      way.group? "field" = some field ∧ trim before = trim place ∧
        before.length ≤ place.length + 1 := by
  rcases Pattern.searchFrom_eq_some searched with ⟨left, right, parts, rfl, member, _⟩
  rw [parts]
  exact ends_of_way member

/-- What a search finds without a direction, no clause with one stands before. -/
theorem not_ends_of_search {place other field' direction' : List Char} {way : Way}
    (searched : clausePattern.search chars = some (place, way)) (ends : Ends chars before field none)
    (close : before.length ≤ place.length + 1) : ¬Ends chars other field' (some direction') := by
  intro long
  rcases Pattern.searchFrom_eq_some searched with ⟨left, right, _, rfl, _, first⟩
  rcases exists_way_of_ends long with ⟨start, rest, cut, short, way', fits⟩
  have sooner := length_lt_of_long long ends
  rw [← List.nil_append start, first start rest cut (by omega)] at fits
  cases fits

/-- The search finds the clause that the words give. -/
theorem found_eq_ofWords (text : String) : found text = ofWords text := by
  rw [found]
  cases searched : clausePattern.search text.toList with
  | none =>
      refine (ofWords_of_no_end fun before field direction? ends => ?_).symm
      rcases exists_way_of_ends ends with ⟨place, right, parts, _, way, member⟩
      rw [← List.nil_append place, Pattern.searchFrom_eq_none searched parts] at member
      cases member
  | some result =>
      rcases result with ⟨place, way⟩
      rcases ends_of_search searched with ⟨before, field, ends, named, trimmed, close⟩
      simp only [named, Option.map_some]
      cases given : way.group? "direction" with
      | some direction =>
          rw [given] at ends
          rw [ofWords_of_long ends, behind, trimmed]
          rfl
      | none =>
          rw [given] at ends
          rw [ofWords_of_short ends fun _ _ _ => not_ends_of_search searched ends close, behind, trimmed]
          rfl

/-- Every text has one sort clause at most, in whichever way it is told: by the words
that stand in the text, by cutting them off from the end, and by the search. -/
theorem parse_of_words (text : String) :
    (∀ word ∈ placedWords text.toList, word.StandsIn text.toList) ∧
      (placedWords text.toList).map PlacedWord.chars = words text.toList ∧
      parse text = ofWords text ∧ found text = parse text :=
  ⟨fun _ member => standsIn_of_mem_placedWords member, map_chars_placedWords text.toList,
    parse_eq_ofWords text, (found_eq_ofWords text).trans (parse_eq_ofWords text).symm⟩

/-- The longer form goes first, and a direction may be the name of a field. -/
example : parse "sort sort asc" = ⟨"", some "sort", true⟩ ∧ parse "go  sort desc " = ⟨"go", some "desc", true⟩ := by
  decide +kernel

end SortClause

end Console
end GameNight
