import GameNight.Clause
import GameNight.Proofs.Text.Letters
import GameNight.Proofs.Text.Lines

namespace GameNight

open Text Number

/-!
# How clauses are read

Which texts are read as which clauses.  A text that is written without marks between its
parts is the simple case.
-/

/-!
## The grammar of clauses

A clause that is understood is a field, an operator and a value, written one
behind the other with any blanks around them.  Which operator it is does not
depend on where the tokens stand: it is the first one, in the order in which
they are looked for, whose token occurs at all.  The field ends where this
token stands first, and the token must not stand in what follows.

A clause can be written down again from what was understood of it.  With a
space on either side of the operator no token can reach into its neighbours,
so that the clause is understood as before, whichever of its two names the
field is given.
-/

/-! ### Words and tokens -/

/-- A word names a field exactly when it is its token or the heading of its
column. -/
theorem Field.ofWord?_eq_some {word : String} {field : Field} :
    Field.ofWord? word = some field ↔ word = field.token ∨ word = field.column := by
  constructor
  · intro found
    have named := List.find?_some found
    rwa [Bool.or_eq_true, decide_eq_true_eq, decide_eq_true_eq] at named
  · rintro (token | column)
    · rw [token, ofWord?_token]
    · rw [column, ofWord?_column]

namespace Operator

/-- The operators that are looked for before a given one. -/
def earlier (operator : Operator) : List Operator :=
  byLength.takeWhile fun other => other != operator

theorem earlier_eq {operator : Operator} {before after : List Operator}
    (parts : byLength = before ++ operator :: after) (first : operator ∉ before) :
    operator.earlier = before := by
  have others : ∀ other ∈ before, (other != operator) = true := by
    intro other member
    rw [bne_iff_ne]
    intro same
    exact first (same ▸ member)
  rw [earlier, parts, List.takeWhile_append_of_pos others, List.takeWhile_cons_of_neg (by simp),
    List.append_nil]

/-- The operator that is found is the first one whose token occurs. -/
theorem find?_eq_some {chars : List Char} {operator : Operator} :
    find? chars = some operator ↔
      operator.token.toList <:+: chars ∧
        ∀ other ∈ operator.earlier, ¬other.token.toList <:+: chars := by
  rw [find?, List.find?_eq_some_iff_append, occurs_iff]
  refine and_congr_right fun inside => ?_
  constructor
  · rintro ⟨before, after, parts, absent⟩
    have first : operator ∉ before := by
      intro member
      have unlike := absent operator member
      rw [occurs_iff.mpr inside] at unlike
      cases unlike
    intro other member occurrence
    rw [earlier_eq parts first] at member
    have unlike := absent other member
    rw [occurs_iff.mpr occurrence] at unlike
    cases unlike
  · intro absent
    rcases List.eq_append_cons_of_mem (mem_byLength operator) with ⟨before, after, parts, first⟩
    refine ⟨before, after, parts, fun other member => ?_⟩
    rw [Bool.not_eq_true', ← Bool.not_eq_true, occurs_iff]
    exact absent other (by rwa [earlier_eq parts first])

end Operator

/-! ### Clauses that are understood -/

/-- Whether a value can be tested of a field: any value of the name, and of a
number only one that is a number itself, by any operator but containment. -/
def Field.Takes (field : Field) (operator : Operator) (value : List Char) : Prop :=
  field = .name ∨ operator ≠ .contains ∧ ∃ number, readDouble? value = some number

/-- How the text of a clause spells a field, an operator and a value: the text
is cut at the first place of the operator's token, which occurs no more behind
it, and tokens that are looked for earlier do not occur at all. -/
structure Spells (raw : List Char) (field : Field) (operator : Operator) (value before after : List Char) :
    Prop where
  parts : raw = before ++ operator.token.toList ++ after
  first : ∀ left right, raw = left ++ operator.token.toList ++ right → before.length ≤ left.length
  once : ¬operator.token.toList <:+: after
  prevails : ∀ other ∈ operator.earlier, ¬other.token.toList <:+: raw
  named : String.ofList (trim before) = field.token ∨ String.ofList (trim before) = field.column
  valued : value = trim after
  filled : value ≠ []
  taken : field.Takes operator value

namespace Test

/-- The number of a test that is made of a field and a value. -/
def numberFor (field : Field) (value : List Char) : Option Double :=
  match field with
  | .name => none
  | .numeric _ => readDouble? value

/-- A test can be made of its parts exactly when the field takes the value, and
it is made of nothing else. -/
theorem ofParts_eq_ok {field : Field} {operator : Operator} {value : List Char} {test : Test} :
    ofParts field operator value = .ok test ↔
      field.Takes operator value ∧ test.field = field ∧ test.operator = operator ∧
        test.value = String.ofList value ∧ test.number? = numberFor field value := by
  cases field with
  | name =>
      rw [ofParts, Except.ok.injEq]
      cases test <;> simp [Field.Takes, Test.field, Test.operator, Test.value, number?, numberFor, eq_comm]
  | numeric field =>
      cases operator with
      | contains => simp [ofParts, Field.Takes]
      | compare comparison =>
          rw [ofParts]
          cases read : readDouble? value with
          | none => simp [Field.Takes, read]
          | some number =>
              cases test <;>
                simp [Field.Takes, Test.field, Test.operator, Test.value, number?, numberFor, read, eq_comm]

/-- From what a field takes a test can be made. -/
theorem exists_ofParts {field : Field} {operator : Operator} {value : List Char}
    (taken : field.Takes operator value) : ∃ test, ofParts field operator value = .ok test := by
  rcases taken with rfl | ⟨comparing, number, read⟩
  · exact ⟨_, rfl⟩
  · cases field with
    | name => exact ⟨_, rfl⟩
    | numeric field =>
        cases operator with
        | contains => exact absurd rfl comparing
        | compare comparison => exact ⟨_, by rw [ofParts, read]⟩

/-- A test is read in steps: an operator is found, the text is cut at its token, the
field is named by what stands before it, and the test is made of the parts. -/
theorem ofChars_eq_ok_iff_steps {raw : List Char} {test : Test} :
    ofChars raw = .ok test ↔
      ∃ operator before after field, Operator.find? raw = some operator ∧
        cut? operator.token.toList raw = some (before, after) ∧
        occurs operator.token.toList after = false ∧ trim before ≠ [] ∧ trim after ≠ [] ∧
        Field.ofWord? (String.ofList (trim before)) = some field ∧
        ofParts field operator (trim after) = .ok test := by
  constructor
  · intro read
    rw [ofChars] at read
    cases found : Operator.find? raw with
    | none => simp [found] at read
    | some operator =>
        cases cut : cut? operator.token.toList raw with
        | none => simp [found, cut] at read
        | some sides =>
            rcases sides with ⟨before, after⟩
            simp only [found, cut] at read
            split at read
            · cases read
            · rename_i once
              split at read
              · cases read
              · rename_i filled
                rw [Bool.or_eq_true, not_or, List.isEmpty_iff, List.isEmpty_iff] at filled
                cases named : Field.ofWord? (String.ofList (trim before)) with
                | none => simp [named] at read
                | some field =>
                    simp only [named] at read
                    exact ⟨operator, before, after, field, rfl, cut, Bool.eq_false_iff.mpr once,
                      filled.1, filled.2, named, read⟩
  · rintro ⟨operator, before, after, field, found, cut, once, worded, valued, named, made⟩
    simp only [ofChars, found, cut, once, named, List.isEmpty_eq_false_iff.mpr worded,
      List.isEmpty_eq_false_iff.mpr valued, Bool.false_eq_true, Bool.or_self, if_false]
    exact made

/-- The text of a clause reads as a test exactly when it spells the parts of the
test. -/
theorem ofChars_eq_ok {raw : List Char} {test : Test} :
    ofChars raw = .ok test ↔
      ∃ value before after, Spells raw test.field test.operator value before after ∧
        test.value = String.ofList value ∧ test.number? = numberFor test.field value := by
  rw [ofChars_eq_ok_iff_steps]
  constructor
  · rintro ⟨operator, before, after, field, found, cut, once, _, filled, named, made⟩
    rcases ofParts_eq_ok.mp made with ⟨taken, rfl, rfl, value, number⟩
    refine ⟨trim after, before, after, ?_, value, number⟩
    constructor
    case parts => exact (cut?_eq_some.mp cut).1
    case first => exact (cut?_eq_some.mp cut).2
    case once => rwa [← occurs_iff, Bool.not_eq_true]
    case prevails => exact (Operator.find?_eq_some.mp found).2
    case named => exact Field.ofWord?_eq_some.mp named
    case valued => rfl
    case filled => exact filled
    case taken => exact taken
  · rintro ⟨value, before, after, spells, written, number⟩
    have named : Field.ofWord? (String.ofList (trim before)) = some test.field :=
      Field.ofWord?_eq_some.mpr spells.named
    refine ⟨test.operator, before, after, test.field, ?found, ?cut, ?once, ?worded, ?valued, named, ?made⟩
    case found => exact Operator.find?_eq_some.mpr ⟨⟨before, after, spells.parts.symm⟩, spells.prevails⟩
    case cut => exact cut?_eq_some.mpr ⟨spells.parts, spells.first⟩
    case once =>
      rw [← Bool.not_eq_true, occurs_iff]
      exact spells.once
    case worded =>
      intro empty
      rw [empty] at named
      cases named
    case valued => exact spells.valued ▸ spells.filled
    case made =>
      rw [← spells.valued]
      exact ofParts_eq_ok.mpr ⟨spells.taken, rfl, rfl, written, number⟩

end Test

/-! ### Writing a clause down again -/

/-- The words that name a field are not empty and have no blanks, and no token
stands in them. -/
theorem Field.word_facts {field : Field} {word : String}
    (named : word = field.token ∨ word = field.column) :
    word.toList ≠ [] ∧ (∀ c ∈ word.toList, isBlank c = false) ∧
      ∀ operator : Operator, ¬operator.token.toList <:+: word.toList := by
  have checked : word.toList ≠ [] ∧ word.toList.any isBlank = false ∧
      ∀ operator ∈ Operator.byLength, occurs operator.token.toList word.toList = false := by
    rcases named with token | column
    · rw [token]
      rcases field with _ | ⟨⟨⟩⟩ | ⟨⟨⟩⟩ <;> decide +kernel
    · rw [column]
      rcases field with _ | ⟨⟨⟩⟩ | ⟨⟨⟩⟩ <;> decide +kernel
  rcases checked with ⟨worded, noBlank, unlike⟩
  have unblank : ∀ c ∈ word.toList, isBlank c = false := fun c member =>
    Bool.eq_false_iff.mpr (List.any_eq_false.mp noBlank c member)
  refine ⟨worded, unblank, fun operator inside => ?_⟩
  have absent := unlike operator (Operator.mem_byLength operator)
  rw [occurs_iff.mpr inside] at absent
  cases absent

/-- A token is not empty and has no space, and no token that is looked for
earlier stands in it. -/
theorem Operator.token_facts (operator : Operator) :
    operator.token.toList ≠ [] ∧ ' ' ∉ operator.token.toList ∧
      ∀ other ∈ operator.earlier, ¬other.token.toList <:+: operator.token.toList := by
  have checked : ∀ operator ∈ byLength, operator.token.toList ≠ [] ∧ ' ' ∉ operator.token.toList ∧
      ∀ other ∈ operator.earlier, occurs other.token.toList operator.token.toList = false := by
    decide +kernel
  rcases checked operator (mem_byLength operator) with ⟨filled, unspaced, absent⟩
  refine ⟨filled, unspaced, fun other member inside => ?_⟩
  have unlike := absent other member
  rw [occurs_iff.mpr inside] at unlike
  cases unlike

/-- What a clause spells can be spelled with a space on either side of the
operator, and with any word for the field. -/
theorem Spells.spaced {raw value before after : List Char} {field : Field} {operator : Operator}
    (spells : Spells raw field operator value before after) {word : String}
    (named : word = field.token ∨ word = field.column) :
    Spells (word.toList ++ ' ' :: (operator.token.toList ++ ' ' :: value)) field operator value
      (word.toList ++ [' ']) (' ' :: value) := by
  rcases Field.word_facts named with ⟨_, unblank, wordless⟩
  rcases operator.token_facts with ⟨tokenFilled, unspaced, tokenless⟩
  have insideAfter : value <:+: after := by
    rw [spells.valued]
    exact trim_infix after
  have insideRaw : value <:+: raw := by
    rw [spells.parts]
    exact insideAfter.trans (List.suffix_append _ after).isInfix
  constructor
  case parts => simp
  case first =>
    intro left right parts
    rcases beside_of_not_mem unspaced parts.symm with ⟨rest, inside⟩ | ⟨rest, late⟩
    · exact absurd ⟨left, rest, inside.symm⟩ (wordless operator)
    · rw [late, List.length_append, List.length_append]
      exact Nat.add_le_add_left (Nat.le_add_left 1 rest.length) word.toList.length
  case once =>
    intro inside
    have apart := (@infix_append_cons operator.token.toList [] _ ' ' unspaced).mp inside
    rcases apart with none | behind
    · exact tokenFilled (List.infix_nil.mp none)
    · exact spells.once (behind.trans insideAfter)
  case prevails =>
    intro other member inside
    have otherUnspaced : ' ' ∉ other.token.toList := other.token_facts.2.1
    rcases (infix_append_cons otherUnspaced).mp inside with inWord | behind
    · exact wordless other inWord
    · rcases (infix_append_cons otherUnspaced).mp behind with inToken | inValue
      · exact tokenless other member inToken
      · exact spells.prevails other member (inValue.trans insideRaw)
  case named =>
    rw [trim_concat_of_isBlank (by decide), trim_of_filled unblank, String.ofList_toList]
    exact named
  case valued =>
    rw [trim_cons_of_isBlank (by decide), spells.valued, trim_trim]
  case filled => exact spells.filled
  case taken => exact spells.taken

namespace Clause

/-- A clause written with a given word for its field. -/
def spelled (word : String) (test : Test) : String :=
  word ++ " " ++ test.operator.token ++ " " ++ test.value

/-- A spaced clause has no blanks around it. -/
theorem trim_spaced {word token value : List Char} (worded : word ≠ [])
    (unblank : ∀ c ∈ word, isBlank c = false) (filled : value ≠ []) (trimmed : trim value = value) :
    trim (word ++ ' ' :: (token ++ ' ' :: value)) = word ++ ' ' :: (token ++ ' ' :: value) := by
  apply trim_of_ends
  · intro c first
    rcases List.exists_cons_of_ne_nil worded with ⟨w, others, parts⟩
    rw [parts, List.cons_append, List.head?_cons] at first
    exact Option.mem_some.mp first ▸ unblank w (parts ▸ List.mem_cons_self)
  · intro c last
    have ending : word ++ ' ' :: (token ++ ' ' :: value) = (word ++ ' ' :: token ++ [' ']) ++ value := by
      simp
    rw [ending, List.getLast?_append, List.getLast?_eq_some_getLast filled, Option.some_or,
      ← List.getLast?_eq_some_getLast, ← trimmed] at last
    exact last_trim c last

/-- A clause is active with a field, an operator and a value exactly when its text,
without the blanks around it, spells these; the number of an active clause is
the one that its value reads as, if its field holds numbers.  Written down with
spaces and with either name of its field, an active clause is read as before. -/
theorem understood_iff_spelled (text : String) :
    Operator.byLength.map Operator.token = ["==", "!=", ">=", "<=", "~=", ">", "<"] ∧
    (∀ field operator value,
      (∃ test, (parse text).value.reading = .ok test ∧ test.field = field ∧
          test.operator = operator ∧ test.value = String.ofList value) ↔
        ∃ before after, Spells (trim text.toList) field operator value before after) ∧
    ∀ test, (parse text).value.reading = .ok test →
      test.number? = Test.numberFor test.field test.value.toList ∧
      ∀ word, word = test.field.token ∨ word = test.field.column →
        (parse (spelled word test)).value.reading = .ok test := by
  have read (test : Test) : (parse text).value.reading = .ok test ↔
      ∃ value before after, Spells (trim text.toList) test.field test.operator value before after ∧
        test.value = String.ofList value ∧ test.number? = Test.numberFor test.field value :=
    Test.ofChars_eq_ok
  refine ⟨by decide, fun field operator value => ?_, fun test understood => ?_⟩
  · constructor
    · rintro ⟨test, understood, rfl, rfl, written⟩
      rcases (read test).mp understood with ⟨found, before, after, spells, alsoWritten, _⟩
      have same : value = found := String.ofList_injective (written.symm.trans alsoWritten)
      exact ⟨before, after, same ▸ spells⟩
    · rintro ⟨before, after, spells⟩
      rcases Test.exists_ofParts spells.taken with ⟨test, made⟩
      rcases Test.ofParts_eq_ok.mp made with ⟨_, rfl, rfl, written, number⟩
      exact ⟨test, (read test).mpr ⟨value, before, after, spells, written, number⟩, rfl, rfl, written⟩
  · rcases (read test).mp understood with ⟨value, before, after, spells, written, number⟩
    refine ⟨by rw [number, written, String.toList_ofList], fun word named => ?_⟩
    have trimmed : trim value = value := by
      rw [spells.valued, trim_trim]
    have chars : (spelled word test).toList =
        word.toList ++ ' ' :: (test.operator.token.toList ++ ' ' :: value) := by
      simp [spelled, written]
    rcases Field.word_facts named with ⟨worded, unblank, _⟩
    have raw : trim (spelled word test).toList =
        word.toList ++ ' ' :: (test.operator.token.toList ++ ' ' :: value) := by
      rw [chars, trim_spaced worded unblank spells.filled trimmed]
    apply Test.ofChars_eq_ok.mpr
    rw [raw]
    exact ⟨value, _, _, spells.spaced named, written, number⟩

end Clause

/-!
## Compact clauses

A clause may be written without spaces: a word for the field, the token of the
operator, and the value.  Every token ends with one of three marks, and no
token starts with a character of a word.  So a value without these marks is
read back as it is: no token reaches into the word or into the value, and of
the tokens that stand in the operator itself the operator's own is looked for
first.
-/

/-- Whether a value holds none of the marks with which tokens end. -/
def Unmarked (value : List Char) : Prop :=
  ∀ c ∈ value, c ≠ '=' ∧ c ≠ '<' ∧ c ≠ '>'

instance (value : List Char) : Decidable (Unmarked value) :=
  List.decidableBAll (fun c => c ≠ '=' ∧ c ≠ '<' ∧ c ≠ '>') value

theorem Operator.last_token (operator : Operator) :
    ∀ c ∈ operator.token.toList.getLast?, c = '=' ∨ c = '<' ∨ c = '>' := by
  have checked : ∀ operator ∈ byLength,
      operator.token.toList.getLast?.all (fun c => c = '=' ∨ c = '<' ∨ c = '>') = true := by
    decide +kernel
  intro c last
  exact of_decide_eq_true ((Option.all_eq_true _ _).mp (checked operator (mem_byLength operator)) c last)

/-- No token starts with a character of a word for a field. -/
theorem Operator.head_token_not_mem_word (operator : Operator) {word : String} {field : Field}
    (named : word = field.token ∨ word = field.column) :
    ∀ c ∈ operator.token.toList.head?, c ∉ word.toList := by
  have checked : ∀ field ∈ Field.all, ∀ operator ∈ byLength, operator.token.toList.head?.all
      (fun c => c ∉ field.token.toList ∧ c ∉ field.column.toList) = true := by
    decide +kernel
  have unlike := checked field (Field.mem_all field) operator (mem_byLength operator)
  intro c first
  rcases of_decide_eq_true ((Option.all_eq_true _ _).mp unlike c first) with ⟨notInToken, notInColumn⟩
  rcases named with token | column
  · rwa [token]
  · rwa [column]

theorem Unmarked.token_not_infix {value : List Char} (unmarked : Unmarked value) (operator : Operator) :
    ¬operator.token.toList <:+: value := by
  intro inside
  have last := List.getLast?_eq_some_getLast operator.token_facts.1
  have member := inside.subset (List.getLast_mem operator.token_facts.1)
  have unlike := unmarked _ member
  rcases operator.last_token _ last with mark | mark | mark
  · exact unlike.1 mark
  · exact unlike.2.1 mark
  · exact unlike.2.2 mark

section Reading

variable {word : String} {field : Field} {value : List Char}

/-- A token that stands in a compact clause stands in the token of its operator. -/
theorem Unmarked.infix_token (unmarked : Unmarked value)
    (named : word = field.token ∨ word = field.column) {operator other : Operator}
    (inside : other.token.toList <:+: word.toList ++ operator.token.toList ++ value) :
    other.token.toList <:+: operator.token.toList := by
  have filled := other.token_facts.1
  have before : other.token.toList <:+: word.toList ++ operator.token.toList := by
    refine infix_of_last_not_mem filled (fun c last member => ?_) inside
    have unlike := unmarked c member
    rcases other.last_token c last with mark | mark | mark
    · exact unlike.1 mark
    · exact unlike.2.1 mark
    · exact unlike.2.2 mark
  exact infix_of_head_not_mem filled (other.head_token_not_mem_word named) before

/-- The operator of a compact clause is the one that was written. -/
theorem Unmarked.find?_compact (unmarked : Unmarked value)
    (named : word = field.token ∨ word = field.column) (operator : Operator) :
    Operator.find? (word.toList ++ operator.token.toList ++ value) = some operator := by
  refine Operator.find?_eq_some.mpr ⟨⟨word.toList, value, rfl⟩, fun other earlier inside => ?_⟩
  exact operator.token_facts.2.2 other earlier (unmarked.infix_token named inside)

/-- A compact clause is cut between its word and its value. -/
theorem cut?_compact (named : word = field.token ∨ word = field.column) (operator : Operator)
    (value : List Char) :
    cut? operator.token.toList (word.toList ++ operator.token.toList ++ value) =
      some (word.toList, value) := by
  refine cut?_eq_some.mpr ⟨rfl, fun left right parts => ?_⟩
  rw [List.append_assoc, List.append_assoc] at parts
  rcases List.append_eq_append_iff.mp parts with ⟨rest, late, _⟩ | ⟨rest, early, behind⟩
  · rw [late, List.length_append]
    exact Nat.le_add_right _ _
  · cases rest with
    | nil => rw [early, List.append_nil]
    | cons c others =>
        -- the token would start within the word
        refine absurd ?_ (operator.head_token_not_mem_word named c ?_)
        · rw [early]
          exact List.mem_append_right left List.mem_cons_self
        · have first := congrArg List.head? behind
          rw [List.head?_append, List.cons_append, List.head?_cons] at first
          cases started : operator.token.toList.head? with
          | none => exact absurd (List.head?_eq_none_iff.mp started) operator.token_facts.1
          | some d => rwa [started, Option.some_or] at first

/-- What is made of a compact clause is made of its three parts. -/
theorem Test.ofChars_compact (named : word = field.token ∨ word = field.column) (operator : Operator)
    (unmarked : Unmarked value) (filled : trim value ≠ []) :
    ofChars (word.toList ++ operator.token.toList ++ value) = ofParts field operator (trim value) := by
  rcases Field.word_facts named with ⟨worded, unblank, _⟩
  have once : occurs operator.token.toList value = false := by
    rw [← Bool.not_eq_true, occurs_iff]
    exact unmarked.token_not_infix operator
  have valued : (trim value).isEmpty = false := List.isEmpty_eq_false_iff.mpr filled
  have wordFilled : word.toList.isEmpty = false := List.isEmpty_eq_false_iff.mpr worded
  have known : Field.ofWord? word = some field := Field.ofWord?_eq_some.mpr named
  simp only [ofChars, unmarked.find?_compact named operator, cut?_compact named operator value, once,
    trim_of_filled unblank, String.ofList_toList, wordFilled, valued, known, Bool.false_eq_true,
    Bool.or_self, if_false]

/-- A compact clause is read as its field, its operator and its value, and blanks
around the value do not count. -/
theorem Clause.reading_compact (named : word = field.token ∨ word = field.column) (operator : Operator)
    {value : String} (unmarked : Unmarked value.toList) (filled : trim value.toList ≠ []) :
    (Clause.ofString (word ++ operator.token ++ value)).reading =
      Test.ofParts field operator (trim value.toList) := by
  rcases Field.word_facts named with ⟨worded, unblank, _⟩
  rcases exists_blanks_behind value.toList with ⟨blanks, parts, blank⟩
  have trimmed : trim (trimEnd value.toList) = trim value.toList := by
    rw [← trim_append_of_blanks blank (trimEnd value.toList), ← parts]
  have ended : trimEnd value.toList ≠ [] := by
    intro nothing
    rw [nothing] at trimmed
    exact filled trimmed.symm
  have unmarkedEnd : Unmarked (trimEnd value.toList) := fun c member =>
    unmarked c ((trimEnd_isBeginning value.toList).subset member)
  have chars : (word ++ operator.token ++ value).toList =
      word.toList ++ operator.token.toList ++ trimEnd value.toList ++ blanks := by
    rw [String.toList_append, String.toList_append, List.append_assoc _ (trimEnd value.toList), ← parts]
  have raw : trim (word ++ operator.token ++ value).toList =
      word.toList ++ operator.token.toList ++ trimEnd value.toList := by
    rw [chars, trim_append_of_blanks blank]
    apply trim_of_ends
    · intro c first
      rcases List.exists_cons_of_ne_nil worded with ⟨w, others, start⟩
      rw [start, List.cons_append, List.cons_append, List.head?_cons] at first
      exact Option.mem_some.mp first ▸ unblank w (start ▸ List.mem_cons_self)
    · intro c last
      rw [List.getLast?_append, List.getLast?_eq_some_getLast ended, Option.some_or,
        ← List.getLast?_eq_some_getLast] at last
      exact last_trimEnd c last
  rw [Clause.ofString, raw, Test.ofChars_compact named operator unmarkedEnd (trimmed ▸ filled), trimmed]

/-- A compact clause about the name takes every value. -/
theorem Clause.reading_name (named : word = Field.name.token ∨ word = Field.name.column) (operator : Operator)
    {value : String} (unmarked : Unmarked value.toList) (filled : value ≠ "")
    (trimmed : strip value = value) :
    (Clause.ofString (word ++ operator.token ++ value)).reading = .ok (.ofName operator value) := by
  have same : trim value.toList = value.toList := by
    rw [← toList_strip, trimmed]
  have valued : trim value.toList ≠ [] := by
    rw [same]
    exact fun nothing => filled (String.toList_eq_nil_iff.mp nothing)
  rw [reading_compact named operator unmarked valued, same, Test.ofParts, String.ofList_toList]

end Reading

end GameNight
