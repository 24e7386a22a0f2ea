import GameNight.Proofs.Messages.Fallback
import GameNight.Proofs.Number.Reading

namespace GameNight
namespace Messages

open Text Number

/-!
# Templates of text and names

A template that only names its arguments is filled with them in one pass.
-/

/-!
## Filling the pieces of a template

A text without fields is kept, and a field that names an argument as a whole is
filled with the argument as it is displayed.
-/

/-- The pieces of a text without fields. -/
def literals (text : String) : List Piece :=
  text.toList.map .literal

/-- The piece that names an argument and asks for nothing else. -/
def argumentPiece (name : String) : Piece :=
  .field ⟨name.toList, none, [], false⟩

section Filling

variable (arguments : Arguments) (fillLayout : List Char → Except FillFault (List Char))
  (rest : List Piece)

theorem fillPieces_literals [Machine] (text : String) :
    fillPieces arguments fillLayout (literals text ++ rest) =
      (fillPieces arguments fillLayout rest).map (text.toList ++ ·) := by
  rw [literals]
  induction text.toList with
  | nil =>
      rw [List.map_nil, List.nil_append]
      cases fillPieces arguments fillLayout rest <;> rfl
  | cons c others inductionHypothesis =>
      rw [List.map_cons, List.cons_append, fillPieces, inductionHypothesis]
      cases fillPieces arguments fillLayout rest <;> rfl

theorem fillPieces_argument [Machine] {name text : String} {argument : Argument}
    (whole : name.toList.all (fun c => !startsStep c) = true)
    (named : markedNumber 0 name.toList = .ok none) (given : arguments.lookup name = some argument)
    (shown : argument.display = .ok text) :
    fillPieces arguments fillLayout (argumentPiece name :: rest) =
      (fillPieces arguments fillLayout rest).map (text.toList ++ ·) := by
  have all : name.toList.takeWhile (fun c => !startsStep c) = name.toList :=
    List.takeWhile_eq_self_iff.mpr (List.all_eq_true.mp whole)
  have stays : follow argument name.toList.length [] = .ok argument := by
    cases name.toList.length <;> rfl
  have filled : fillField arguments fillLayout ⟨name.toList, none, [], false⟩ = .ok text := by
    simp only [fillField, resolve, all, named, String.ofList_toList, given, List.drop_length, stays]
    exact shown
  rw [argumentPiece, fillPieces, filled]

end Filling

theorem numberText_of_short {value : Int} (short : value.natAbs < tenTo digitLimit) :
    numberText value = .ok (integerText value) := by
  have written := writeInteger_of_short short
  unfold numberText
  split
  · rename_i text here
    rw [written] at here
    rw [Except.ok.inj here]
  · rename_i here
    rw [written] at here
    cases here

/-- A number that is not too long is displayed in decimal. -/
theorem display_number {number : Nat} (short : number < tenTo digitLimit) :
    (Argument.number number).display = .ok (naturalText number) := by
  rw [Argument.display.eq_def]
  simp only [Argument.inscription.eq_def]
  rw [numberText_of_short (by rwa [Int.natAbs_natCast])]
  rfl

/-!
## Templates of text and names

A template that is written plainly is a sequence of texts and names: texts
stand for themselves, with every brace written twice, and a name stands
between braces.  Such a template is read back into the same sequence, and it
is filled in one pass: what an argument holds is not read again, so that it
comes out as it was given, whatever characters are in it.
-/

/-- One part of a template: a text, or the place of an argument. -/
inductive Segment where
  | text (words : List Char)
  | field (name : String)
  deriving DecidableEq, Repr

def isBrace (c : Char) : Bool :=
  c == '\x7b' || c == '\x7d'

/-- A text as it is written in a template. -/
def doubled (words : List Char) : List Char :=
  words.flatMap fun c => if isBrace c then [c, c] else [c]

def Segment.written : Segment → List Char
  | .text words => doubled words
  | .field name => '\x7b' :: (name.toList ++ ['\x7d'])

/-- The template with these segments. -/
def template (segments : List Segment) : String :=
  String.ofList (segments.flatMap Segment.written)

def Segment.filled (value : String → String) : Segment → List Char
  | .text words => words
  | .field name => (value name).toList

/-- The segments with a value in the place of each name. -/
def filled (value : String → String) (segments : List Segment) : String :=
  String.ofList (segments.flatMap (Segment.filled value))

def words (text : String) : Segment :=
  .text text.toList

@[simp] theorem filled_nil (value : String → String) : filled value [] = "" := rfl

@[simp] theorem filled_words (value : String → String) (text : String) (rest : List Segment) :
    filled value (words text :: rest) = text ++ filled value rest := by
  rw [filled, List.flatMap_cons, String.ofList_append, words, Segment.filled, String.ofList_toList]
  rfl

@[simp] theorem filled_field (value : String → String) (name : String) (rest : List Segment) :
    filled value (.field name :: rest) = value name ++ filled value rest := by
  rw [filled, List.flatMap_cons, String.ofList_append, Segment.filled, String.ofList_toList]
  rfl

def Segment.name? : Segment → Option String
  | .text _ => none
  | .field name => some name

def namesIn (segments : List Segment) : List String :=
  segments.filterMap Segment.name?

@[simp] theorem namesIn_nil : namesIn [] = [] := rfl

@[simp] theorem namesIn_field (name : String) (rest : List Segment) :
    namesIn (.field name :: rest) = name :: namesIn rest := rfl

@[simp] theorem namesIn_words (text : String) (rest : List Segment) :
    namesIn (words text :: rest) = namesIn rest := rfl

/-- The characters that mean something in a field. -/
def fieldMarks : List Char :=
  ['.', '[', ':', '!', '\x7b', '\x7d']

/-- Whether a text can name an argument in a field.  All identifiers can, since
they do not start with a digit and hold no such mark. -/
def isName (name : String) : Bool :=
  match name.toList with
  | [] => false
  | first :: rest => !isDecimal first && (first :: rest).all fun c => !fieldMarks.contains c

theorem isName_iff {name : String} :
    isName name = true ↔
      (∃ first rest, name.toList = first :: rest ∧ decimalValue? first = none) ∧
        ∀ c ∈ name.toList, c ∉ fieldMarks := by
  rw [isName]
  cases name.toList with
  | nil => simp
  | cons first rest => simp [isDecimal]

/-! ### Reading a template back -/

def Segment.pieces : Segment → List Piece
  | .text words => words.map .literal
  | .field name => [argumentPiece name]

theorem pieces_text (words : List Char) :
    Segment.pieces (.text words) = literals (String.ofList words) := by
  rw [literals, String.toList_ofList, Segment.pieces]

/-- Characters are read as pieces, with any fuel that is enough. -/
def ReadsAs (chars : List Char) (pieces : List Piece) : Prop :=
  ∀ fuel, chars.length ≤ fuel → Piece.read fuel chars = pieces

theorem readsAs_nil : ReadsAs [] [] := by
  intro fuel _
  cases fuel <;> rfl

/-! #### One step -/

theorem read_opening (fuel : Nat) (rest : List Char) :
    Piece.read (fuel + 1) ('\x7b' :: '\x7b' :: rest) = .literal '\x7b' :: Piece.read fuel rest := rfl

theorem read_closing (fuel : Nat) (rest : List Char) :
    Piece.read (fuel + 1) ('\x7d' :: '\x7d' :: rest) = .literal '\x7d' :: Piece.read fuel rest := rfl

theorem read_plain (fuel : Nat) {c : Char} (plain : isBrace c = false) (rest : List Char) :
    Piece.read (fuel + 1) (c :: rest) = .literal c :: Piece.read fuel rest := by
  rw [isBrace, Bool.or_eq_false_iff, beq_eq_false_iff_ne, beq_eq_false_iff_ne] at plain
  rw [Piece.read.eq_def]
  simp only [if_neg plain.1, if_neg plain.2]

theorem read_field (fuel : Nat) {rest behind : List Char} {field : TemplateField}
    (single : ∀ others, rest ≠ '\x7b' :: others) (taken : takeField? rest = some (field, behind)) :
    Piece.read (fuel + 1) ('\x7b' :: rest) = .field field :: Piece.read fuel behind := by
  rw [Piece.read.eq_def]
  -- a second brace, for which the first one would be read otherwise, is ruled out by `single`
  simp only [if_true, taken]

/-- A name ends at the brace that closes its field. -/
theorem takeName?_of_unmarked {name : List Char} (unmarked : ∀ c ∈ name, c ∉ fieldMarks)
    (done rest : List Char) :
    takeName? false done (name ++ '\x7d' :: rest) = some (done.reverse ++ name, '\x7d', rest) := by
  induction name generalizing done with
  | nil =>
      rw [List.nil_append, takeName?, List.append_nil]
      simp
  | cons c others inductionHypothesis =>
      have here := unmarked c List.mem_cons_self
      simp only [fieldMarks, List.mem_cons, List.not_mem_nil, or_false, not_or] at here
      rcases here with ⟨_, noBracket, noColon, noMark, noOpening, noClosing⟩
      have later := inductionHypothesis (fun c member => unmarked c (List.mem_cons_of_mem _ member))
        (c :: done)
      rw [List.cons_append, takeName?, if_neg Bool.false_ne_true, if_neg noOpening, if_neg noBracket,
        if_neg (by simp [noClosing, noColon, noMark]), later, List.reverse_cons, List.append_assoc,
        List.singleton_append]

/-! #### All segments -/

theorem ReadsAs.of_step {c : Char} {chars rest : List Char} {piece : Piece} {pieces : List Piece}
    (shorter : rest.length ≤ chars.length) (later : ReadsAs rest pieces)
    (step : ∀ fuel, Piece.read (fuel + 1) (c :: chars) = piece :: Piece.read fuel rest) :
    ReadsAs (c :: chars) (piece :: pieces) := by
  intro fuel enough
  cases fuel with
  | zero => exact absurd enough (Nat.not_succ_le_zero _)
  | succ fuel =>
      rw [step, later fuel (Nat.le_trans shorter (Nat.le_of_succ_le_succ enough))]

/-- A text is read as it was before its braces were written twice. -/
theorem ReadsAs.doubled {rest : List Char} {pieces : List Piece} (later : ReadsAs rest pieces)
    (words : List Char) : ReadsAs (doubled words ++ rest) (words.map .literal ++ pieces) := by
  induction words with
  | nil => exact later
  | cons c others inductionHypothesis =>
      rw [Messages.doubled, List.flatMap_cons, List.append_assoc, List.map_cons, List.cons_append]
      by_cases brace : isBrace c = true
      · rw [if_pos brace]
        rw [isBrace, Bool.or_eq_true, beq_iff_eq, beq_iff_eq] at brace
        rcases brace with rfl | rfl
        · exact inductionHypothesis.of_step (Nat.le_succ _) fun fuel => read_opening fuel _
        · exact inductionHypothesis.of_step (Nat.le_succ _) fun fuel => read_closing fuel _
      · rw [if_neg brace]
        exact inductionHypothesis.of_step (Nat.le_refl _) fun fuel =>
          read_plain fuel (Bool.eq_false_iff.mpr brace) _

theorem ReadsAs.field {rest : List Char} {pieces : List Piece} (later : ReadsAs rest pieces)
    {name : String} (named : isName name = true) :
    ReadsAs ('\x7b' :: (name.toList ++ '\x7d' :: rest)) (argumentPiece name :: pieces) := by
  rcases isName_iff.mp named with ⟨⟨first, others, starts, _⟩, unmarked⟩
  have taken : takeField? (name.toList ++ '\x7d' :: rest) =
      some (⟨name.toList, none, [], false⟩, rest) := by
    rw [takeField?, takeName?_of_unmarked unmarked]
    rfl
  have single : ∀ behind, name.toList ++ '\x7d' :: rest ≠ '\x7b' :: behind := by
    intro behind same
    rw [starts, List.cons_append] at same
    have marked : first ∈ fieldMarks := by
      rw [(List.cons.inj same).1]
      decide
    exact unmarked first (starts ▸ List.mem_cons_self) marked
  have shorter : rest.length ≤ (name.toList ++ '\x7d' :: rest).length := by
    rw [List.length_append, List.length_cons]
    omega
  exact later.of_step shorter fun fuel => read_field fuel single taken

/-- A template is read as the segments that it was written from. -/
theorem readsAs_segments {segments : List Segment}
    (named : ∀ name ∈ namesIn segments, isName name = true) :
    ReadsAs (segments.flatMap Segment.written) (segments.flatMap Segment.pieces) := by
  induction segments with
  | nil => exact readsAs_nil
  | cons segment rest inductionHypothesis =>
      rw [List.flatMap_cons, List.flatMap_cons]
      cases segment with
      | text words =>
          exact (inductionHypothesis named).doubled words
      | field name =>
          rw [namesIn_field, List.forall_mem_cons] at named
          have later := (inductionHypothesis named.2).field named.1
          rwa [Segment.written, List.cons_append, List.append_assoc, List.singleton_append]

theorem ofChars_template {segments : List Segment}
    (named : ∀ name ∈ namesIn segments, isName name = true) :
    Piece.ofChars (template segments).toList = segments.flatMap Segment.pieces := by
  rw [template, String.toList_ofList]
  exact readsAs_segments named _ (Nat.le_refl _)

/-! ### Filling it -/

/-- An argument is given for a name, and it is displayed as the value. -/
def Shows (arguments : Arguments) (value : String → String) (name : String) : Prop :=
  ∃ argument, arguments.lookup name = some argument ∧ argument.display = .ok (value name)

theorem shows_text {arguments : Arguments} {value : String → String} {name : String}
    (found : arguments.lookup name = some (.text (value name))) : Shows arguments value name :=
  ⟨.text (value name), found, rfl⟩

theorem shows_number {arguments : Arguments} {value : String → String} {name : String} {number : Nat}
    (short : number < tenTo digitLimit) (found : arguments.lookup name = some (.number number))
    (written : value name = naturalText number) : Shows arguments value name :=
  ⟨.number number, found, by rw [display_number short, written]⟩

section Names

variable {name : String} (named : isName name = true)

include named

theorem whole_of_isName : name.toList.all (fun c => !startsStep c) = true := by
  rw [List.all_eq_true]
  intro c member
  have here := (isName_iff.mp named).2 c member
  simp only [fieldMarks, List.mem_cons, not_or] at here
  simp [startsStep, here.1, here.2.1]

theorem unnumbered_of_isName : markedNumber 0 name.toList = .ok none := by
  rcases (isName_iff.mp named).1 with ⟨first, rest, starts, noDigit⟩
  rw [starts, markedNumber, noDigit]

theorem resolve_missing {arguments : Arguments} (missing : arguments.lookup name = none) :
    resolve arguments name.toList = .error .unusable := by
  have all : name.toList.takeWhile (fun c => !startsStep c) = name.toList :=
    List.takeWhile_eq_self_iff.mpr (List.all_eq_true.mp (whole_of_isName named))
  simp only [resolve, all, unnumbered_of_isName named, String.ofList_toList, missing]

theorem isPlain_argumentPiece : (argumentPiece name).isPlain = true :=
  whole_of_isName named

end Names

section Segments

variable {arguments : Arguments} {segments : List Segment}
  (named : ∀ name ∈ namesIn segments, isName name = true)
  (fillLayout : List Char → Except FillFault (List Char))

include named

theorem fillPieces_segments [Machine] {value : String → String}
    (given : ∀ name ∈ namesIn segments, Shows arguments value name) :
    fillPieces arguments fillLayout (segments.flatMap Segment.pieces) =
      .ok (segments.flatMap (Segment.filled value)) := by
  induction segments with
  | nil => rfl
  | cons segment rest inductionHypothesis =>
      rw [List.flatMap_cons, List.flatMap_cons]
      cases segment with
      | text words =>
          rw [pieces_text, fillPieces_literals, inductionHypothesis named given, String.toList_ofList]
          rfl
      | field name =>
          rw [namesIn_field, List.forall_mem_cons] at named given
          rcases given.1 with ⟨argument, found, shown⟩
          rw [Segment.pieces, List.singleton_append,
            fillPieces_argument arguments fillLayout _ (whole_of_isName named.1)
              (unnumbered_of_isName named.1) found shown,
            inductionHypothesis named.2 given.2]
          rfl

/-- Where an argument is missing, the template cannot be used. -/
theorem fillPieces_missing [Machine] {missing : String} (asked : missing ∈ namesIn segments)
    (lacking : arguments.lookup missing = none) :
    fillPieces arguments fillLayout (segments.flatMap Segment.pieces) = .error .unusable := by
  induction segments with
  | nil => cases asked
  | cons segment rest inductionHypothesis =>
      rw [List.flatMap_cons]
      cases segment with
      | text words =>
          rw [pieces_text, fillPieces_literals, inductionHypothesis named asked]
          rfl
      | field name =>
          rw [namesIn_field, List.forall_mem_cons] at named
          rw [Segment.pieces, List.singleton_append, argumentPiece, fillPieces]
          rcases List.mem_cons.mp asked with rfl | later
          · rw [fillField, resolve_missing named.1 lacking]
          · rw [inductionHypothesis named.2 later]
            have tame : Tame (fillField arguments fillLayout ⟨name.toList, none, [], false⟩) :=
              tame_fillField arguments fillLayout (isPlain_argumentPiece named.1)
            cases here : fillField arguments fillLayout ⟨name.toList, none, [], false⟩ with
            | error fault => rw [tame fault here]
            | ok text => rfl

end Segments

section Saying

variable {messages : Messages} {key : String} {arguments : Arguments} {segments : List Segment}
  (leads : messages.template? key = some (template segments))
  (named : ∀ name ∈ namesIn segments, isName name = true)
  (free : takenName? arguments = none) (some : arguments.isEmpty = false)

include leads named free some

theorem say_filled [Machine] {value : String → String}
    (given : ∀ name ∈ namesIn segments, Shows arguments value name) :
    messages.say key arguments = .ok (filled value segments) := by
  have whole : fill (template segments) arguments = .ok (filled value segments) := by
    rw [fill, fillTo, ofChars_template named, fillPieces_segments named _ given]
    rfl
  rw [say, leads, free]
  simp only [some, Bool.false_eq_true, if_false, fillOrKeep, whole]

/-- A template with a name that is missing is said as it stands. -/
theorem say_kept [Machine] {missing : String} (asked : missing ∈ namesIn segments)
    (lacking : arguments.lookup missing = none) :
    messages.say key arguments = .ok (template segments) := by
  have unusable : fill (template segments) arguments = .error .unusable := by
    rw [fill, fillTo, ofChars_template named, fillPieces_missing named _ asked lacking]
    rfl
  rw [say, leads, free]
  simp only [some, Bool.false_eq_true, if_false, fillOrKeep, unusable]

end Saying

/-! ### Arguments that are texts -/

def texts (given : List (String × String)) : Arguments :=
  given.map fun pair => (pair.1, .text pair.2)

theorem lookup_texts (given : List (String × String)) (name : String) :
    (texts given).lookup name = (given.lookup name).map .text := by
  induction given with
  | nil => rfl
  | cons pair rest inductionHypothesis =>
      rw [texts, List.map_cons, List.lookup_cons, List.lookup_cons]
      cases name == pair.1 with
      | true => rfl
      | false => exact inductionHypothesis

theorem takenName?_texts {given : List (String × String)}
    (free : ∀ pair ∈ given, pair.1 ∉ takenNames) : takenName? (texts given) = none := by
  rw [takenName?, List.find?_eq_none]
  intro name taken any
  rcases List.any_eq_true.mp any with ⟨argument, member, same⟩
  rcases List.mem_map.mp member with ⟨pair, held, made⟩
  apply free pair held
  rw [← made, beq_iff_eq] at same
  rwa [← same] at taken

/-- What a message says of texts that are given for the names in its template:
each of them in its place, if none is missing, and the template otherwise. -/
structure SaysVerbatim [Machine] (messages : Messages) (key : String) (segments : List Segment)
    (given : List (String × String)) : Prop where
  inserted : ∀ value, (∀ name ∈ namesIn segments, given.lookup name = some (value name)) →
    messages.say key (texts given) = .ok (filled value segments)
  kept : (∃ name ∈ namesIn segments, given.lookup name = none) →
    messages.say key (texts given) = .ok (template segments)

theorem says_verbatim [Machine] {messages : Messages} {key : String} {segments : List Segment}
    {given : List (String × String)}
    (leads : valueAt? messages.tree (keyPath key) = some (.text (template segments)))
    (named : ∀ name ∈ namesIn segments, isName name = true) (filled : given ≠ [])
    (free : ∀ pair ∈ given, pair.1 ∉ takenNames) : SaysVerbatim messages key segments given := by
  have told : messages.template? key = some (template segments) := by
    rw [template?, leads]
  have some : (texts given).isEmpty = false := by
    rw [texts, List.isEmpty_map]
    exact List.isEmpty_eq_false_iff.mpr filled
  have unclaimed := takenName?_texts free
  constructor
  · intro value all
    apply say_filled told named unclaimed some
    intro name asked
    apply shows_text
    rw [lookup_texts, all name asked]
    rfl
  · rintro ⟨name, asked, lacking⟩
    apply say_kept told named unclaimed some asked
    rw [lookup_texts, lacking]
    rfl

/-! ### The templates of the console -/

/-- Cut a text at its braces into the segments that it was written from, if it
was written from any and holds no brace twice. -/
def cutAtBraces (inField : Bool) (done : List Char) : List Char → List Segment
  | [] => [.text done.reverse]
  | c :: rest =>
    if inField ∧ c = '\x7d' then
      .field (String.ofList done.reverse) :: cutAtBraces false [] rest
    else if ¬inField ∧ c = '\x7b' then .text done.reverse :: cutAtBraces true [] rest
    else cutAtBraces inField (c :: done) rest

/-- Whether a text is written plainly, as the segments show that it is cut into. -/
def isPlainlyWritten (chars : List Char) : Bool :=
  let segments := cutAtBraces false [] chars
  decide (segments.flatMap Segment.written = chars) && (namesIn segments).all isName

theorem exists_segments_of_isPlainlyWritten {text : String}
    (plain : isPlainlyWritten text.toList = true) :
    ∃ segments, text = template segments ∧ ∀ name ∈ namesIn segments, isName name = true := by
  rw [isPlainlyWritten, Bool.and_eq_true, decide_eq_true_eq, List.all_eq_true] at plain
  refine ⟨cutAtBraces false [] text.toList, ?_, plain.2⟩
  rw [template, plain.1, String.ofList_toList]

/-- All templates of the console are written plainly. -/
theorem isPlainlyWritten_console {text : String} (member : text ∈ textsInMembers consoleMessages) :
    isPlainlyWritten text.toList = true := by
  have all : ∀ other ∈ textsInMembers consoleMessages, isPlainlyWritten other.toList = true := by
    simp only [consoleMessages, textsInMembers, textsIn, List.append_nil, List.cons_append,
      List.nil_append, List.forall_mem_cons, String.toList_append]
    -- The characters of a literal are put in its place, one literal after the other.
    repeat rw [String.toList_ofList]
    decide +kernel
  exact all text member

theorem template?_console {key text : String}
    (leads : valueAt? consoleMessages (keyPath key) = some (.text text)) :
    bundled.template? key = some text := by
  have same : valueAt? bundled.tree (keyPath key) = valueAt? consoleMessages (keyPath key) := by
    cases path : keyPath key with
    | nil =>
        rw [path, valueAt?] at leads
        cases leads
    | cons name rest =>
        rw [path, valueAt?] at leads
        rw [tree_bundled, valueAt?, valueAt?]
        have other : name ≠ "logs" := by
          rintro rfl
          cases leads
        rw [Json.member?, Json.member?, journalMessages, List.singleton_append, List.lookup_cons,
          beq_false_of_ne other]
  rw [template?, same, leads]

/-- A message of the program, by the segments of its template. -/
theorem announce_of_segments [Machine] {key : String} {arguments : Arguments} {segments : List Segment}
    {value : String → String} (leads : bundled.template? key = some (template segments))
    (named : ∀ name ∈ namesIn segments, isName name = true) (free : takenName? arguments = none)
    (some : arguments.isEmpty = false)
    (given : ∀ name ∈ namesIn segments, Shows arguments value name) :
    announce key arguments = filled value segments := by
  rw [announce, say_filled leads named free some given]

theorem announce_of_texts [Machine] {key : String} (given : List (String × String)) {segments : List Segment}
    (leads : bundled.template? key = some (template segments))
    (named : ∀ name ∈ namesIn segments, isName name = true) (free : takenName? (texts given) = none)
    (some : given.isEmpty = false) (all : ∀ name ∈ namesIn segments, (given.lookup name).isSome = true) :
    announce key (texts given) = filled (fun name => (given.lookup name).getD "") segments := by
  apply announce_of_segments leads named free
  · rwa [texts, List.isEmpty_map]
  · intro name asked
    rcases Option.isSome_iff_exists.mp (all name asked) with ⟨text, found⟩
    apply shows_text
    rw [lookup_texts, found]
    rfl

end Messages
end GameNight
