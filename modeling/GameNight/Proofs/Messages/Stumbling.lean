import GameNight.Proofs.Messages.Fallback
import GameNight.Proofs.Messages.Unfit

namespace GameNight
namespace Messages

open Text Number Files Journal Json

/-!
# Messages that cannot be told

A template that does not suit its arguments is told as it stands, but not in every case.
It stumbles over a field whose name leads astray, or whose value does not fit the layout
that is asked for; the layout itself may be filled from fields, and stumble in the same
way.  Fields are filled from left to right, so that a field counts only if what stands
before it can be filled.

A template is told, filled or as it stands, exactly when it does not stumble.  Without
arguments nothing is filled, and every template is told.
-/

/-- How the name of a field is read: the word of an argument, and steps behind it.  A
word of digits would stand for an argument without a name. -/
structure NamesArgument (arguments : Arguments) (name word steps : List Char) (argument : Argument) : Prop where
  parts : name = word ++ steps
  whole : ∀ c ∈ word, startsStep c = false
  ends : ∀ c ∈ steps.head?, startsStep c = true
  unnumbered : markedNumber 0 word = .ok none
  given : arguments.lookup (String.ofList word) = some argument

/-- The value that a field lays out: what its name leads to, converted if that is asked. -/
def ShowsValue (arguments : Arguments) (field : TemplateField) (value : Argument) : Prop :=
  ∃ reached, resolve arguments field.name = .ok reached ∧
    field.conversion.elim (.ok reached) reached.convert = .ok value

section Filling

variable (arguments : Arguments) (fillLayout : List Char → Except FillFault (List Char))
  (layoutStumbles : List Char → Prop)

/-- Whether filling stumbles over a field, when it is known how layouts are filled and
which of them stumble. -/
inductive FieldStumbles [Machine] : TemplateField → Prop
  | name {field : TemplateField} {word steps : List Char} {argument : Argument}
      (named : NamesArgument arguments field.name word steps argument) (astray : Astray argument steps) :
      FieldStumbles field
  | nested {field : TemplateField} {value : Argument} (shown : ShowsValue arguments field value)
      (inside : field.nested = true) (stumbles : layoutStumbles field.layout) : FieldStumbles field
  | layout {field : TemplateField} {value : Argument} {layout : List Char}
      (shown : ShowsValue arguments field value)
      (laidOut : (if field.nested then fillLayout field.layout else .ok field.layout) = .ok layout)
      (unfit : Unfit value layout) : FieldStumbles field

/-- Whether filling stumbles over one of some pieces, those before it being filled. -/
def PiecesStumble [Machine] (pieces : List Piece) : Prop :=
  ∃ before field behind, pieces = before ++ .field field :: behind ∧
    (∃ text, fillPieces arguments fillLayout before = .ok text) ∧
      FieldStumbles arguments fillLayout layoutStumbles field

end Filling

/-- Whether filling a template stumbles, where layouts may nest to a depth. -/
def StumblesTo [Machine] (arguments : Arguments) : Nat → List Char → Prop
  | 0, _ => False
  | depth + 1, chars =>
    PiecesStumble arguments (fillTo arguments depth) (StumblesTo arguments depth) (Piece.ofChars chars)

/-- Whether a template stumbles over arguments. -/
def Stumbles [Machine] (arguments : Arguments) (template : String) : Prop :=
  StumblesTo arguments 2 template.toList

/-! ## Names -/

section Naming

variable {arguments : Arguments} {name word steps : List Char}

theorem resolve_of_names {argument : Argument} (named : NamesArgument arguments name word steps argument) :
    resolve arguments name = follow argument name.length steps := by
  rcases named with ⟨rfl, whole, ends, unnumbered, given⟩
  have first : (word ++ steps).takeWhile (fun c => !startsStep c) = word :=
    takeWhile_of_run (fun c member => by rw [whole c member]; rfl) fun c head => by rw [ends c head]; rfl
  unfold resolve
  simp only [first, unnumbered, given, List.drop_left]

/-- A name that is not read as an argument and steps is not followed. -/
theorem resolve_of_unnamed
    (unnamed : ∀ word steps argument, ¬NamesArgument arguments name word steps argument) :
    resolve arguments name = .error .unusable := by
  rcases exists_run (fun c => !startsStep c) name with ⟨word, steps, rfl, whole, ends⟩
  unfold resolve
  simp only [takeWhile_of_run whole ends]
  split
  · rename_i unnumbered
    split
    · rfl
    · rename_i argument given
      have named : NamesArgument arguments (word ++ steps) word steps argument :=
        ⟨rfl, fun c member => by simpa using whole c member, fun c head => by simpa using ends c head,
          unnumbered, given⟩
      exact absurd named (unnamed word steps argument)
  · rfl

/-- Finding what a name leads to fails in a way that is passed on exactly when its steps
lead astray. -/
theorem tame_resolve_iff :
    Tame (resolve arguments name) ↔
      ¬∃ word steps argument, NamesArgument arguments name word steps argument ∧ Astray argument steps := by
  constructor
  · rintro tame ⟨word, steps, argument, named, astray⟩
    have enough : steps.length ≤ name.length := by
      rw [named.parts, List.length_append]
      omega
    rw [resolve_of_names named] at tame
    exact (tame_follow_iff enough).mp tame astray
  · intro straight
    by_cases named : ∃ word steps argument, NamesArgument arguments name word steps argument
    · rcases named with ⟨word, steps, argument, named⟩
      have enough : steps.length ≤ name.length := by
        rw [named.parts, List.length_append]
        omega
      rw [resolve_of_names named]
      exact (tame_follow_iff enough).mpr fun astray => straight ⟨word, steps, argument, named, astray⟩
    · rw [resolve_of_unnamed fun word steps argument names => named ⟨word, steps, argument, names⟩]
      exact tame_unusable

end Naming

/-! ## Fields and pieces -/

section Pieces

variable {arguments : Arguments} {fillLayout : List Char → Except FillFault (List Char)}
  {layoutStumbles : List Char → Prop}

theorem ShowsValue.unique {field : TemplateField} {value other : Argument}
    (shown : ShowsValue arguments field value) (alsoShown : ShowsValue arguments field other) : value = other := by
  rcases shown with ⟨reached, found, converted⟩
  rcases alsoShown with ⟨alsoReached, alsoFound, alsoConverted⟩
  cases found.symm.trans alsoFound
  exact Except.ok.inj (converted.symm.trans alsoConverted)

/-- What a name leads to does not lead astray. -/
theorem ShowsValue.tame_resolve {field : TemplateField} {value : Argument}
    (shown : ShowsValue arguments field value) : Tame (resolve arguments field.name) := by
  rcases shown with ⟨reached, found, _⟩
  rw [found]
  exact tame_ok reached

theorem fillField_of_shown [Machine] {field : TemplateField} {value : Argument}
    (shown : ShowsValue arguments field value) :
    fillField arguments fillLayout field =
      (if field.nested then fillLayout field.layout else .ok field.layout).bind (layOutArgument value) := by
  rcases shown with ⟨reached, found, converted⟩
  unfold fillField
  simp only [found, converted]
  cases (if field.nested then fillLayout field.layout else .ok field.layout) <;> rfl

/-- Where a field shows no value, filling it fails for the sake of its name if in a way
that is passed on. -/
theorem tame_fillField_of_unshown [Machine] {field : TemplateField}
    (unshown : ∀ value, ¬ShowsValue arguments field value) :
    Tame (fillField arguments fillLayout field) ↔ Tame (resolve arguments field.name) := by
  unfold fillField
  cases found : resolve arguments field.name with
  | error fault => exact tame_error_iff.trans tame_error_iff.symm
  | ok reached =>
      refine iff_of_true ?_ (tame_ok reached)
      have converting : Tame (field.conversion.elim (.ok reached) reached.convert) := by
        cases field.conversion with
        | none => exact tame_ok reached
        | some letter => exact tame_convert reached letter
      cases converted : field.conversion.elim (.ok reached) reached.convert with
      | ok value => exact absurd ⟨reached, found, converted⟩ (unshown value)
      | error fault =>
          simp only [converted, converting fault converted]
          exact tame_unusable

/-- Filling a field fails in a way that is passed on exactly when it stumbles. -/
theorem tame_fillField_iff [Machine] (layouts : ∀ chars, Tame (fillLayout chars) ↔ ¬layoutStumbles chars)
    {field : TemplateField} :
    Tame (fillField arguments fillLayout field) ↔ ¬FieldStumbles arguments fillLayout layoutStumbles field := by
  by_cases shows : ∃ value, ShowsValue arguments field value
  · rcases shows with ⟨value, shown⟩
    rw [fillField_of_shown shown]
    constructor
    · rintro tame (⟨named, astray⟩ | ⟨_, inside, stumbles⟩ | ⟨alsoShown, laidOut, unfit⟩)
      · exact tame_resolve_iff.mp shown.tame_resolve ⟨_, _, _, named, astray⟩
      · have filled := (tame_bind_iff.mp tame).1
        rw [if_pos inside] at filled
        exact (layouts field.layout).mp filled stumbles
      · cases shown.unique alsoShown
        exact tame_layOutArgument_iff.mp ((tame_bind_iff.mp tame).2 _ laidOut) unfit
    · intro steady
      refine tame_bind_iff.mpr ⟨?_, fun layout laidOut => ?_⟩
      · by_cases inside : field.nested = true
        · rw [if_pos inside]
          exact (layouts field.layout).mpr fun stumbles => steady (.nested shown inside stumbles)
        · rw [if_neg inside]
          exact tame_ok field.layout
      · exact tame_layOutArgument_iff.mpr fun unfit => steady (.layout shown laidOut unfit)
  · have unshown : ∀ value, ¬ShowsValue arguments field value := fun value shown => shows ⟨value, shown⟩
    rw [tame_fillField_of_unshown unshown, tame_resolve_iff]
    apply not_congr
    constructor
    · rintro ⟨word, steps, argument, named, astray⟩
      exact .name named astray
    · rintro (⟨named, astray⟩ | ⟨shown, _, _⟩ | ⟨shown, _, _⟩)
      · exact ⟨_, _, _, named, astray⟩
      · exact absurd shown (unshown _)
      · exact absurd shown (unshown _)

/-- The first piece is filled, and then the others are. -/
theorem fillPieces_cons [Machine] (piece : Piece) (rest : List Piece) :
    fillPieces arguments fillLayout (piece :: rest) =
      (fillPieces arguments fillLayout [piece]).bind fun front =>
        (fillPieces arguments fillLayout rest).map fun behind => front ++ behind := by
  cases piece with
  | literal c => rfl
  | broken => rfl
  | field field =>
      rw [fillPieces, fillPieces]
      cases fillField arguments fillLayout field with
      | error fault => rfl
      | ok text => simp only [fillPieces, Except.map, Except.bind, List.append_nil]

theorem fillPieces_cons_isOk [Machine] {piece : Piece} {rest : List Piece} :
    (∃ text, fillPieces arguments fillLayout (piece :: rest) = .ok text) ↔
      (∃ front, fillPieces arguments fillLayout [piece] = .ok front) ∧
        ∃ behind, fillPieces arguments fillLayout rest = .ok behind := by
  rw [fillPieces_cons]
  cases fillPieces arguments fillLayout [piece] with
  | error fault => simp [Except.bind]
  | ok front => cases fillPieces arguments fillLayout rest <;> simp [Except.bind, Except.map]

/-- A single piece is a field that stumbles, or it is filled or leaves the template as it
stands. -/
theorem tame_fillPiece_iff [Machine] (layouts : ∀ chars, Tame (fillLayout chars) ↔ ¬layoutStumbles chars) {piece : Piece} :
    Tame (fillPieces arguments fillLayout [piece]) ↔
      ¬∃ field, piece = .field field ∧ FieldStumbles arguments fillLayout layoutStumbles field := by
  cases piece with
  | literal c => exact iff_of_true (tame_ok _) (by simp)
  | broken => exact iff_of_true tame_unusable (by simp)
  | field field =>
      have alone : Tame (fillPieces arguments fillLayout [.field field]) ↔
          Tame (fillField arguments fillLayout field) := by
        rw [fillPieces]
        cases fillField arguments fillLayout field with
        | error fault => exact tame_error_iff.trans tame_error_iff.symm
        | ok text => exact iff_of_true (tame_ok _) (tame_ok text)
      rw [alone, tame_fillField_iff layouts]
      simp

/-- Pieces stumble over the first of them, or over a later one if the first is filled. -/
theorem piecesStumble_cons_iff [Machine] {piece : Piece} {rest : List Piece} :
    PiecesStumble arguments fillLayout layoutStumbles (piece :: rest) ↔
      (∃ field, piece = .field field ∧ FieldStumbles arguments fillLayout layoutStumbles field) ∨
        (∃ front, fillPieces arguments fillLayout [piece] = .ok front) ∧
          PiecesStumble arguments fillLayout layoutStumbles rest := by
  constructor
  · rintro ⟨before, field, behind, parts, filled, stumbles⟩
    cases before with
    | nil => exact Or.inl ⟨field, (List.cons.inj parts).1, stumbles⟩
    | cons first others =>
        rcases List.cons.inj parts with ⟨rfl, rest⟩
        rcases fillPieces_cons_isOk.mp filled with ⟨front, between⟩
        exact Or.inr ⟨front, others, field, behind, rest, between, stumbles⟩
  · rintro (⟨field, rfl, stumbles⟩ | ⟨front, before, field, behind, rfl, filled, stumbles⟩)
    · exact ⟨[], field, rest, rfl, ⟨[], rfl⟩, stumbles⟩
    · exact ⟨piece :: before, field, behind, rfl, fillPieces_cons_isOk.mpr ⟨front, filled⟩, stumbles⟩

/-- Filling pieces fails in a way that is passed on exactly when it stumbles over one of
them. -/
theorem tame_fillPieces_iff [Machine] (layouts : ∀ chars, Tame (fillLayout chars) ↔ ¬layoutStumbles chars)
    {pieces : List Piece} :
    Tame (fillPieces arguments fillLayout pieces) ↔
      ¬PiecesStumble arguments fillLayout layoutStumbles pieces := by
  induction pieces with
  | nil =>
      refine iff_of_true (tame_ok []) ?_
      rintro ⟨before, field, behind, parts, _⟩
      exact absurd parts.symm (by simp)
  | cons piece rest inductionHypothesis =>
      rw [fillPieces_cons, tame_bind_iff, piecesStumble_cons_iff, tame_fillPiece_iff layouts]
      simp only [tame_map_iff, inductionHypothesis, not_or, not_and, forall_exists_index]

end Pieces

theorem tame_fillTo_iff [Machine] {arguments : Arguments} {depth : Nat} (chars : List Char) :
    Tame (fillTo arguments depth chars) ↔ ¬StumblesTo arguments depth chars := by
  induction depth generalizing chars with
  | zero => exact iff_of_true tame_unusable not_false
  | succ depth inductionHypothesis => exact tame_fillPieces_iff inductionHypothesis

/-! ## Messages -/

section Telling

variable {messages : Messages} {key template : String} {arguments : Arguments}

theorem tame_fill_iff [Machine] : Tame (fill template arguments) ↔ ¬Stumbles arguments template := by
  unfold fill
  rw [tame_map_iff]
  exact tame_fillTo_iff template.toList

/-- A template is told, filled or as it stands, exactly when it does not stumble. -/
theorem fillOrKeep_isOk_iff [Machine] :
    (∃ message, fillOrKeep template arguments = .ok message) ↔ ¬Stumbles arguments template := by
  rw [← tame_fill_iff]
  unfold fillOrKeep
  cases fill template arguments with
  | ok message => exact iff_of_true ⟨message, rfl⟩ (tame_ok message)
  | error fault =>
      rw [tame_error_iff]
      cases fault <;> simp

theorem fillOrKeep_of_filled [Machine] {message : String} (filled : fill template arguments = .ok message) :
    fillOrKeep template arguments = .ok message := by
  unfold fillOrKeep
  rw [filled]

theorem fillOrKeep_of_unusable [Machine] (steady : ¬Stumbles arguments template)
    (unfilled : ∀ message, fill template arguments ≠ .ok message) :
    fillOrKeep template arguments = .ok template := by
  cases filled : fill template arguments with
  | ok message => exact absurd filled (unfilled message)
  | error fault =>
      have unusable : fault = .unusable := tame_fill_iff.mpr steady fault filled
      unfold fillOrKeep
      rw [filled, unusable]

/-- Under a key that leads to no text, the key is told.  A text is told as it stands
without arguments.  With arguments something is told exactly when the text does not
stumble over them: the filled text, or the text itself if it cannot be filled. -/
theorem say_returns_iff [Machine] (free : takenName? arguments = none) :
    ((∀ text, valueAt? messages.tree (keyPath key) ≠ some (.text text)) →
      messages.say key arguments = .ok ("[" ++ key ++ "]")) ∧
    ∀ template, valueAt? messages.tree (keyPath key) = some (.text template) →
      (arguments = [] → messages.say key arguments = .ok template) ∧
      (arguments ≠ [] →
        ((∃ message, messages.say key arguments = .ok message) ↔ ¬Stumbles arguments template) ∧
        (∀ message, fill template arguments = .ok message → messages.say key arguments = .ok message) ∧
        (¬Stumbles arguments template → (∀ message, fill template arguments ≠ .ok message) →
          messages.say key arguments = .ok template)) := by
  refine ⟨say_of_untold free, fun template found => ?_⟩
  rw [say_of_template free found]
  refine ⟨?_, fun given => ?_⟩
  · rintro rfl
    rfl
  · have some : ¬arguments.isEmpty = true := fun none => given (List.isEmpty_iff.mp none)
    rw [if_neg some]
    exact ⟨fillOrKeep_isOk_iff, fun message => fillOrKeep_of_filled, fillOrKeep_of_unusable⟩

end Telling

/-! ## Templates that cannot be filled -/

section

attribute [local instance] Machine.usual

/-- Messages with a layout that is filled, and with an item beyond the end of a text. -/
def trickyMessages : Messages where
  tree := [("padded", .text "\x7bcount:\x7bwidth\x7dd\x7d"), ("item", .text "\x7bname[9]\x7d")]

def trickyArguments : Arguments :=
  [("count", .number 7), ("width", .number 4), ("name", .text "Go")]

/-- The layout is filled first, and the template with the item is told as it stands. -/
theorem tricky_messages_told :
    takenName? trickyArguments = none ∧
      trickyMessages.say "padded" trickyArguments = .ok "   7" ∧
      trickyMessages.say "item" trickyArguments = .ok "\x7bname[9]\x7d" ∧
      trickyMessages.say "other.key" trickyArguments = .ok "[other.key]" := by
  have free : takenName? trickyArguments = none := by decide
  have given : trickyArguments ≠ [] := by decide
  have padded : fill "\x7bcount:\x7bwidth\x7dd\x7d" trickyArguments = .ok "   7" := by decide +kernel
  have item : fill "\x7bname[9]\x7d" trickyArguments = .error .unusable := by decide +kernel
  refine ⟨free, ?_, ?_, ?_⟩
  · exact (((@say_returns_iff trickyMessages "padded" _ _ free).2 _ rfl).2 given).2.1 _ padded
  · apply (((@say_returns_iff trickyMessages "item" _ _ free).2 _ rfl).2 given).2.2
    · exact tame_fill_iff.mp (item ▸ tame_unusable)
    · intro message filled
      rw [item] at filled
      cases filled
  · exact (say_returns_iff free).1 nofun

/-- A catalogue with one file, the object of which asks an argument for an item. -/
def itemAsked : Store :=
  ⟨[(⟨.above 0, ["i18n"]⟩, .directory),
    (⟨.above 0, ["i18n", "a.json"]⟩, .file "\x7b\"k\": \"\x7bx[0]\x7d\"\x7d".toUTF8)]⟩

theorem filesIn_itemAsked :
    filesIn itemAsked i18n = ["a.json"] ∧ filesIn itemAsked (localeDirectory i18n english) = [] :=
  ⟨List.mergeSort_singleton _, rfl⟩

theorem objectOf?_itemAsked :
    objectOf? itemAsked i18n "a.json" = some [("k", .text "\x7bx[0]\x7d")] :=
  objectIn?_eq_some.mpr ⟨"\x7b\"k\": \"\x7bx[0]\x7d\"\x7d".toList, by decide +kernel, rfl⟩

/-- A number has no items.  The template is not told as it stands then, although all files
hold objects and no argument has a name that is taken. -/
theorem item_of_number_not_told :
    (∀ directory ∈ directoriesOf i18n english, ∀ name ∈ filesIn itemAsked directory,
      ∃ members, objectOf? itemAsked directory name = some members) ∧
    takenName? [("x", .number 5)] = none ∧
    ∃ messages, (load itemAsked i18n english).value = .ok messages ∧
      valueAt? messages.tree (keyPath "k") = some (.text "\x7bx[0]\x7d") ∧
      messages.say "k" [("x", .number 5)] = .error (.noItems (.number 5)) := by
  rcases filesIn_itemAsked with ⟨shared, behind⟩
  have objects : ∀ directory ∈ directoriesOf i18n english, ∀ name ∈ filesIn itemAsked directory,
      ∃ members, objectOf? itemAsked directory name = some members := by
    rw [forall_mem_directoriesOf, shared, behind]
    simp only [List.forall_mem_singleton, objectOf?_itemAsked]
    simp
  have known : ∀ directory ∈ directoriesOf i18n english,
      ∃ found, itemAsked.isDirectory directory = .ok found :=
    forall_mem_directoriesOf.mpr ⟨⟨⟨true, rfl⟩, false, rfl⟩, fun _ => ⟨false, rfl⟩⟩
  have loadable : ∀ directory ∈ directoriesOf i18n english, Loadable itemAsked directory :=
    fun directory listed => loadable_of_objects (known directory listed) (objects directory listed)
  have tree : localeTree itemAsked i18n english = [("k", .text "\x7bx[0]\x7d")] := by
    rw [localeTree, if_pos rfl, englishTree, treeOf, treeOf, shared, behind, List.filterMap_cons,
      objectOf?_itemAsked]
    rfl
  refine ⟨objects, by decide, _, (load_of_loadable loadable).1, ?_, ?_⟩
  · rw [tree]
    rfl
  · rw [tree, say_of_template rfl rfl]
    decide +kernel

end

end Messages
end GameNight
