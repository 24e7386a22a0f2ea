import GameNight.Messages.Catalogue
import GameNight.Proofs.Messages.Loading
import Mathlib.Data.List.TakeWhile

namespace GameNight
namespace Messages

open Text Number Journal Files Json

/-!
# Messages that are told

The messages of the program can always be told, and those that a locale lacks are told
in English.
-/

/-!
## Messages that can always be told

A field of a template may lead to parts of an argument that it does not have,
or lay it out in a way that it cannot be laid out.  A plain template does
neither: its fields name arguments and ask for conversions at most.  Where an
argument is missing, or a number is too long to be written, the template is
told as it stands, so that a plain template makes a message of any arguments.

All templates that come with the program are plain.
-/

/-! ### Filling plain templates -/

/-- Whether a field names an argument as a whole and leaves its layout alone. -/
def TemplateField.isPlain (field : TemplateField) : Bool :=
  !field.nested && field.layout.isEmpty && field.name.all fun c => !startsStep c

def Piece.isPlain : Piece → Bool
  | .field value => value.isPlain
  | _ => true

def isPlainTemplate (template : String) : Bool :=
  (Piece.ofChars template.toList).all Piece.isPlain

/-- Whether an outcome can only have failed in the way for which a template is
kept as it stands. -/
def Tame {α : Type} (outcome : Except FillFault α) : Prop :=
  ∀ fault, outcome = .error fault → fault = .unusable

@[simp] theorem tame_ok {α : Type} (value : α) : Tame (.ok value) := by
  intro fault failed
  cases failed

theorem tame_unusable {α : Type} : Tame (.error .unusable : Except FillFault α) := by
  intro fault failed
  exact (Except.error.inj failed).symm

@[simp] theorem tame_error_iff {α : Type} {fault : FillFault} :
    Tame (.error fault : Except FillFault α) ↔ fault = .unusable := by
  constructor
  · exact fun tame => tame fault rfl
  · rintro rfl
    exact tame_unusable

@[simp] theorem tame_map_iff {α β : Type} {outcome : Except FillFault α} {next : α → β} :
    Tame (outcome.map next) ↔ Tame outcome := by
  cases outcome with
  | ok value => exact iff_of_true (tame_ok _) (tame_ok _)
  | error fault => exact tame_error_iff.trans tame_error_iff.symm

theorem tame_bind_iff {α β : Type} {outcome : Except FillFault α} {next : α → Except FillFault β} :
    Tame (outcome.bind next) ↔ Tame outcome ∧ ∀ value, outcome = .ok value → Tame (next value) := by
  cases outcome with
  | ok value =>
      refine ⟨fun tame => ⟨tame_ok value, fun other same => ?_⟩, fun both => both.2 value rfl⟩
      cases same
      exact tame
  | error fault =>
      refine ⟨fun tame => ⟨tame_error_iff.mpr (tame_error_iff.mp tame), nofun⟩, fun both => ?_⟩
      exact tame_error_iff.mpr (tame_error_iff.mp both.1)

theorem tame_numberText (whole : Int) : Tame (numberText whole) := by
  unfold numberText
  split
  · exact tame_ok _
  · exact tame_unusable

theorem tame_inscription (value : Argument) : Tame value.inscription := by
  cases value with
  | number whole => exact tame_numberText whole
  | _ => exact tame_ok _

theorem tame_display (value : Argument) : Tame value.display := by
  rw [Argument.display.eq_def]
  split
  · exact tame_ok _
  · exact tame_ok _
  · exact tame_inscription _

theorem tame_convert (value : Argument) (letter : Char) : Tame (value.convert letter) := by
  rw [Argument.convert]
  split
  · exact tame_map_iff.mpr (tame_display value)
  · split
    · exact tame_map_iff.mpr (tame_inscription value)
    · split
      · exact tame_map_iff.mpr (tame_inscription value)
      · exact tame_unusable

/-- A name without steps leads to an argument or to nothing. -/
theorem tame_resolve (arguments : Arguments) {name : List Char}
    (whole : name.all (fun c => !startsStep c) = true) : Tame (resolve arguments name) := by
  have all : name.takeWhile (fun c => !startsStep c) = name :=
    List.takeWhile_eq_self_iff.mpr (List.all_eq_true.mp whole)
  have stays (argument : Argument) (fuel : Nat) : follow argument fuel [] = .ok argument := by
    cases fuel <;> rfl
  simp only [resolve, all, List.drop_length, stays]
  split
  · split
    · exact tame_unusable
    · exact tame_ok _
  · exact tame_unusable

theorem tame_fillField [Machine] {field : TemplateField} (arguments : Arguments)
    (fillLayout : List Char → Except FillFault (List Char)) (plain : field.isPlain = true) :
    Tame (fillField arguments fillLayout field) := by
  rw [TemplateField.isPlain, Bool.and_eq_true, Bool.and_eq_true, Bool.not_eq_true'] at plain
  rcases plain with ⟨⟨flat, bare⟩, whole⟩
  have layOut (value : Argument) : Tame (layOutArgument value field.layout) := by
    rw [layOutArgument.eq_def, if_pos bare]
    exact tame_display value
  have convert (value : Argument) : Tame (field.conversion.elim (.ok value) value.convert) := by
    cases field.conversion with
    | none => exact tame_ok value
    | some letter => exact tame_convert value letter
  rw [fillField]
  cases found : resolve arguments field.name with
  | error fault =>
      rw [tame_resolve arguments whole fault found]
      exact tame_unusable
  | ok argument =>
      cases converted : field.conversion.elim (.ok argument) argument.convert with
      | error fault =>
          simp only [converted, convert argument fault converted]
          exact tame_unusable
      | ok value =>
          simp only [converted, flat, Bool.false_eq_true, if_false]
          exact layOut value

theorem tame_fillPieces [Machine] (arguments : Arguments)
    (fillLayout : List Char → Except FillFault (List Char)) {pieces : List Piece}
    (plain : pieces.all Piece.isPlain = true) : Tame (fillPieces arguments fillLayout pieces) := by
  induction pieces with
  | nil => exact tame_ok []
  | cons piece rest inductionHypothesis =>
      rw [List.all_cons, Bool.and_eq_true] at plain
      have others := inductionHypothesis plain.2
      cases piece with
      | literal c => exact tame_map_iff.mpr others
      | broken => exact tame_unusable
      | field field =>
          have filled : Tame (fillField arguments fillLayout field) :=
            tame_fillField arguments fillLayout plain.1
          rw [fillPieces]
          cases here : fillField arguments fillLayout field with
          | error fault =>
              rw [filled fault here]
              exact tame_unusable
          | ok text => exact tame_map_iff.mpr others

/-- A plain template makes a message of any arguments. -/
theorem fillOrKeep_of_isPlain [Machine] {template : String} (plain : isPlainTemplate template = true)
    (arguments : Arguments) : ∃ message, fillOrKeep template arguments = .ok message := by
  have tame : Tame (fill template arguments) := tame_map_iff.mpr (tame_fillPieces arguments _ plain)
  rw [fillOrKeep]
  cases filled : fill template arguments with
  | ok message => exact ⟨message, rfl⟩
  | error fault =>
      rw [tame fault filled]
      exact ⟨template, rfl⟩

/-! ### The templates of a tree -/

mutual

/-- The texts in a tree, at any depth. -/
def textsIn : Json → List String
  | .text value => [value]
  | .object members => textsInMembers members
  | _ => []

def textsInMembers : List (String × Json) → List String
  | [] => []
  | (_, value) :: rest => textsIn value ++ textsInMembers rest

end

theorem textsIn_subset {members : Json.Members} {name : String} {value : Json}
    (found : Json.member? members name = some value) : textsIn value ⊆ textsInMembers members := by
  induction members with
  | nil => cases found
  | cons held rest inductionHypothesis =>
      rcases held with ⟨other, first⟩
      rw [Json.member?, List.lookup_cons] at found
      rw [textsInMembers]
      split at found
      · rw [Option.some.inj found]
        exact List.subset_append_left _ _
      · exact List.subset_append_of_subset_right _ (inductionHypothesis found)

/-- What a path leads to stands in the tree. -/
theorem mem_textsInMembers {members : Json.Members} {path : List String} {template : String}
    (found : valueAt? members path = some (.text template)) : template ∈ textsInMembers members := by
  induction path generalizing members with
  | nil => cases found
  | cons name rest inductionHypothesis =>
      rw [valueAt?] at found
      cases here : Json.member? members name with
      | none =>
          rw [here] at found
          cases found
      | some value =>
          rw [here] at found
          apply textsIn_subset here
          cases rest with
          | nil =>
              rw [Option.some.inj found]
              exact List.mem_singleton_self template
          | cons next others =>
              cases value with
              | object inside => exact inductionHypothesis found
              | _ => cases found

/-- The journal's messages and those of the console have no name in common. -/
theorem tree_bundled : bundled.tree = journalMessages ++ consoleMessages :=
  rfl

theorem isPlainTemplate_bundled {template : String} (member : template ∈ textsInMembers bundled.tree) :
    isPlainTemplate template = true := by
  have all : ∀ other ∈ textsInMembers bundled.tree, isPlainTemplate other = true := by
    rw [tree_bundled]
    simp only [journalMessages, consoleMessages, List.cons_append, List.nil_append, textsInMembers,
      textsIn, List.append_nil, List.forall_mem_cons, isPlainTemplate, String.toList_append]
    -- The characters of a literal are put in its place, one literal after the other.
    repeat rw [String.toList_ofList]
    decide +kernel
  exact all template member

/-! ### Saying -/

section Saying

variable {messages : Messages} {key : String} {arguments : Arguments}

theorem say_of_template [Machine] {template : String} (free : takenName? arguments = none)
    (found : valueAt? messages.tree (keyPath key) = some (.text template)) :
    messages.say key arguments =
      if arguments.isEmpty then .ok template else fillOrKeep template arguments := by
  have told : messages.template? key = some template := by rw [template?, found]
  rw [say, free, told]

theorem say_of_untold [Machine] (free : takenName? arguments = none)
    (untold : ∀ text, valueAt? messages.tree (keyPath key) ≠ some (.text text)) :
    messages.say key arguments = .ok ("[" ++ key ++ "]") := by
  have missing : messages.template? key = none := by
    rw [template?]
    split
    · rename_i text found
      exact absurd found (untold text)
    · rfl
  rw [say, free, missing]

end Saying

/-- The program has something to say under every key, whatever the arguments, as
long as none of them takes a name that the asking needs for itself. -/
theorem say_bundled [Machine] (key : String) {arguments : Arguments} (free : takenName? arguments = none) :
    ∃ message, bundled.say key arguments = .ok message := by
  by_cases told : ∃ template, valueAt? bundled.tree (keyPath key) = some (.text template)
  · rcases told with ⟨template, found⟩
    rw [say_of_template free found]
    by_cases without : arguments.isEmpty
    · exact ⟨template, if_pos without⟩
    · rw [if_neg without]
      exact fillOrKeep_of_isPlain (isPlainTemplate_bundled (mem_textsInMembers found)) arguments
  · exact ⟨_, say_of_untold free fun template found => told ⟨template, found⟩⟩

/-!
## English behind a locale

A message that the locale does not have is told in English, unless the locale
hides it.  It does so by anything that it has under the key and that is no text,
also by nothing or an object, and by anything but an object under the beginning
of the key: the merged tree then has what the locale has, and the key is shown
in place of the message.
-/

/-- Whether the tree of a locale hides what stands behind it: with something at
the end of a path, or with an obstacle on the way. -/
def Hides (own : Members) (path : List String) : Prop :=
  (∃ value, valueAt? own path = some value) ∨ ∃ front, front <+: path ∧ Obstacle own front

theorem hides_iff (own : Members) (path : List String) :
    Hides own path ↔ (∃ value, valueAt? own path = some value) ∨ blocked own path = true := by
  unfold Hides
  rw [blocked_iff]
  constructor
  · rintro (found | ⟨front, begins, obstacle⟩)
    · exact Or.inl found
    · by_cases whole : front = path
      · rcases obstacle.2 with ⟨value, leads, _⟩
        exact Or.inl ⟨value, whole ▸ leads⟩
      · exact Or.inr ⟨front, begins, whole, obstacle⟩
  · rintro (found | ⟨front, begins, _, obstacle⟩)
    · exact Or.inl found
    · exact Or.inr ⟨front, begins, obstacle⟩

/-- What is not hidden stays. -/
theorem valueAt?_merge_of_not_hides (fallback : Members) {own : Members}
    (distinct : DistinctMembers own) {path : List String} (named : path ≠ [])
    (seen : ¬Hides own path) : valueAt? (merge fallback own) path = valueAt? fallback path := by
  rw [hides_iff] at seen
  rw [valueAt?_merge fallback distinct named]
  cases leads : valueAt? own path with
  | some value => exact absurd (Or.inl ⟨value, leads⟩) seen
  | none =>
      have clear : ¬blocked own path = true := fun stops => seen (Or.inr stops)
      exact if_neg clear

/-- What is hidden gives no text, unless the locale has one. -/
theorem valueAt?_merge_of_hides (fallback : Members) {own : Members}
    (distinct : DistinctMembers own) {path : List String} (named : path ≠ [])
    (untold : ∀ other, valueAt? own path ≠ some (.text other)) (hidden : Hides own path)
    (text : String) : valueAt? (merge fallback own) path ≠ some (.text text) := by
  rw [hides_iff] at hidden
  rw [valueAt?_merge fallback distinct named]
  cases leads : valueAt? own path with
  | some value =>
      rw [leads] at untold
      cases value with
      | text other => exact absurd rfl (untold other)
      | object upper =>
          dsimp only
          rw [overlay_object]
          split <;> intro impossible <;> cases impossible
      | _ =>
          intro impossible
          cases impossible
  | none =>
      rcases hidden with ⟨value, found⟩ | stops
      · rw [leads] at found
        cases found
      · dsimp only
        rw [if_pos stops]
        intro impossible
        cases impossible

theorem keyPath_ne_nil (key : String) : keyPath key ≠ [] := by
  intro nothing
  have pieces : splitOn '.' key.toList = [] := List.map_eq_nil_iff.mp nothing
  exact splitOn_ne_nil '.' key.toList pieces

theorem say_of_text [Machine] {messages : Messages} {key text : String}
    (found : valueAt? messages.tree (keyPath key) = some (.text text)) :
    messages.say key [] = .ok text :=
  say_of_template rfl found

theorem say_of_no_text [Machine] {messages : Messages} {key : String}
    (untold : ∀ text, valueAt? messages.tree (keyPath key) ≠ some (.text text)) :
    messages.say key [] = .ok ("[" ++ key ++ "]") :=
  say_of_untold rfl untold

/-- Where all message files hold objects, a locale is loaded if its directories
can be looked up.  A message that it does not have itself is then told in English
if the locale does not hide it, and by its key otherwise. -/
theorem say_of_fallback [Machine] {store : Store} {root : Path} {locale : String}
    (objects : ∀ directory ∈ directoriesOf root locale, ∀ name ∈ filesIn store directory,
      ∃ members, objectOf? store directory name = some members) :
    ((∃ messages, (load store root locale).value = .ok messages) ↔
      ∀ directory ∈ directoriesOf root locale, ∃ found, store.isDirectory directory = .ok found) ∧
    ∀ messages, (load store root locale).value = .ok messages →
      ∃ fallback own, (loadEnglish store root).value = .ok fallback ∧
        (readDirectory store (localeDirectory root locale)).value = .ok own ∧
        ∀ key text, valueAt? fallback (keyPath key) = some (.text text) →
          (∀ other, valueAt? own (keyPath key) ≠ some (.text other)) →
            (¬Hides own (keyPath key) → messages.say key [] = .ok text) ∧
            (Hides own (keyPath key) → messages.say key [] = .ok ("[" ++ key ++ "]")) := by
  refine ⟨?_, ?_⟩
  · rw [load_returns_iff]
    refine forall₂_congr fun directory listed => ⟨Loadable.known, fun known => ?_⟩
    exact loadable_of_objects known (objects directory listed)
  · intro messages loaded
    have loadable := (load_returns_iff store root locale).mp ⟨messages, loaded⟩
    rw [(load_of_loadable loadable).1] at loaded
    cases loaded
    rcases forall_mem_directoriesOf.mp loadable with ⟨⟨shared, behind⟩, other⟩
    have own : Loadable store (localeDirectory root locale) := by
      by_cases same : locale = english
      · exact same ▸ behind
      · exact other same
    have distinct := distinctMembers_treeOf store (localeDirectory root locale)
    refine ⟨_, _, (loadEnglish_of_loadable shared behind).1, (readDirectory_of_loadable own).1, ?_⟩
    intro key text found untold
    have named := keyPath_ne_nil key
    by_cases same : locale = english
    · -- the tree of the locale is part of the English one, where the text is seen
      have tree : localeTree store root locale = englishTree store root := if_pos same
      refine ⟨fun _ => say_of_text (tree ▸ found), fun hidden => ?_⟩
      subst same
      exact absurd found (valueAt?_merge_of_hides _ distinct named untold hidden text)
    · have tree : localeTree store root locale =
          merge (englishTree store root) (treeOf store (localeDirectory root locale)) := if_neg same
      refine ⟨fun seen => say_of_text ?_, fun hidden => say_of_no_text fun told => ?_⟩
      · rw [tree, valueAt?_merge_of_not_hides _ distinct named seen]
        exact found
      · rw [tree]
        exact valueAt?_merge_of_hides _ distinct named untold hidden told

/-! ### One message and a second locale -/

/-- A catalogue with an English message and a file for a second locale. -/
def bilingual (own : String) : Store :=
  ⟨[(⟨.above 0, ["i18n"]⟩, .directory),
    (⟨.above 0, ["i18n", "en"]⟩, .directory),
    (⟨.above 0, ["i18n", "en", "a.json"]⟩,
      .file "\x7b\"cli\": \x7b\"bye\": \"Bye\"\x7d\x7d".toUTF8),
    (⟨.above 0, ["i18n", "de"]⟩, .directory),
    (⟨.above 0, ["i18n", "de", "a.json"]⟩, .file own.toUTF8)]⟩

def i18n : Path := ⟨.working, ["i18n"]⟩

theorem filesIn_bilingual (own : String) :
    filesIn (bilingual own) i18n = [] ∧
      filesIn (bilingual own) (localeDirectory i18n english) = ["a.json"] ∧
      filesIn (bilingual own) (localeDirectory i18n "de") = ["a.json"] := by
  have sorted : ["a.json"].mergeSort (fun a b : String => decide (a ≤ b)) = ["a.json"] :=
    List.mergeSort_singleton _
  exact ⟨List.mergeSort_nil, sorted, sorted⟩

section

attribute [local instance] Machine.usual

theorem objectOf?_bilingual_english (own : String) :
    objectOf? (bilingual own) (localeDirectory i18n english) "a.json" =
      some [("cli", .object [("bye", .text "Bye")])] :=
  objectIn?_eq_some.mpr
    ⟨"\x7b\"cli\": \x7b\"bye\": \"Bye\"\x7d\x7d".toList, by decide +kernel, rfl⟩

theorem objectOf?_bilingual_own {own : String} {members : Members}
    (held : Holds own.toUTF8 (.object members)) :
    objectOf? (bilingual own) (localeDirectory i18n "de") "a.json" = some members :=
  objectIn?_eq_some.mpr held

theorem objects_bilingual {own : String} {members : Members}
    (held : Holds own.toUTF8 (.object members)) :
    ∀ directory ∈ directoriesOf i18n "de", ∀ name ∈ filesIn (bilingual own) directory,
      ∃ members, objectOf? (bilingual own) directory name = some members := by
  rcases filesIn_bilingual own with ⟨shared, behind, other⟩
  rw [forall_mem_directoriesOf, shared, behind, other]
  simp only [List.forall_mem_singleton, objectOf?_bilingual_english, objectOf?_bilingual_own held]
  simp

theorem treeOf_bilingual {own : String} {members : Members}
    (held : Holds own.toUTF8 (.object members)) :
    englishTree (bilingual own) i18n = [("cli", .object [("bye", .text "Bye")])] ∧
      treeOf (bilingual own) (localeDirectory i18n "de") = merge [] members := by
  rcases filesIn_bilingual own with ⟨shared, behind, other⟩
  refine ⟨?_, ?_⟩
  · rw [englishTree, treeOf, treeOf, shared, behind, List.filterMap_cons,
      objectOf?_bilingual_english]
    rfl
  · rw [treeOf, other, List.filterMap_cons, objectOf?_bilingual_own held]
    rfl

theorem loadable_bilingual {own : String} {members : Members}
    (held : Holds own.toUTF8 (.object members)) :
    ∀ directory ∈ directoriesOf i18n "de", Loadable (bilingual own) directory := by
  have known : ∀ directory ∈ directoriesOf i18n "de",
      ∃ found, (bilingual own).isDirectory directory = .ok found :=
    forall_mem_directoriesOf.mpr ⟨⟨⟨true, rfl⟩, true, rfl⟩, fun _ => ⟨true, rfl⟩⟩
  intro directory listed
  exact loadable_of_objects (known directory listed) (objects_bilingual held directory listed)

/-- A locale that leaves the message out lets it be told in English. -/
theorem say_of_left_out :
    ∃ messages, (load (bilingual "\x7b\"cli\": \x7b\x7d\x7d") i18n "de").value = .ok messages ∧
      messages.say "cli.bye" [] = .ok "Bye" := by
  have held : Holds "\x7b\"cli\": \x7b\x7d\x7d".toUTF8 (.object [("cli", .object [])]) :=
    ⟨"\x7b\"cli\": \x7b\x7d\x7d".toList, by decide +kernel, rfl⟩
  have loadable := loadable_bilingual held
  rcases forall_mem_directoriesOf.mp loadable with ⟨⟨shared, behind⟩, other⟩
  rcases treeOf_bilingual held with ⟨englishIs, ownIs⟩
  rcases say_of_fallback (objects_bilingual held) with ⟨returns, told⟩
  rcases returns.mpr fun directory listed => (loadable directory listed).known with
    ⟨messages, loaded⟩
  rcases told messages loaded with ⟨fallback, own, english, ownRead, spoken⟩
  rw [(loadEnglish_of_loadable shared behind).1, englishIs] at english
  rw [(readDirectory_of_loadable (other (by decide))).1, ownIs] at ownRead
  cases english
  cases ownRead
  have seen : ¬Hides (merge [] [("cli", .object [])]) (keyPath "cli.bye") := by
    rw [hides_iff]
    rintro (⟨value, found⟩ | stops)
    · cases found
    · cases stops
  exact ⟨messages, loaded, (spoken "cli.bye" "Bye" rfl nofun).1 seen⟩

/-- A locale that has nothing in place of the messages hides them, although all
files hold objects. -/
theorem say_of_nothing :
    ∃ fallback own messages,
      (∀ directory ∈ directoriesOf i18n "de",
        ∀ name ∈ filesIn (bilingual "\x7b\"cli\": null\x7d") directory,
          ∃ members, objectOf? (bilingual "\x7b\"cli\": null\x7d") directory name = some members) ∧
      (loadEnglish (bilingual "\x7b\"cli\": null\x7d") i18n).value = .ok fallback ∧
      (readDirectory (bilingual "\x7b\"cli\": null\x7d") (localeDirectory i18n "de")).value =
        .ok own ∧
      (load (bilingual "\x7b\"cli\": null\x7d") i18n "de").value = .ok messages ∧
      valueAt? fallback (keyPath "cli.bye") = some (.text "Bye") ∧
      (∀ other, valueAt? own (keyPath "cli.bye") ≠ some (.text other)) ∧
      messages.say "cli.bye" [] = .ok "[cli.bye]" := by
  have held : Holds "\x7b\"cli\": null\x7d".toUTF8 (.object [("cli", .null)]) :=
    ⟨"\x7b\"cli\": null\x7d".toList, by decide +kernel, rfl⟩
  have loadable := loadable_bilingual held
  rcases forall_mem_directoriesOf.mp loadable with ⟨⟨shared, behind⟩, other⟩
  rcases treeOf_bilingual held with ⟨englishIs, ownIs⟩
  refine ⟨_, _, _, objects_bilingual held, (loadEnglish_of_loadable shared behind).1,
    (readDirectory_of_loadable (other (by decide))).1, (load_of_loadable loadable).1, ?_, ?_, ?_⟩
  · rw [englishIs]
    rfl
  · rw [ownIs]
    nofun
  · have tree : localeTree (bilingual "\x7b\"cli\": null\x7d") i18n "de" = [("cli", .null)] := by
      rw [localeTree, if_neg (by decide), englishIs, ownIs]
      rfl
    rw [tree]
    rfl

end

end Messages
end GameNight
