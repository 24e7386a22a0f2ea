import GameNight.Proofs.Messages.Fallback
import GameNight.Proofs.Number.Range
import GameNight.Proofs.Text.Words

namespace GameNight
namespace Messages

open Text Number

/-!
# Arguments that cannot be filled in

Filling a field fails because a step leads astray or because a value does not fit the
layout that is asked for.
-/

/-!
## Steps from a value to its parts and items

Behind the word that names an argument, the name of a field may go on with steps.  A
point and a word lead to a part, and a mark between brackets leads to an item.  A value
that does not have the part, or whose sort has no items under such marks, leads astray:
filling then fails with a fault that is passed on.  A text or a row that is merely too
short for a number does not, and neither do steps that are spelled wrongly.
-/

/-- A step of a name: to the part of a name, or to the item under a mark. -/
inductive Step where
  | part (name : List Char)
  | item (mark : List Char)

namespace Step

def chars : Step → List Char
  | .part name => '.' :: name
  | .item mark => '[' :: (mark ++ [']'])

/-- Whether a step is spelled correctly in front of other characters.  The word of a part
ends only where another step starts. -/
def StandsBefore : Step → List Char → Prop
  | .part name, rest =>
    name ≠ [] ∧ (∀ c ∈ name, startsStep c = false) ∧ ∀ c ∈ rest.head?, startsStep c = true
  | .item mark, _ => mark ≠ [] ∧ ']' ∉ mark

end Step

namespace Argument

/-- Take one step from a value. -/
def take (value : Argument) : Step → Except FillFault Argument
  | .part name => value.part (String.ofList name)
  | .item mark => value.item mark

/-- Whether a value has items under marks like this one, so that it is only a matter of
the mark whether there is one. -/
def TakesMark : Argument → Mark → Prop
  | .text _, .number _ => True
  | .kinds _, .number _ => True
  | .marks _, .number _ => True
  | .emptyTable, _ => True
  | .overview _, _ => True
  | .kind known, _ => known.takesMarks = true
  | _, _ => False

/-- Whether a value does not have the part that a step asks for, or no items under marks
like that of the step. -/
def Refuses (value : Argument) : Step → Prop
  | .part name => ∀ reached, value.part (String.ofList name) ≠ .ok reached
  | .item mark => ∃ known, Mark.read mark = .ok known ∧ ¬value.TakesMark known

end Argument

/-- Whether one of the steps at the beginning of some characters leads astray. -/
inductive Astray : Argument → List Char → Prop
  | here {value : Argument} {step : Step} {rest : List Char} (stands : step.StandsBefore rest)
      (refused : value.Refuses step) : Astray value (step.chars ++ rest)
  | later {value reached : Argument} {step : Step} {rest : List Char} (stands : step.StandsBefore rest)
      (taken : value.take step = .ok reached) (further : Astray reached rest) :
      Astray value (step.chars ++ rest)

/-! ### Single steps -/

namespace Argument

/-- A part that is not there is a fault that is passed on. -/
theorem ask_ne_unusable (value : Argument) (ability : Ability) : value.ask ability ≠ .error .unusable := by
  unfold ask
  split
  · split
    · nofun
    · unfold untold
      split <;> nofun
  · nofun

theorem ownPart_ne_unusable (value : Argument) (name : String) : value.ownPart name ≠ .error .unusable := by
  unfold ownPart
  split
  · exact ask_ne_unusable value _
  · nofun

theorem kindPart_ne_unusable (kind : Kind) (name : String) : kind.part name ≠ .error .unusable := by
  unfold Kind.part
  split
  · split
    · exact ask_ne_unusable _ _
    · nofun
  · nofun
  · exact ownPart_ne_unusable _ _

theorem part_ne_unusable (value : Argument) (name : String) : value.part name ≠ .error .unusable := by
  unfold part
  split
  · exact kindPart_ne_unusable _ name
  · split
    · exact ownPart_ne_unusable _ name
    · exact kindPart_ne_unusable _ name
  · exact ownPart_ne_unusable value name

theorem tame_itemAt {α : Type} (item : α → Argument) (items : List α) (place : Nat) :
    Tame (itemAt item items place) := by
  unfold itemAt
  split
  · exact tame_ok _
  · exact tame_unusable

theorem tame_overviewItem (shown : Kind) (mark : Mark) : Tame (overviewItem shown mark) := by
  cases mark with
  | number place => exact tame_unusable
  | word spelled =>
      unfold overviewItem
      dsimp only
      split
      · exact tame_ok _
      · exact tame_unusable

theorem tame_itemUnder_iff {value : Argument} {mark : Mark} :
    Tame (value.itemUnder mark) ↔ value.TakesMark mark := by
  cases value with
  | text held =>
      cases mark with
      | number place => exact iff_of_true (tame_itemAt _ _ place) trivial
      | word spelled => simp [itemUnder, TakesMark]
  | kinds row =>
      cases mark with
      | number place => exact iff_of_true (tame_itemAt _ _ place) trivial
      | word spelled => simp [itemUnder, TakesMark]
  | marks row =>
      cases mark with
      | number place => exact iff_of_true (tame_itemAt _ _ place) trivial
      | word spelled => simp [itemUnder, TakesMark]
  | emptyTable => exact iff_of_true tame_unusable trivial
  | overview shown => exact iff_of_true (tame_overviewItem shown mark) trivial
  | kind known =>
      rw [itemUnder, TakesMark]
      split <;> simp [*]
  | _ => simp [itemUnder, TakesMark]

theorem tame_markedNumber (value : Nat) (chars : List Char) : Tame (markedNumber value chars) := by
  induction chars generalizing value with
  | nil => exact tame_ok _
  | cons c rest inductionHypothesis =>
      unfold markedNumber
      split
      · exact tame_ok _
      · split
        · exact tame_unusable
        · exact inductionHypothesis _

theorem tame_item_iff {value : Argument} {mark : List Char} :
    Tame (value.item mark) ↔ ∀ known, Mark.read mark = .ok known → value.TakesMark known := by
  have reading : Tame (Mark.read mark) := tame_map_iff.mpr (tame_markedNumber 0 mark)
  unfold item
  simp only [tame_bind_iff, reading, true_and, tame_itemUnder_iff]

/-- A step fails in a way that is passed on exactly when the value refuses it. -/
theorem tame_take_iff {value : Argument} {step : Step} : Tame (value.take step) ↔ ¬value.Refuses step := by
  cases step with
  | part name =>
      rw [take, Refuses]
      cases asked : value.part (String.ofList name) with
      | ok reached => simp
      | error fault =>
          have passedOn : fault ≠ .unusable := by
            rintro rfl
            exact part_ne_unusable value _ asked
          simp [passedOn]
  | item mark =>
      rw [take, Refuses, tame_item_iff]
      simp

end Argument

/-! ### Following all steps -/

theorem Step.length_chars_pos (step : Step) : 0 < step.chars.length := by
  cases step with
  | part name => exact Nat.succ_pos _
  | item mark => exact Nat.succ_pos _

/-- A step that is spelled correctly is taken, and the rest is followed from there. -/
theorem follow_step {step : Step} {rest : List Char} (stands : step.StandsBefore rest) (value : Argument)
    (fuel : Nat) :
    follow value (fuel + 1) (step.chars ++ rest) =
      (value.take step).bind fun reached => follow reached fuel rest := by
  cases step with
  | part name =>
      rcases stands with ⟨filled, word, ends⟩
      have run : (name ++ rest).takeWhile (fun c => !startsStep c) = name :=
        takeWhile_of_run (fun c member => by rw [word c member]; rfl) fun c first => by rw [ends c first]; rfl
      have some : name.isEmpty = false := List.isEmpty_eq_false_iff.mpr filled
      rw [Step.chars, List.cons_append, follow, Argument.take]
      simp only [if_true, run, some, Bool.false_eq_true, if_false, List.drop_left]
      cases value.part (String.ofList name) <;> rfl
  | item mark =>
      rcases stands with ⟨filled, closed⟩
      have inside : ∀ c ∈ mark, (c != ']') = true := by
        intro c member
        rw [bne_iff_ne]
        rintro rfl
        exact closed member
      have run : (mark ++ ']' :: rest).takeWhile (· != ']') = mark :=
        takeWhile_of_run inside fun c first => by cases first; rfl
      have opening : '[' ≠ '.' := by decide
      rcases List.exists_cons_of_ne_nil filled with ⟨first, others, same⟩
      rw [Step.chars, List.cons_append, List.append_assoc, List.singleton_append, follow, Argument.take]
      simp only [opening, if_false, if_true, run, List.drop_left]
      subst same
      cases value.item (first :: others) <;> rfl

/-- What can be followed begins with a step that is spelled correctly. -/
theorem exists_step {value : Argument} {fuel : Nat} {chars : List Char} (filled : chars ≠ [])
    (followed : follow value (fuel + 1) chars ≠ .error .unusable) :
    ∃ step rest, chars = Step.chars step ++ rest ∧ step.StandsBefore rest := by
  rcases List.exists_cons_of_ne_nil filled with ⟨c, behind, rfl⟩
  by_cases point : c = '.'
  · subst point
    rcases exists_run (fun c => !startsStep c) behind with ⟨name, rest, rfl, word, ends⟩
    have run := takeWhile_of_run word ends
    refine ⟨.part name, rest, rfl, ?_, fun c member => ?_, fun c first => ?_⟩
    · rintro rfl
      apply followed
      simp only [follow, if_true, run, List.isEmpty_nil]
    · simpa using word c member
    · simpa using ends c first
  · by_cases bracket : c = '['
    · subst bracket
      rcases exists_run (· != ']') behind with ⟨mark, after, rfl, inside, ends⟩
      have run := takeWhile_of_run inside ends
      cases after with
      | nil =>
          exfalso
          apply followed
          simp only [follow, point, if_false, if_true, run, List.drop_left]
          cases mark <;> rfl
      | cons closing rest =>
          have closes : closing = ']' := by simpa using ends closing rfl
          subst closes
          refine ⟨.item mark, rest, ?_, ?_, fun member => ?_⟩
          · rw [Step.chars, List.cons_append, List.append_assoc, List.singleton_append]
          · rintro rfl
            apply followed
            simp only [follow, point, if_false, if_true, run]
          · simpa using inside ']' member
    · exfalso
      apply followed
      simp [follow, point, bracket]

/-- Following the steps of a name fails in a way that is passed on exactly when one of
them leads astray. -/
theorem tame_follow_iff {value : Argument} {fuel : Nat} {chars : List Char} (enough : chars.length ≤ fuel) :
    Tame (follow value fuel chars) ↔ ¬Astray value chars := by
  constructor
  · intro tame astray
    induction astray generalizing fuel with
    | @here value step rest stands refused =>
        have some := step.length_chars_pos
        rw [List.length_append] at enough
        rcases Nat.exists_eq_succ_of_ne_zero (n := fuel) (by omega) with ⟨fuel, rfl⟩
        rw [follow_step stands] at tame
        exact Argument.tame_take_iff.mp (tame_bind_iff.mp tame).1 refused
    | @later value reached step rest stands taken further inductionHypothesis =>
        have some := step.length_chars_pos
        rw [List.length_append] at enough
        rcases Nat.exists_eq_succ_of_ne_zero (n := fuel) (by omega) with ⟨fuel, rfl⟩
        rw [follow_step stands, taken] at tame
        exact inductionHypothesis (by omega) tame
  · intro straight
    induction fuel generalizing value chars with
    | zero => exact tame_ok value
    | succ fuel inductionHypothesis =>
        by_cases nothing : chars = []
        · subst nothing
          exact tame_ok value
        · by_cases unusable : follow value (fuel + 1) chars = .error .unusable
          · rw [unusable]
            exact tame_unusable
          · rcases exists_step nothing unusable with ⟨step, rest, rfl, stands⟩
            have some := step.length_chars_pos
            rw [List.length_append] at enough
            have accepted : ¬value.Refuses step := fun refused => straight (.here stands refused)
            rw [follow_step stands]
            refine tame_bind_iff.mpr ⟨Argument.tame_take_iff.mpr accepted, fun reached taken => ?_⟩
            exact inductionHypothesis (by omega) fun further => straight (.later stands taken further)

/-!
## Values that do not fit a layout

A layout that cannot be read, or that asks a text or a number for what texts or numbers
are not laid out with, leaves the template as it stands.  There are four ways in which
laying out fails otherwise: the value is no text and no number, the number is too large
for a double, it is no character, or there is no room for the width of the layout.

The width counts last.  So it is left away here to say what a layout does apart from it.
-/

namespace Layout

/-- A layout without its width. -/
def narrow (layout : Layout) : Layout :=
  { layout with width := 0 }

@[simp] theorem narrow_width (layout : Layout) : layout.narrow.width = 0 := rfl

@[simp] theorem narrow_kind (layout : Layout) : layout.narrow.kind = layout.kind := rfl

@[simp] theorem narrow_precision (layout : Layout) : layout.narrow.precision = layout.precision := rfl

@[simp] theorem narrow_unsignedZero (layout : Layout) : layout.narrow.unsignedZero = layout.unsignedZero := rfl

@[simp] theorem narrow_sign (layout : Layout) : layout.narrow.sign = layout.sign := rfl

@[simp] theorem narrow_alternate (layout : Layout) : layout.narrow.alternate = layout.alternate := rfl

@[simp] theorem narrow_group (layout : Layout) : layout.narrow.group = layout.group := rfl

/-- Whether a layout asks for the character that a number stands for, and for nothing that
characters are not laid out with. -/
structure AsksForCharacter (layout : Layout) : Prop where
  kind : layout.kind = some 'c'
  precision : layout.precision = none
  unsignedZero : layout.unsignedZero = false
  sign : layout.sign = none
  alternate : layout.alternate = false
  group : layout.group = none

end Layout

/-- The number that a value is laid out as. -/
def Argument.laidOutAs? : Argument → Option Int
  | .number whole => some whole
  | .truth holds => some (if holds then 1 else 0)
  | _ => none

/-- Whether laying out a value fails in a way that is passed on. -/
inductive Unfit [Machine] : Argument → List Char → Prop
  | sort {value : Argument} {chars : List Char} (asked : chars ≠ []) (noText : ∀ text, value ≠ .text text)
      (noNumber : value.laidOutAs? = none) : Unfit value chars
  | large {value : Argument} {chars : List Char} {layout : Layout} {number : Int}
      (read : Layout.read? chars = some layout) (counted : value.laidOutAs? = some number)
      (measured : layout.kind.getD 'd' ∈ measuredKinds) (tooLarge : tooLargeFrom ≤ number.natAbs) :
      Unfit value chars
  | character {value : Argument} {chars : List Char} {layout : Layout} {number : Int}
      (read : Layout.read? chars = some layout) (counted : value.laidOutAs? = some number)
      (asked : layout.AsksForCharacter) (outside : number < 0 ∨ 0x110000 ≤ number) : Unfit value chars
  | room {value : Argument} {chars : List Char} {layout : Layout} {number : Int}
      (read : Layout.read? chars = some layout) (counted : value.laidOutAs? = some number)
      (wide : Machine.room ≤ layout.width) (otherwise : ∃ laidOut, layout.narrow.applyNumber number = .ok laidOut) :
      Unfit value chars
  | roomForText {text : String} {chars : List Char} {layout : Layout}
      (read : Layout.read? chars = some layout) (wide : Machine.room ≤ layout.width)
      (otherwise : ∃ laidOut, layout.narrow.applyText text = .ok laidOut) : Unfit (.text text) chars

namespace Layout

/-! ### The width -/

/-- What laying out gives with the width and without it: the same fault, or a text, for
which there may be no room with the width. -/
inductive SameButRoom [Machine] (layout : Layout) : Except FillFault String → Except FillFault String → Prop
  | fault (fault : FillFault) : SameButRoom layout (.error fault) (.error fault)
  | placed (chars others : Unit → List Char) :
      SameButRoom layout (layout.placed chars) (layout.narrow.placed others)

theorem narrow_placed [Machine] (layout : Layout) (chars : Unit → List Char) :
    layout.narrow.placed chars = .ok (String.ofList (chars ())) := by
  have small : ¬Machine.room ≤ 0 := Nat.not_le_of_lt Machine.room_pos
  rw [placed, narrow_width, if_neg small]

theorem tame_placed_iff [Machine] {layout : Layout} {chars : Unit → List Char} :
    Tame (layout.placed chars) ↔ ¬Machine.room ≤ layout.width := by
  unfold placed
  split <;> simp [*]

namespace SameButRoom

variable {layout : Layout} {outcome other : Except FillFault String}

theorem ite [Machine] {condition : Prop} [Decidable condition] {outcomeElse otherElse : Except FillFault String}
    (yes : condition → layout.SameButRoom outcome other)
    (no : ¬condition → layout.SameButRoom outcomeElse otherElse) :
    layout.SameButRoom (if condition then outcome else outcomeElse) (if condition then other else otherElse) := by
  by_cases holds : condition
  · rw [if_pos holds, if_pos holds]
    exact yes holds
  · rw [if_neg holds, if_neg holds]
    exact no holds

/-- Laying out fails in a way that is passed on if it does so without the width, or if it
only fails for want of room. -/
theorem tame_iff [Machine] (same : layout.SameButRoom outcome other) :
    Tame outcome ↔ Tame other ∧ ¬(Machine.room ≤ layout.width ∧ ∃ laidOut, other = .ok laidOut) := by
  cases same with
  | fault fault => simp
  | placed chars others => simp [tame_placed_iff, narrow_placed]

end SameButRoom

theorem sameButRoom_applyText [Machine] (layout : Layout) (text : String) :
    layout.SameButRoom (layout.applyText text) (layout.narrow.applyText text) :=
  .ite (fun _ => .fault _) fun _ => .placed _ _

theorem sameButRoom_applyCharacter [Machine] (layout : Layout) (number : Int) :
    layout.SameButRoom (layout.applyCharacter number) (layout.narrow.applyCharacter number) :=
  .ite (fun _ => .fault _) fun _ => .ite (fun _ => .fault _) fun _ => .ite (fun _ => .fault _) fun _ =>
    .placed _ _

theorem sameButRoom_applyWhole [Machine] (layout : Layout) (kind : Char) (number : Int) :
    layout.SameButRoom (layout.applyWhole kind number) (layout.narrow.applyWhole kind number) := by
  refine .ite (fun _ => .fault _) fun _ => .ite (fun _ => sameButRoom_applyCharacter layout number) fun _ =>
    .ite (fun _ => .placed _ _) fun _ => ?_
  cases writeInteger number with
  | ok digits => exact .placed _ _
  | error fault => exact .fault _

theorem sameButRoom_applyDouble [Machine] (layout : Layout) (kind : Char) (value : Double) :
    layout.SameButRoom (layout.applyDouble kind value) (layout.narrow.applyDouble kind value) := by
  unfold applyDouble
  cases value with
  | nan => exact .fault _
  | infinite negative => exact .placed _ _
  | finite negative units bounded => exact .placed _ _

theorem sameButRoom_applyMeasured [Machine] (layout : Layout) (kind : Char) (number : Int) :
    layout.SameButRoom (layout.applyMeasured kind number) (layout.narrow.applyMeasured kind number) := by
  unfold applyMeasured
  cases Double.ofInteger? number with
  | none => exact .fault _
  | some held => exact .ite (fun _ => .fault _) fun _ => sameButRoom_applyDouble layout kind _

theorem sameButRoom_applyNumber [Machine] (layout : Layout) (number : Int) :
    layout.SameButRoom (layout.applyNumber number) (layout.narrow.applyNumber number) :=
  .ite (fun _ => sameButRoom_applyWhole layout _ number) fun _ =>
    .ite (fun _ => sameButRoom_applyMeasured layout _ number) fun _ => .fault _

/-! ### Laying out with enough room -/

section Roomy

variable {layout : Layout} {number : Int}

theorem tame_placed_narrow [Machine] (layout : Layout) (chars : Unit → List Char) : Tame (layout.narrow.placed chars) := by
  rw [narrow_placed]
  exact tame_ok _

theorem tame_narrow_applyText [Machine] (layout : Layout) (text : String) : Tame (layout.narrow.applyText text) := by
  unfold applyText
  split
  · exact tame_unusable
  · exact tame_placed_narrow layout _

theorem tame_narrow_applyDouble [Machine] (layout : Layout) (kind : Char) (value : Double) :
    Tame (layout.narrow.applyDouble kind value) := by
  unfold applyDouble
  cases value with
  | nan => exact tame_unusable
  | infinite negative => exact tame_placed_narrow layout _
  | finite negative units bounded => exact tame_placed_narrow layout _

/-- Only a number that is too large for a double cannot be measured. -/
theorem tame_narrow_applyMeasured_iff [Machine] {kind : Char} :
    Tame (layout.narrow.applyMeasured kind number) ↔ ¬tooLargeFrom ≤ number.natAbs := by
  rw [← Double.ofInteger?_eq_none]
  unfold applyMeasured
  cases Double.ofInteger? number with
  | none => simp
  | some held =>
      simp only [Option.elim_some, reduceCtorEq, not_false_eq_true, iff_true]
      split
      · exact tame_unusable
      · exact tame_narrow_applyDouble layout kind _

/-- Only a number that is no character cannot be laid out as one. -/
theorem tame_narrow_applyCharacter_iff [Machine] (unsigned : layout.sign = none) (plain : layout.alternate = false)
    (ungrouped : layout.group = none) :
    Tame (layout.narrow.applyCharacter number) ↔ ¬(number < 0 ∨ 0x110000 ≤ number) := by
  have limit : (0x110000 : Int) ≤ countLimit := by decide
  unfold applyCharacter
  simp only [narrow_sign, narrow_alternate, narrow_group, unsigned, plain, ungrouped, Option.isSome_none,
    Bool.false_eq_true, or_self, if_false]
  split
  · rename_i far
    exact iff_of_false (by simp) (by omega)
  · split
    · rename_i outside
      exact iff_of_false (by simp) (by omega)
    · rename_i inside
      exact iff_of_true (tame_placed_narrow layout _) inside

theorem tame_narrow_applyCharacter_of_other [Machine]
    (other : layout.sign.isSome ∨ layout.alternate = true ∨ layout.group.isSome) :
    Tame (layout.narrow.applyCharacter number) := by
  unfold applyCharacter
  rw [narrow_sign, narrow_alternate, narrow_group, if_pos other]
  exact tame_unusable

theorem tame_narrow_applyWhole_iff [Machine] :
    Tame (layout.narrow.applyWhole (layout.kind.getD 'd') number) ↔
      ¬(layout.AsksForCharacter ∧ (number < 0 ∨ 0x110000 ≤ number)) := by
  unfold applyWhole
  simp only [narrow_precision, narrow_unsignedZero, narrow_group]
  split
  · rename_i other
    refine iff_of_true tame_unusable ?_
    rintro ⟨asked, _⟩
    simp [asked.precision, asked.unsignedZero, asked.group, groupAllowed] at other
  · rename_i allowed
    simp only [not_or, Bool.not_eq_true, Option.isSome_eq_false_iff, Option.isNone_iff_eq_none] at allowed
    split
    · rename_i letter
      have kind : layout.kind = some 'c' := by
        cases named : layout.kind with
        | none =>
            rw [named] at letter
            exact absurd letter (by decide)
        | some other =>
            rw [named] at letter
            exact congrArg some letter
      by_cases other : layout.sign.isSome ∨ layout.alternate = true ∨ layout.group.isSome
      · refine iff_of_true (tame_narrow_applyCharacter_of_other other) ?_
        rintro ⟨asked, _⟩
        simp [asked.sign, asked.alternate, asked.group] at other
      · simp only [not_or, Bool.not_eq_true, Option.isSome_eq_false_iff, Option.isNone_iff_eq_none] at other
        rcases other with ⟨unsigned, plain, ungrouped⟩
        rw [tame_narrow_applyCharacter_iff unsigned plain ungrouped]
        have asked : layout.AsksForCharacter := ⟨kind, allowed.1, allowed.2.1, unsigned, plain, ungrouped⟩
        simp only [asked, true_and]
    · rename_i otherLetter
      refine iff_of_true ?_ fun asked => otherLetter (by rw [asked.1.kind, Option.getD_some])
      split
      · exact tame_placed_narrow layout _
      · cases writeInteger number with
        | ok digits => exact tame_placed_narrow layout _
        | error fault => exact tame_unusable

theorem tame_narrow_applyNumber_iff [Machine] :
    Tame (layout.narrow.applyNumber number) ↔
      ¬(layout.kind.getD 'd' ∈ measuredKinds ∧ tooLargeFrom ≤ number.natAbs) ∧
        ¬(layout.AsksForCharacter ∧ (number < 0 ∨ 0x110000 ≤ number)) := by
  have apart : measuredKinds.all (fun kind => !wholeKinds.contains kind) = true := by decide
  have character (asked : layout.AsksForCharacter) : layout.kind.getD 'd' ∈ wholeKinds := by
    rw [asked.kind]
    decide
  unfold applyNumber
  simp only [narrow_kind, List.contains_iff_mem]
  by_cases whole : layout.kind.getD 'd' ∈ wholeKinds
  · have unmeasured : layout.kind.getD 'd' ∉ measuredKinds := by
      intro measured
      have other := List.all_eq_true.mp apart _ measured
      simp [whole] at other
    rw [if_pos whole, tame_narrow_applyWhole_iff]
    exact (and_iff_right fun asked => unmeasured asked.1).symm
  · rw [if_neg whole]
    have noCharacter : ¬(layout.AsksForCharacter ∧ (number < 0 ∨ 0x110000 ≤ number)) :=
      fun asked => whole (character asked.1)
    by_cases measured : layout.kind.getD 'd' ∈ measuredKinds
    · rw [if_pos measured, tame_narrow_applyMeasured_iff]
      simp [measured, noCharacter]
    · rw [if_neg measured]
      exact iff_of_true tame_unusable ⟨fun asked => measured asked.1, noCharacter⟩

end Roomy

end Layout

/-! ### Laying out values -/

theorem unfit_text_iff [Machine] {text : String} {chars : List Char} :
    Unfit (.text text) chars ↔
      ∃ layout, Layout.read? chars = some layout ∧ Machine.room ≤ layout.width ∧
        ∃ laidOut, layout.narrow.applyText text = .ok laidOut := by
  constructor
  · rintro (⟨_, noText, _⟩ | ⟨_, counted, _, _⟩ | ⟨_, counted, _, _⟩ | ⟨_, counted, _, _⟩ | ⟨read, wide, otherwise⟩)
    · exact absurd rfl (noText text)
    · cases counted
    · cases counted
    · cases counted
    · exact ⟨_, read, wide, otherwise⟩
  · rintro ⟨layout, read, wide, otherwise⟩
    exact .roomForText read wide otherwise

theorem unfit_number_iff [Machine] {value : Argument} {number : Int} (counted : value.laidOutAs? = some number)
    {chars : List Char} :
    Unfit value chars ↔
      ∃ layout, Layout.read? chars = some layout ∧
        (layout.kind.getD 'd' ∈ measuredKinds ∧ tooLargeFrom ≤ number.natAbs ∨
          layout.AsksForCharacter ∧ (number < 0 ∨ 0x110000 ≤ number) ∨
          Machine.room ≤ layout.width ∧ ∃ laidOut, layout.narrow.applyNumber number = .ok laidOut) := by
  constructor
  · rintro (⟨_, _, noNumber⟩ | ⟨read, also, measured, tooLarge⟩ | ⟨read, also, asked, outside⟩ |
      ⟨read, also, wide, otherwise⟩ | _)
    · cases counted.symm.trans noNumber
    · cases counted.symm.trans also
      exact ⟨_, read, Or.inl ⟨measured, tooLarge⟩⟩
    · cases counted.symm.trans also
      exact ⟨_, read, Or.inr (Or.inl ⟨asked, outside⟩)⟩
    · cases counted.symm.trans also
      exact ⟨_, read, Or.inr (Or.inr ⟨wide, otherwise⟩)⟩
    · cases counted
  · rintro ⟨layout, read, ⟨measured, tooLarge⟩ | ⟨asked, outside⟩ | ⟨wide, otherwise⟩⟩
    · exact .large read counted measured tooLarge
    · exact .character read counted asked outside
    · exact .room read counted wide otherwise

/-- Without a layout every value can be laid out, or the template is kept. -/
theorem not_unfit_nil [Machine] (value : Argument) : ¬Unfit value [] := by
  have facts : ∀ layout, Layout.read? [] = some layout → layout.kind = none ∧ layout.width = 0 := by
    intro layout read
    cases read
    exact ⟨rfl, rfl⟩
  have bounded : ¬Machine.room ≤ 0 := Nat.not_le_of_lt Machine.room_pos
  rintro (⟨asked, _, _⟩ | ⟨read, _, measured, _⟩ | ⟨read, _, asked, _⟩ | ⟨read, _, wide, _⟩ | ⟨read, wide, _⟩)
  · exact asked rfl
  · rw [(facts _ read).1] at measured
    exact absurd measured (by decide)
  · have letter := asked.kind
    rw [(facts _ read).1] at letter
    cases letter
  · rw [(facts _ read).2] at wide
    exact bounded wide
  · rw [(facts _ read).2] at wide
    exact bounded wide

section Asking

variable {chars : List Char}

theorem tame_layOutArgument_of_text [Machine] (asked : chars ≠ []) (text : String) :
    Tame (layOutArgument (.text text) chars) ↔ ¬Unfit (.text text) chars := by
  have filled : chars.isEmpty = false := List.isEmpty_eq_false_iff.mpr asked
  rw [unfit_text_iff, layOutArgument.eq_def, filled, if_neg Bool.false_ne_true]
  cases Layout.read? chars with
  | none => simp
  | some layout =>
      dsimp only
      rw [(layout.sameButRoom_applyText text).tame_iff, and_iff_right (layout.tame_narrow_applyText text)]
      simp

/-- A number is laid out by the layout that is read, if one is. -/
theorem layOutArgument_of_number [Machine] {value : Argument} {number : Int} (counted : value.laidOutAs? = some number)
    (asked : chars ≠ []) :
    layOutArgument value chars = (Layout.read? chars).elim (.error .unusable) fun layout =>
      layout.applyNumber number := by
  have filled : chars.isEmpty = false := List.isEmpty_eq_false_iff.mpr asked
  rw [layOutArgument.eq_def, filled, if_neg Bool.false_ne_true]
  cases value with
  | number whole =>
      cases counted
      cases Layout.read? chars <;> rfl
  | truth holds =>
      cases counted
      cases Layout.read? chars <;> rfl
  | _ => cases counted

theorem tame_layOutArgument_of_number [Machine] {value : Argument} {number : Int}
    (counted : value.laidOutAs? = some number) (asked : chars ≠ []) :
    Tame (layOutArgument value chars) ↔ ¬Unfit value chars := by
  rw [unfit_number_iff counted, layOutArgument_of_number counted asked]
  cases Layout.read? chars with
  | none => simp
  | some layout =>
      rw [Option.elim_some, (layout.sameButRoom_applyNumber number).tame_iff, Layout.tame_narrow_applyNumber_iff]
      simp only [Option.some.injEq, exists_eq_left', not_or, and_assoc]

/-- Laying out a value fails in a way that is passed on exactly when the value does not
fit the layout. -/
theorem tame_layOutArgument_iff [Machine] {value : Argument} : Tame (layOutArgument value chars) ↔ ¬Unfit value chars := by
  by_cases nothing : chars = []
  · subst nothing
    exact iff_of_true (tame_display value) (not_unfit_nil value)
  · cases counted : value.laidOutAs? with
    | some number => exact tame_layOutArgument_of_number counted nothing
    | none =>
        by_cases isText : ∃ text, value = .text text
        · rcases isText with ⟨text, rfl⟩
          exact tame_layOutArgument_of_text nothing text
        · -- a value of any other sort has no layouts
          have noText : ∀ text, value ≠ .text text := fun text same => isText ⟨text, same⟩
          have filled : chars.isEmpty = false := List.isEmpty_eq_false_iff.mpr nothing
          refine iff_of_false ?_ fun fits => fits (.sort nothing noText counted)
          rw [layOutArgument.eq_def, filled, if_neg Bool.false_ne_true]
          cases value with
          | text text => exact absurd rfl (noText text)
          | number whole => cases counted
          | truth holds => cases counted
          | _ => simp

end Asking

end Messages
end GameNight
