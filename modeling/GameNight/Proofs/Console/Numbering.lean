import GameNight.Proofs.Console.Lines
import GameNight.Proofs.Game.Shown
import GameNight.Proofs.Shortlist.Adding
import GameNight.Proofs.Shortlist.Selection

namespace GameNight

open Text Number Journal Files Messages

/-!
# Numbers of the console

The console shows games with numbers, and selections pick games by them.
-/

/-!
## Numbers of a listing

The rows of a listing carry the places of their games in the order of names,
whatever the order of the rows.  The same places are what an addition counts
by, so that a number that has been printed keeps picking the game beside it
for as long as the games that are left stay the same.

Two ties have to be met for this: games with one name in small letters keep
one order wherever they are sorted, since it is one sorting that numbers the
rows and offers the games; and a game is found in that order as itself, since
the games of a planner are told apart.
-/

namespace Console

/-! ### Rows -/

/-- A row of a listing: a number, the game that has it, and the game as it is
shown. -/
structure Row where
  number : Nat
  game : Game
  shown : String

/-- A row as it is printed. -/
def Row.line (row : Row) : String :=
  naturalText row.number ++ ": " ++ row.shown

/-- Games as they are listed: the field that is shown of each, and the rows. -/
structure Listing where
  field : Field
  rows : List Row

/-- A listing as it is printed, with the number of its rows at the head. -/
def Listing.lines [Machine] (listing : Listing) : List String :=
  announce "cli.filter.count" [("count", .number listing.rows.length)] :: listing.rows.map Row.line

/-- The listing of games under the numbers that they have in a list. -/
def listingOf (numbered games : List Game) (field : Field) : Listing :=
  ⟨field, games.map fun game =>
    ⟨Desk.numberOf numbered game, game, (game.display field).toOption.getD ""⟩⟩

/-- Where all games can be shown, the rows are printed without a fault. -/
theorem rows_eq_listingOf {numbered games : List Game} {field : Field}
    (writable : ∀ game ∈ games, game.Writable) :
    Desk.rows numbered field games = ((listingOf numbered games field).rows.map Row.line, none) := by
  induction games with
  | nil => rfl
  | cons game rest inductionHypothesis =>
      rcases (writable game List.mem_cons_self).display field with ⟨text, shown⟩
      have others := inductionHypothesis fun other member => writable other (List.mem_cons_of_mem _ member)
      rw [Desk.rows, shown, others]
      simp only [listingOf, List.map_cons, shown, Except.toOption, Option.getD_some, Row.line]

/-- Games that are told apart are found at their own places. -/
theorem numberOf_getElem {numbered : List Game} (once : EachOnce numbered) {place : Nat}
    (inside : place < numbered.length) : Desk.numberOf numbered numbered[place] = place + 1 := by
  have first : numbered.findIdx (fun other => other.same numbered[place]) = place := by
    rw [List.findIdx_eq inside]
    refine ⟨Game.same_self _, fun earlier before => ?_⟩
    exact List.pairwise_iff_getElem.mp once earlier place (Nat.lt_trans before inside) inside before
  rw [Desk.numberOf, first]

/-- Numbering games by their own places counts them from one. -/
theorem map_numberOf_self {numbered : List Game} (once : EachOnce numbered) :
    numbered.map (Desk.numberOf numbered) = List.range' 1 numbered.length := by
  apply List.ext_getElem (by simp)
  intro place inside _
  rw [List.length_map] at inside
  rw [List.getElem_map, numberOf_getElem once inside, List.getElem_range', Nat.one_mul, Nat.add_comm]

/-- What the rows of a listing have to be: the games that are left, in the order
that was asked for, under the numbers from one on, each once; and these numbers
in rising order where the names rise. -/
structure Listing.Numbers (listing : Listing) (current : List Game) (ascending : Bool) : Prop where
  shown : ∀ row ∈ listing.rows, row.game.display listing.field = .ok row.shown
  games : listing.rows.map Row.game = sortGames current listing.field ascending
  numbers : (listing.rows.map Row.number).Perm (List.range' 1 current.length)
  byName : listing.field = .name → ascending = true →
    listing.rows.map Row.number = List.range' 1 current.length

theorem map_number_listingOf (numbered games : List Game) (field : Field) :
    (listingOf numbered games field).rows.map Row.number = games.map (Desk.numberOf numbered) := by
  rw [listingOf, List.map_map]
  rfl

theorem map_game_listingOf (numbered games : List Game) (field : Field) :
    (listingOf numbered games field).rows.map Row.game = games := by
  rw [listingOf, List.map_map]
  exact List.map_id games

theorem listingOf_numbers {current : List Game} (once : EachOnce current)
    (writable : ∀ game ∈ current, game.Writable) (field : Field) (ascending : Bool) :
    (listingOf (sortByName current) (sortGames current field ascending) field).Numbers current
      ascending := by
  have byName : (sortByName current).map (Desk.numberOf (sortByName current)) =
      List.range' 1 current.length := by
    rw [map_numberOf_self (once.perm (sortByName_perm current).symm), (sortByName_perm current).length_eq]
  constructor
  case shown =>
    intro row member
    rcases List.mem_map.mp member with ⟨game, listed, made⟩
    rcases (writable game ((sortGames_perm _ _ _).mem_iff.mp listed)).display field with
      ⟨text, shown⟩
    rw [← made]
    simp only [listingOf, shown, Except.toOption, Option.getD_some]
  case games => exact map_game_listingOf _ _ _
  case numbers =>
    have alike : (sortGames current field ascending).Perm (sortByName current) :=
      (sortGames_perm current field ascending).trans (sortByName_perm current).symm
    rw [map_number_listingOf, ← byName]
    exact alike.map _
  case byName =>
    intro name upwards
    change field = .name at name
    rw [map_number_listingOf, ← byName, name, upwards, sortByName]

theorem placed_of_mem_rows {current : List Game} (once : EachOnce current) {field : Field}
    {ascending : Bool} {row : Row}
    (member : row ∈ (listingOf (sortByName current) (sortGames current field ascending) field).rows) :
    ∃ place, row.number = place + 1 ∧ (sortByName current)[place]? = some row.game := by
  rcases List.mem_map.mp member with ⟨game, listed, made⟩
  have named : game ∈ sortByName current :=
    (sortByName_perm current).mem_iff.mpr ((sortGames_perm _ _ _).mem_iff.mp listed)
  rcases List.getElem_of_mem named with ⟨place, inside, here⟩
  refine ⟨place, ?_, ?_⟩
  · rw [← made, ← here]
    exact numberOf_getElem (once.perm (sortByName_perm current).symm) inside
  · rw [← made, List.getElem?_eq_getElem inside, here]

/-! ### Adding by number -/

/-- The turn in which a number is added. -/
def Desk.adding [Machine] (desk : Desk) (number : Nat) : Turn :=
  (desk.execute ("add " ++ naturalText number)).value

/-- What the number of a row has to do when it is added: it picks the game of
the row and no other, which joins the shortlist unless its name, in whatever
letters, is held. -/
structure Desk.Adds [Machine] (desk : Desk) (row : Row) : Prop where
  picks : selectGames (some (naturalText row.number)) (sortByName desk.planner.current) = .ok [row.game]
  answered : (desk.adding row.number).fault = none
  frame : ∃ shortlist, (desk.adding row.number).desk = { desk with shortlist }
  gains : (∀ held ∈ desk.shortlist.held, held.sortName ≠ row.game.sortName) →
    (desk.adding row.number).desk.shortlist.held.Perm (row.game :: desk.shortlist.held)
  keeps : (∃ held ∈ desk.shortlist.held, held.sortName = row.game.sortName) →
    (desk.adding row.number).desk = desk

/-- The line that adds a number has the word `add` and the numeral. -/
theorem wordAndArguments_add (number : Nat) :
    Desk.wordAndArguments (trim ("add " ++ naturalText number).toList) = ("add", naturalText number) := by
  have line : ("add " ++ naturalText number).toList = ['a', 'd', 'd', ' '] ++ naturalChars number := by
    simp only [String.toList_append, naturalText, String.toList_ofList]
    rfl
  have trimmed : trim (['a', 'd', 'd', ' '] ++ naturalChars number) =
      ['a', 'd', 'd', ' '] ++ naturalChars number := by
    refine trim_of_ends (fun c first => ?_) (fun c last => ?_)
    · rw [← Option.mem_some.mp first]
      decide
    · rw [List.getLast?_append, List.getLast?_eq_some_getLast (naturalChars_ne_nil number),
        Option.some_or, Option.mem_some] at last
      exact (basicDigit_facts c
        (mem_basicDigits_of_mem_naturalChars (last ▸ List.getLast_mem _))).2.1
  have rest : trim (' ' :: naturalChars number) = naturalChars number := by
    rw [trim_cons_of_isBlank (by decide), trim_naturalChars]
  have word : (['a', 'd', 'd', ' '] ++ naturalChars number).takeWhile (fun c => c != ' ') =
      ['a', 'd', 'd'] := rfl
  rw [line, trimmed, Desk.wordAndArguments, word]
  exact Prod.ext rfl (congrArg String.ofList rest)

theorem Desk.adds_of_placed [Machine] {desk : Desk} {row : Row} {place : Nat}
    (ordered : desk.shortlist.Ordered) (counted : row.number = place + 1)
    (placed : (sortByName desk.planner.current)[place]? = some row.game)
    (written : row.number < tenTo digitLimit) : desk.Adds row := by
  have picks : selectGames (some (naturalText row.number)) (sortByName desk.planner.current) =
      .ok [row.game] := by
    rw [counted] at written ⊢
    exact selectGames_naturalText written placed
  have accepted : (desk.shortlist.add (some (naturalText row.number)) desk.planner.current).value =
      .ok (desk.shortlist.insert row.game) := by
    rw [Shortlist.add, picks]
    rfl
  have given : naturalText row.number ≠ "" := by
    rw [naturalText]
    intro none
    exact naturalChars_ne_nil _ (String.ofList_eq_empty_iff.mp none)
  have word : Command.ofWord? (wordOf ("add " ++ naturalText row.number)) = some .add := by
    rw [wordOf, wordAndArguments_add]
    rfl
  have turn : desk.adding row.number = desk.accept "cli.add.done" (desk.shortlist.insert row.game) := by
    rw [adding, execute_of_command desk word, argumentsOf, wordAndArguments_add, carryOut,
      add_eq_settle desk given, accepted, settle]
  constructor
  case picks => exact picks
  case answered => rw [turn, accept, say]
  case frame => exact ⟨_, by rw [turn, accept, desk_say]⟩
  case gains =>
    intro unnamed
    rw [turn, accept, desk_say]
    exact insertByName_perm unnamed
  case keeps =>
    intro named
    rw [turn, accept, desk_say, Shortlist.insert, insertByName_of_held ordered named]

/-! ### Sessions -/

/-- What the numbers of a session rest on: the games that are left are told apart
and can be written, and the shortlist is in order. -/
structure Desk.Sound (desk : Desk) : Prop where
  once : EachOnce desk.planner.current
  writable : ∀ game ∈ desk.planner.current, game.Writable
  ordered : desk.shortlist.Ordered

theorem Desk.sound_of_session [Machine] {games : List Game} (writable : ∀ game ∈ games, game.Writable)
    (files : Store) (listFile : Json) (lines : List String) :
    ((opened games files listFile).afterLines lines).Sound := by
  have left := (planner_of_session games files listFile lines).2
  exact
    { once := (eachOnce_distinctGames games).sublist left
      writable := fun game member =>
        writable game ((distinctGames_sublist games).subset (left.subset member))
      ordered := ordered_afterLines Shortlist.ordered_empty lines }

/-- How a filter or a sort is answered.  A line that is unclear is told so, one
whose evaluation fails prints nothing, and where no games are left that is
said.  Otherwise the games are listed in the order that was asked for, and
their numbers serve for additions after any further lines that leave the same
games. -/
inductive Answered [Machine] (line : String) (turn : Turn) : Prop
  | unclear (asked : arrangementOf line = none)
      (told : turn.output = printed [turn.desk.helpText "sort"] ∨
        ∃ word, turn.output = (turn.desk.unknownSortField word).output)
  | failed (fault : TooLarge) (ended : turn.fault = some (.tooLarge fault)) (silent : turn.output = "")
  | nothingLeft (empty : turn.desk.planner.current = []) (heading : List String)
      (headed : heading = [] ∨ heading = [announce "cli.filter.reset" []])
      (told : turn.output = printed (heading ++ [announce "cli.filter.no_results" []]))
  | listed (listing : Listing) (ascending : Bool)
      (asked : arrangementOf line = some (listing.field, ascending)) (answered : turn.fault = none)
      (heading : List String) (headed : heading = [] ∨ heading = [announce "cli.filter.reset" []])
      (told : turn.output = printed (heading ++ listing.lines))
      (numbers : listing.Numbers turn.desk.planner.current ascending)
      (serves : ∀ later, (turn.desk.afterLines later).planner.current = turn.desk.planner.current →
        ∀ row ∈ listing.rows, row.number < tenTo digitLimit → (turn.desk.afterLines later).Adds row)

theorem answered_showGames [Machine] {desk : Desk} {line : String} {field : Field} {ascending : Bool}
    {turn : Turn} (heading : List String) (sound : ∀ later, (desk.afterLines later).Sound)
    (asked : arrangementOf line = some (field, ascending))
    (headed : heading = [] ∨ heading = [announce "cli.filter.reset" []]) (kept : turn.desk = desk)
    (ended : turn.fault =
      (desk.showGames (sortGames desk.planner.current field ascending) field).fault)
    (told : turn.output = printed heading ++
      (desk.showGames (sortGames desk.planner.current field ascending) field).output) :
    Answered line turn := by
  by_cases empty : desk.planner.current = []
  · have none : (sortGames desk.planner.current field ascending).isEmpty = true := by
      rw [(sortGames_perm _ _ _).isEmpty_eq, empty, List.isEmpty_nil]
    refine .nothingLeft (by rw [kept]; exact empty) heading headed ?_
    simp only [Desk.showGames, none, if_true, Desk.say] at told
    rw [printed_append, told]
  · have some : (sortGames desk.planner.current field ascending).isEmpty = false := by
      rw [(sortGames_perm _ _ _).isEmpty_eq, List.isEmpty_eq_false_iff]
      exact empty
    have here : desk.Sound := sound []
    have writable : ∀ game ∈ sortGames desk.planner.current field ascending, game.Writable :=
      fun game member => here.writable game ((sortGames_perm _ _ _).mem_iff.mp member)
    simp only [Desk.showGames, some, Bool.false_eq_true, if_false, rows_eq_listingOf writable,
      Option.map_none] at ended told
    refine .listed (listingOf (sortByName desk.planner.current)
      (sortGames desk.planner.current field ascending) field) ascending asked ended heading headed ?_ ?_ ?_
    · rw [printed_append, told, Listing.lines, listingOf, List.length_map]
    · rw [kept]
      exact listingOf_numbers here.once here.writable field ascending
    · rw [kept]
      intro later same row member written
      rcases placed_of_mem_rows here.once member with ⟨place, counted, placed⟩
      rw [← same] at placed
      exact Desk.adds_of_placed (sound later).ordered counted placed written

/-- The same without a heading. -/
theorem answered_showGames_bare [Machine] {desk : Desk} {line : String} {field : Field} {ascending : Bool}
    (sound : ∀ later, (desk.afterLines later).Sound)
    (asked : arrangementOf line = some (field, ascending)) :
    Answered line (desk.showGames (sortGames desk.planner.current field ascending) field) := by
  refine answered_showGames [] sound asked (Or.inl rfl) (Desk.desk_showGames _ _ _) rfl ?_
  rw [printed, List.map_nil, String.join_nil, String.empty_append]

theorem answered_narrowAndShow [Machine] {desk : Desk} {line expression : String} {field : Field}
    {ascending : Bool}
    (sound : ∀ later,
      ((desk.narrowAndShow expression field ascending).value.desk.afterLines later).Sound)
    (asked : arrangementOf line = some (field, ascending)) :
    Answered line (desk.narrowAndShow expression field ascending).value := by
  rw [Desk.desk_narrowAndShow, Planner.after] at sound
  simp only [Desk.narrowAndShow, Logged.value_andThen]
  cases answer : (desk.planner.filter (some expression) (.known field) ascending).value with
  | mk listed left =>
      cases listed with
      | error fault => exact .failed fault rfl rfl
      | ok games =>
          rw [answer] at sound
          rw [Planner.filter_listed answer]
          exact answered_showGames_bare sound asked

theorem answered_filter [Machine] {desk : Desk} {line : String}
    (filters : Command.ofWord? (wordOf line) = some .filter)
    (sound : ∀ later, ((desk.filter (argumentsOf line)).value.desk.afterLines later).Sound) :
    Answered line (desk.filter (argumentsOf line)).value := by
  have asked : arrangementOf line = filterArrangement (argumentsOf line) := by
    rw [arrangementOf, filters]
  cases asks : filterArrangement (argumentsOf line) with
  | none =>
      rcases Desk.filter_refused desk asks with ⟨word, unknown⟩
      rw [unknown]
      exact .unclear (asked.trans asks) (Or.inr ⟨word, rfl⟩)
  | some arrangement =>
      by_cases missing : (argumentsOf line).isEmpty
      · rw [String.isEmpty_iff.mp missing, Desk.filter_empty] at sound ⊢
        have byName : arrangementOf line = some (.name, true) := by
          rw [asked, filterArrangement, if_pos missing]
        rw [Desk.after, Desk.desk_showGames] at sound
        exact answered_showGames [announce "cli.filter.reset" []] sound byName (Or.inr rfl)
          (Desk.desk_showGames _ _ _) rfl rfl
      · rw [Desk.filter_arranged desk (Bool.eq_false_iff.mpr missing) asks] at sound ⊢
        exact answered_narrowAndShow sound (asked.trans asks)

theorem answered_sort [Machine] {desk : Desk} {line : String}
    (sorts : Command.ofWord? (wordOf line) = some .sort)
    (sound : ∀ later, ((desk.sort (argumentsOf line)).value.desk.afterLines later).Sound) :
    Answered line (desk.sort (argumentsOf line)).value := by
  have asked : arrangementOf line = sortArrangement (argumentsOf line) := by
    rw [arrangementOf, sorts]
  cases asks : sortArrangement (argumentsOf line) with
  | none =>
      rcases Desk.sort_refused desk asks with help | ⟨word, unknown⟩
      · rw [help]
        exact .unclear (asked.trans asks) (Or.inl rfl)
      · rw [unknown]
        exact .unclear (asked.trans asks) (Or.inr ⟨word, rfl⟩)
  | some arrangement =>
      rw [Desk.desk_sort] at sound
      rw [Desk.sort_arranged desk asks]
      exact answered_showGames_bare sound (asked.trans asks)

/-- In every session, the games that a filter or a sort lists are numbered from
one on, each once, and such a number adds the game beside it and no other for
as long as the same games are left; which they are after any line that is no
filter, or one by an unknown field. -/
theorem numbers_serve_additions [Machine] (games : List Game) (files : Store) (listFile : Json)
    (earlier : List String) (line : String) (writable : ∀ game ∈ games, game.Writable)
    (asks : Command.ofWord? (wordOf line) = some .filter ∨ Command.ofWord? (wordOf line) = some .sort) :
    Answered line (((Desk.opened games files listFile).afterLines earlier).execute line).value ∧
      ∀ (desk : Desk) (other : String),
        Command.ofWord? (wordOf other) ≠ some .filter ∨ arrangementOf other = none →
          (desk.execute other).value.desk.planner = desk.planner := by
  refine ⟨?_, fun desk other idle => Desk.planner_execute desk idle⟩
  generalize before : (Desk.opened games files listFile).afterLines earlier = desk
  have sound (later : List String) : ((desk.execute line).value.desk.afterLines later).Sound := by
    have session := Desk.sound_of_session writable files listFile (earlier ++ line :: later)
    rwa [Desk.afterLines_append, before] at session
  rcases asks with filters | sorts
  · rw [Desk.execute_of_command desk filters, Desk.carryOut] at sound ⊢
    exact answered_filter filters sound
  · rw [Desk.execute_of_command desk sorts, Desk.carryOut] at sound ⊢
    exact answered_sort sorts sound

section

attribute [local instance] Machine.usual

/-- Two games of one name in small letters, one of them rated by no number, are
sorted by rank after one has been added. -/
theorem sort_of_namesakes :
    Answered "sort rank desc"
      (((Desk.opened [{ name := "Go", rank := 258, rating := { value := .nan } }, { name := "go", rank := 7 }]
        ⟨[]⟩ (.text "games.txt")).afterLines ["add 1"]).execute "sort rank desc").value := by
  refine (numbers_serve_additions _ ⟨[]⟩ (.text "games.txt") ["add 1"] "sort rank desc" ?writable
    (Or.inr (by decide +kernel))).1
  case writable =>
    intro game member field
    rcases List.mem_cons.mp member with first | others
    · rw [first]
      cases field <;> decide +kernel
    · rw [List.mem_singleton.mp others]
      cases field <;> decide +kernel

end

/-!
## Removals by the numbers of the list

The held games are listed under the numbers from one on.  A removal by one of these
numbers takes the game of that row, and a removal by a range takes the rows from the
one number to the other, as does the removal of the first of them over and over.  The
other rows keep their order and move up.
-/

theorem getElem?_numberedNames (number place : Nat) (names : List String) :
    (Desk.numberedNames number names)[place]? =
      names[place]?.map fun name => naturalText (number + place) ++ ": " ++ name := by
  induction names generalizing number place with
  | nil => rfl
  | cons name rest inductionHypothesis =>
      rw [Desk.numberedNames]
      cases place with
      | zero => rfl
      | succ place =>
          rw [List.getElem?_cons_succ, List.getElem?_cons_succ, inductionHypothesis,
            Nat.add_right_comm, Nat.add_assoc]

/-- Held games are listed with their number at the head, one row for each name. -/
theorem output_list [Machine] {desk : Desk} (filled : 0 < desk.shortlist.count) :
    (desk.execute "list").value.output =
      printed (announce "cli.list.header" [("count", .number desk.shortlist.count)] ::
        Desk.numberedNames 1 desk.shortlist.names) := by
  have word : Command.ofWord? (wordOf "list") = some .list := by decide +kernel
  have counted : desk.shortlist.names.length = desk.shortlist.count := List.length_map _
  have named : desk.shortlist.names.isEmpty = false := by
    apply List.isEmpty_eq_false_iff.mpr
    apply List.ne_nil_of_length_pos
    rwa [counted]
  rw [Desk.execute_of_command desk word, Desk.carryOut, Desk.list]
  simp only [named, Bool.false_eq_true, if_false, Logged.value_quiet, counted]

/-- What is left when the middle one of three pieces goes has the names before it and
behind it. -/
theorem names_of_pieces {shortlist : Shortlist} {before picked after : List Game}
    (pieces : shortlist.held = before ++ picked ++ after) :
    Shortlist.names ⟨before ++ after⟩ =
      shortlist.names.take before.length ++ shortlist.names.drop (before.length + picked.length) := by
  have front : before.length = (before.map Game.name).length := (List.length_map _).symm
  have middle : before.length + picked.length = ((before ++ picked).map Game.name).length := by
    rw [List.length_map, List.length_append]
  have names : shortlist.names = (before ++ picked).map Game.name ++ after.map Game.name := by
    rw [Shortlist.names, pieces, List.map_append]
  rw [Shortlist.names, List.map_append, names, middle, List.drop_left, List.map_append, List.append_assoc,
    front, List.take_left]

/-- After any deeds on a new shortlist, the range of two numbers on it removes the names
from the one to the other and leaves the rest in their order; the first of the two
numbers, removed as often, comes to the same.  A number removes the name that is listed
in its row, and the word `all` removes every name.

Numbers of more than 4300 digits are left out, since they are neither written nor read;
no list is so long that it would need one. -/
theorem removals_by_number [Machine] (files : Store) (deeds : List Deed) :
    let shortlist := ((Shelf.new files).afterAll deeds).shortlist
    let rows := Desk.numberedNames 1 shortlist.names
    (∀ desk : Desk, desk.shortlist = shortlist → 0 < shortlist.count →
      (desk.execute "list").value.output =
        printed (announce "cli.list.header" [("count", .number shortlist.count)] :: rows)) ∧
    (∀ start stop, 1 ≤ start → start ≤ stop → stop ≤ shortlist.count → stop < tenTo digitLimit →
      ∃ left, (shortlist.remove (some (rangeText start stop))).value = .ok left ∧
        left.count + (stop - start + 1) = shortlist.count ∧
        left.names = shortlist.names.take (start - 1) ++ shortlist.names.drop stop ∧
        shortlist.removeEach (List.replicate (stop - start + 1) (naturalText start)) = .ok left) ∧
    (∀ number, 1 ≤ number → number ≤ shortlist.count → number < tenTo digitLimit →
      ∃ left name, (shortlist.remove (some (naturalText number))).value = .ok left ∧
        rows[number - 1]? = some (naturalText number ++ ": " ++ name) ∧
        shortlist.names[number - 1]? = some name ∧
        left.names = shortlist.names.eraseIdx (number - 1)) ∧
    (shortlist.remove (some "all")).value = .ok .empty := by
  intro shortlist rows
  have ordered : shortlist.Ordered := Shelf.ordered_afterAll files deeds
  refine ⟨?listed, ?ranges, ?numbers, ordered.remove_all⟩
  case listed =>
    intro desk same filled
    rw [← same] at filled
    rw [output_list filled, same]
  case ranges =>
    intro start stop positive rising inside written
    rcases exists_pieces positive rising inside with ⟨before, picked, after, pieces, starts, stops⟩
    have long : stop - start + 1 = picked.length := by omega
    have filled : picked ≠ [] := List.ne_nil_of_length_pos (by omega)
    have read : before.length + picked.length < tenTo digitLimit := by rwa [stops]
    refine ⟨⟨before ++ after⟩, ?_, ?_, ?_, ?_⟩
    · rw [← starts, ← stops]
      exact ordered.remove_rangeText pieces filled read
    · rw [Shortlist.count, Shortlist.count, pieces, long]
      simp only [List.length_append]
      omega
    · rw [names_of_pieces pieces, ← starts, ← stops, Nat.add_sub_cancel]
    · rw [long, ← starts]
      exact ordered.removeEach_number pieces read
  case numbers =>
    intro number positive inside written
    rcases exists_piece positive inside with ⟨before, game, after, pieces, here⟩
    have place : number - 1 = before.length := by omega
    have alone : shortlist.held = before ++ [game] ++ after := by
      rw [pieces, List.append_assoc, List.singleton_append]
    have named : shortlist.names[before.length]? = some game.name := by
      rw [Shortlist.names, pieces, List.getElem?_map, List.getElem?_append_right (Nat.le_refl _),
        Nat.sub_self, List.getElem?_cons_zero, Option.map_some]
    refine ⟨⟨before ++ after⟩, game.name, ?_, ?_, place ▸ named, ?_⟩
    · rw [← here]
      apply ordered.remove_number pieces
      rwa [here]
    · rw [getElem?_numberedNames, place, named, Option.map_some, Nat.add_comm 1, here]
    · rw [names_of_pieces alone, List.length_singleton, place, List.eraseIdx_eq_take_drop_succ]

section

attribute [local instance] Machine.usual

/-- Of three games, the last two are removed by their range, or by removing the second
one twice. -/
theorem last_two_removed :
    3 ≤ threeHeld.count ∧ 3 < tenTo digitLimit ∧
      ∃ left, (threeHeld.remove (some (rangeText 2 3))).value = .ok left ∧
        left.names = ["7 Wonders"] ∧
        threeHeld.removeEach [naturalText 2, naturalText 2] = .ok left := by
  have inside : 3 ≤ threeHeld.count := by
    rw [Shortlist.count, held_threeHeld]
    decide
  have written : 3 < tenTo digitLimit := by decide +kernel
  have removals := removals_by_number ⟨[]⟩ [.add (some "all") threeGames]
  rcases removals.2.1 2 3 (by decide) (by decide) inside written with ⟨left, removed, fewer, names, twice⟩
  refine ⟨inside, written, left, removed, ?_, twice⟩
  rw [names, ← threeHeld, Shortlist.names, held_threeHeld]
  decide +kernel

end

end Console

end GameNight
