import GameNight.Files
import GameNight.Program

namespace GameNight
namespace Files
namespace Store

/-!
# Files that are written and taken away

Writing a file or taking files away changes what is read there and nothing else.
-/

/-!
## Reading back what has been written

Writing a file changes what stands at one location and nothing else.  This
location was no directory, so that it is not passed on the way to any other
one, and the path that led to it before leads to it afterwards.  Adding to a
file is writing it with what it held before, so that several additions to it
are one.
-/

/-- Replacing what stands at a location leaves the location where it was found. -/
theorem find?_replaced {location : Location} (entry : Entry) (entries : List (Location × Entry))
    (other : Location) :
    ((entries.map fun held => if held.1 = location then (location, entry) else held).find?
        fun held => held.1 = other) =
      (entries.find? fun held => held.1 = other).map fun held =>
        if held.1 = location then (location, entry) else held := by
  have sameKey (held : Location × Entry) :
      (if held.1 = location then (location, entry) else held).1 = held.1 := by
    split
    · rename_i here
      exact here.symm
    · rfl
  rw [List.find?_map]
  congr 2
  funext held
  rw [Function.comp, sameKey]

/-- What is put at a location stands there. -/
theorem entry?_put_self (store : Store) {location : Location} (named : location.names ≠ [])
    (entry : Entry) : entry? (store.put location entry) location = some entry := by
  rw [ entry?, if_neg named, put]
  cases found : store.entries.find? fun held => held.1 = location with
  | some held =>
      have here : held.1 = location := by simpa using List.find?_some found
      have known : (store.entries.any fun held => held.1 = location) = true :=
        List.any_eq_true.mpr ⟨held, List.mem_of_find?_eq_some found, decide_eq_true here⟩
      rw [if_pos known, find?_replaced, found, Option.map_some, if_pos here, Option.map_some]
  | none =>
      have unknown : ¬(store.entries.any fun held => held.1 = location) = true := by
        intro known
        rcases List.any_eq_true.mp known with ⟨held, member, here⟩
        exact List.find?_eq_none.mp found held member here
      rw [if_neg unknown, List.find?_append, found, Option.none_or]
      simp

/-- Nothing changes anywhere else. -/
theorem entry?_put_of_ne (store : Store) {location other : Location} (different : other ≠ location)
    (entry : Entry) : entry? (store.put location entry) other = store.entry? other := by
  rw [ entry?, entry?, put]
  split
  · rfl
  · congr 1
    split
    · rw [find?_replaced]
      cases found : store.entries.find? fun held => held.1 = other with
      | none => rfl
      | some held =>
          have there : held.1 = other := by simpa using List.find?_some found
          have elsewhere : held.1 ≠ location := fun here => different (there.symm.trans here)
          rw [Option.map_some, if_neg elsewhere]
    · rw [List.find?_append, List.find?_singleton, if_neg (by simpa using Ne.symm different),
        Option.or_none]

/-- A walk goes on from a directory only, up or to what lies in it. -/
theorem walk_cons_eq_ok {store : Store} {start final : Location} {name : String}
    {rest : List String} :
    store.walk start (name :: rest) = .ok final ↔
      store.entry? start = some .directory ∧
        (name = ".." ∧ store.walk start.up rest = .ok final ∨
          name ≠ ".." ∧ name.utf8ByteSize ≤ nameLimit ∧
            store.walk (start.child name) rest = .ok final) := by
  rw [walk]
  cases store.entry? start with
  | none => simp
  | some held =>
      cases held with
      | file bytes => simp
      | directory =>
          rw [and_iff_right rfl]
          dsimp only
          split
          · rename_i upwards
            simp [upwards]
          · rename_i downwards
            split
            · rename_i long
              simp [downwards, Nat.not_le.mpr long]
            · rename_i short
              simp [downwards, Nat.le_of_not_lt short]

/-- A walk passes directories only, and so is the same when something changes at
a location without one. -/
theorem walk_put {store : Store} {location start final : Location} {names : List String}
    (entry : Entry) (kept : store.entry? location ≠ some .directory)
    (walked : store.walk start names = .ok final) :
    (store.put location entry).walk start names = .ok final := by
  induction names generalizing start with
  | nil => exact walked
  | cons name rest inductionHypothesis =>
      rw [walk_cons_eq_ok] at walked ⊢
      rcases walked with ⟨standing, onwards⟩
      have elsewhere : start ≠ location := fun here => kept (here ▸ standing)
      rw [entry?_put_of_ne store elsewhere]
      refine ⟨standing, ?_⟩
      rcases onwards with ⟨upwards, walked⟩ | ⟨downwards, short, walked⟩
      · exact Or.inl ⟨upwards, inductionHypothesis walked⟩
      · exact Or.inr ⟨downwards, short, inductionHypothesis walked⟩

theorem locate_put {store : Store} {location : Location} {path : Path} (entry : Entry)
    (kept : store.entry? location ≠ some .directory) (located : store.locate path = .ok location) :
    (store.put location entry).locate path = .ok location := by
  rw [locate] at located ⊢
  split at located
  · cases located
  · split at located
    · cases located
    · cases walked : store.walk (.ofRoot path.root) path.parts with
      | error refusal =>
          rw [walked] at located
          cases located
      | ok reached =>
          rw [walked] at located
          cases located
          rw [if_neg ‹_›, if_neg ‹_›, walk_put entry kept walked]
          rfl

/-- A path leads to a place for a file where it leads to anything but a directory. -/
theorem fileLocation_eq_ok {store : Store} {path : Path} {location : Location} :
    store.fileLocation path = .ok location ↔
      store.locate path = .ok location ∧ store.entry? location ≠ some .directory := by
  rw [fileLocation]
  cases store.locate path with
  | error fault => simp
  | ok reached =>
      dsimp only
      constructor
      · intro found
        split at found
        · cases found
        · rename_i other
          cases found
          exact ⟨rfl, other⟩
      · rintro ⟨same, kept⟩
        cases same
        split
        · rename_i standing
          exact absurd standing kept
        · rfl

/-- Writing succeeds where a path leads to a place for a file, and puts the text there. -/
theorem write_eq_ok {store after : Store} {path : Path} {bytes : ByteArray} :
    store.write path bytes = .ok after ↔
      ∃ location, store.fileLocation path = .ok location ∧ store.put location (.file bytes) = after :=
  Answer.map_eq_ok

/-- The top is a directory. -/
theorem names_ne_nil {store : Store} {location : Location}
    (kept : store.entry? location ≠ some .directory) : location.names ≠ [] :=
  fun unnamed => kept (if_pos unnamed)

/-- What has been written to a path is read back from it. -/
theorem read_write {store after : Store} {path : Path} {bytes : ByteArray}
    (written : store.write path bytes = .ok after) : after.read path = .ok bytes := by
  rcases write_eq_ok.mp written with ⟨location, found, rfl⟩
  rcases fileLocation_eq_ok.mp found with ⟨located, kept⟩
  rw [read, locate_put (.file bytes) kept located]
  simp only [store.entry?_put_self (names_ne_nil kept)]

/-- A path leads to the file that has been put at the place to which it led. -/
theorem fileLocation_put {store : Store} {path : Path} {location : Location} (bytes : ByteArray)
    (found : store.fileLocation path = .ok location) :
    (store.put location (.file bytes)).fileLocation path = .ok location := by
  rcases fileLocation_eq_ok.mp found with ⟨located, kept⟩
  apply fileLocation_eq_ok.mpr
  refine ⟨locate_put (.file bytes) kept located, ?_⟩
  rw [entry?_put_self store (names_ne_nil kept)]
  exact fun same => nomatch same

/-- Of two entries that are put at one location, the later one stands there. -/
theorem put_put (store : Store) (location : Location) (first second : Entry) :
    (store.put location first).put location second = store.put location second := by
  by_cases known : (store.entries.any fun held => held.1 = location) = true
  · have still : ((store.put location first).entries.any fun held => held.1 = location) = true := by
      rw [put, if_pos known]
      rcases List.any_eq_true.mp known with ⟨held, member, here⟩
      apply List.any_eq_true.mpr
      refine ⟨(location, first), List.mem_map.mpr ⟨held, member, ?_⟩, decide_eq_true rfl⟩
      exact if_pos (of_decide_eq_true here)
    rw [put, if_pos still, put, if_pos known, put, if_pos known, List.map_map]
    congr 1
    apply List.map_congr_left
    intro held _
    by_cases here : held.1 = location <;> simp [here]
  · have added : ((store.put location first).entries.any fun held => held.1 = location) = true := by
      rw [put, if_neg known, List.any_append, List.any_cons, decide_eq_true rfl, Bool.true_or,
        Bool.or_true]
    have elsewhere : ∀ held ∈ store.entries,
        (if held.1 = location then (location, second) else held) = held := by
      intro held member
      apply if_neg
      intro here
      exact known (List.any_eq_true.mpr ⟨held, member, decide_eq_true here⟩)
    rw [put, if_pos added, put, if_neg known, put, if_neg known, List.map_append,
      List.map_congr_left elsewhere, List.map_id', List.map_singleton, if_pos rfl]

/-- Of two texts that are written to one path, the later one stands there. -/
theorem write_write {store after : Store} {path : Path} {first : ByteArray} (second : ByteArray)
    (written : store.write path first = .ok after) :
    after.write path second = store.write path second := by
  rcases write_eq_ok.mp written with ⟨location, found, rfl⟩
  rw [write, write, fileLocation_put first found, found, Except.map, Except.map, put_put]

/-- Whether a path can be written to does not depend on the text. -/
theorem exists_write {store after : Store} {path : Path} {first : ByteArray} (second : ByteArray)
    (written : store.write path first = .ok after) : ∃ other, store.write path second = .ok other := by
  rcases write_eq_ok.mp written with ⟨location, found, _⟩
  exact ⟨_, write_eq_ok.mpr ⟨location, found, rfl⟩⟩

/-! ### Adding to a file -/

/-- What the file at a path holds; one that cannot be read holds nothing. -/
def contents (store : Store) (path : Path) : ByteArray :=
  match store.read path with
  | .ok bytes => bytes
  | .error _ => ByteArray.empty

/-- Adding to a file is writing what it held and what is added. -/
theorem append_eq_write (store : Store) (path : Path) (bytes : ByteArray) :
    store.append path bytes = store.write path (store.contents path ++ bytes) := by
  rw [append, write]
  cases found : store.fileLocation path with
  | error fault => rfl
  | ok location =>
      simp only [Except.map, contents, read, (fileLocation_eq_ok.mp found).1]
      cases store.entry? location with
      | none => simp only [ByteArray.empty_append]
      | some entry => cases entry <;> simp only [ByteArray.empty_append]

theorem read_append {store after : Store} {path : Path} {bytes : ByteArray}
    (added : store.append path bytes = .ok after) : after.read path = .ok (store.contents path ++ bytes) := by
  rw [append_eq_write] at added
  exact read_write added

/-- Two pieces that are added one after the other are added as one. -/
theorem append_append {store middle : Store} {path : Path} {first : ByteArray} (second : ByteArray)
    (added : store.append path first = .ok middle) :
    middle.append path second = store.append path (first ++ second) := by
  have holds : middle.contents path = store.contents path ++ first := by
    rw [contents, read_append added]
  rw [append_eq_write] at added
  rw [append_eq_write, append_eq_write, holds, write_write _ added, ByteArray.append_assoc]

theorem exists_append {store after : Store} {path : Path} {first : ByteArray} (second : ByteArray)
    (added : store.append path first = .ok after) :
    ∃ other, store.append path second = .ok other := by
  rw [append_eq_write] at added ⊢
  exact exists_write _ added

/-!
## Files that are taken away

Taking files away leaves every directory where it is, so that a path leads
where it led before.  Only a path that goes on behind a file says something
else about its failure: what was no directory is missing now.
-/

/-- A store without what stands at some locations. -/
def without (store : Store) (removed : Location → Bool) : Store :=
  ⟨store.entries.filter fun held => !removed held.1⟩

section Removing

variable {store : Store} {removed : Location → Bool}

theorem entry?_without_of_kept {location : Location} (kept : removed location = false) :
    entry? (store.without removed) location = store.entry? location := by
  rw [ entry?, entry?, without, List.find?_filter]
  congr 3
  funext held
  by_cases here : held.1 = location
  · simp [here, kept]
  · simp [here]

theorem entry?_without_of_removed {location : Location} (named : location.names ≠ [])
    (gone : removed location = true) : entry? (store.without removed) location = none := by
  rw [ entry?, if_neg named, without, List.find?_filter, Option.map_eq_none_iff, List.find?_eq_none]
  intro held _
  by_cases here : held.1 = location
  · simp [here, gone]
  · simp [here]

/-- Whether no directory is taken away. -/
def KeepsDirectories (store : Store) (removed : Location → Bool) : Prop :=
  ∀ location, removed location = true → store.entry? location ≠ some .directory

/-- A location has what it had, or what it had has been taken away. -/
theorem entry?_without (keeps : KeepsDirectories store removed) (location : Location) :
    entry? (store.without removed) location = store.entry? location ∨
      removed location = true ∧ entry? (store.without removed) location = none := by
  cases gone : removed location with
  | false => exact Or.inl (entry?_without_of_kept gone)
  | true =>
      have named : location.names ≠ [] := fun unnamed => keeps location gone (if_pos unnamed)
      exact Or.inr ⟨rfl, entry?_without_of_removed named gone⟩

theorem walk_without (keeps : KeepsDirectories store removed) (start : Location)
    (names : List String) :
    (store.without removed).walk start names = store.walk start names ∨
      store.walk start names = .error .notDirectory ∧
        (store.without removed).walk start names = .error .missing := by
  induction names generalizing start with
  | nil => exact Or.inl rfl
  | cons name rest inductionHypothesis =>
      rw [walk, walk]
      rcases entry?_without keeps start with same | ⟨gone, nothing⟩
      · rw [same]
        cases store.entry? start with
        | none => exact Or.inl rfl
        | some held =>
            cases held with
            | file bytes => exact Or.inl rfl
            | directory =>
                dsimp only
                split
                · exact inductionHypothesis _
                · split
                  · exact Or.inl rfl
                  · exact inductionHypothesis _
      · rw [nothing]
        cases standing : store.entry? start with
        | none => exact Or.inl rfl
        | some held =>
            cases held with
            | file bytes => exact Or.inr ⟨rfl, rfl⟩
            | directory => exact absurd standing (keeps start gone)

theorem locate_without (keeps : KeepsDirectories store removed) (path : Path) :
    (store.without removed).locate path = store.locate path ∨
      store.locate path = .error (.refused .notDirectory) ∧
        (store.without removed).locate path = .error (.refused .missing) := by
  rw [locate, locate]
  split
  · exact Or.inl rfl
  · split
    · exact Or.inl rfl
    · rcases walk_without keeps (.ofRoot path.root) path.parts with same | ⟨before, after⟩
      · rw [same]
        exact Or.inl rfl
      · rw [before, after]
        exact Or.inr ⟨rfl, rfl⟩

theorem isDirectory_without (keeps : KeepsDirectories store removed) (path : Path) :
    (store.without removed).isDirectory path = store.isDirectory path := by
  rw [isDirectory, isDirectory, status, status]
  rcases locate_without keeps path with same | ⟨before, after⟩
  · rw [same]
    cases store.locate path with
    | error fault =>
        cases fault with
        | refused refusal => cases refusal <;> rfl
        | embeddedNul => rfl
    | ok location =>
        dsimp only
        rcases entry?_without keeps location with same | ⟨gone, nothing⟩
        · rw [same]
        · rw [nothing]
          have other := keeps location gone
          cases standing : store.entry? location with
          | none => rfl
          | some held =>
              cases held with
              | file bytes => rfl
              | directory => exact absurd standing other
  · rw [before, after]

/-- What a path leads to can be read as before if it has not been taken away. -/
theorem read_without (keeps : KeepsDirectories store removed) {path : Path}
    (stays : ∀ location, store.locate path = .ok location → removed location = false) :
    (store.without removed).read path = store.read path ∨
      ∃ before after, store.read path = .error before ∧
        (store.without removed).read path = .error after := by
  rw [read, read]
  rcases locate_without keeps path with same | ⟨before, after⟩
  · rw [same]
    cases located : store.locate path with
    | error fault => exact Or.inl rfl
    | ok location =>
        dsimp only
        rw [entry?_without_of_kept (stays location located)]
        exact Or.inl rfl
  · rw [before, after]
    exact Or.inr ⟨_, _, rfl, rfl⟩

/-! ### The files of a directory -/

/-- Walking further goes on from where one has come to. -/
theorem walk_concat (store : Store) (start : Location) (names : List String) (name : String) :
    store.walk start (names ++ [name]) =
      match store.walk start names with
      | .error refusal => .error refusal
      | .ok location => store.walk location [name] := by
  induction names generalizing start with
  | nil => rfl
  | cons first rest inductionHypothesis =>
      rw [List.cons_append, walk, walk]
      cases store.entry? start with
      | none => rfl
      | some held =>
          cases held with
          | file bytes => rfl
          | directory =>
              dsimp only
              split
              · exact inductionHypothesis _
              · split
                · rfl
                · exact inductionHypothesis _

/-- A name in a directory leads one name further down. -/
theorem locate_concat {path : Path} {location reached : Location} {name : String}
    (downwards : name ≠ "..") (located : store.locate path = .ok location)
    (found : store.locate { path with parts := path.parts ++ [name] } = .ok reached) :
    reached = location.child name := by
  rw [locate] at located found
  split at located
  · cases located
  · split at located
    · cases located
    · split at found
      · cases found
      · split at found
        · cases found
        · rw [walk_concat] at found
          cases walked : store.walk (.ofRoot path.root) path.parts with
          | error refusal =>
              rw [walked] at located
              cases located
          | ok here =>
              rw [walked] at located found
              cases located
              dsimp only at found
              rw [walk] at found
              split at found
              · cases found
              · cases found
              · rw [if_neg downwards] at found
                split at found
                · cases found
                · cases found
                  rfl

theorem namesIn_without (location : Location) :
    (store.without removed).namesIn location =
      (store.namesIn location).filter fun name => !removed (location.child name) := by
  rw [namesIn, namesIn, without, List.filterMap_filter, List.filter_filterMap]
  congr 1
  funext held
  cases held.1.names.getLast? with
  | none => simp
  | some name =>
      dsimp only
      by_cases here : location.child name = held.1
      · rw [if_pos here, ← here]
        cases gone : removed (location.child name) <;> simp [Option.filter, gone]
      · rw [if_neg here]
        simp

end Removing

end Store
end Files
end GameNight
