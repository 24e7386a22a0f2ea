import GameNight.Files
import GameNight.Program
import Mathlib.Data.List.DropRight

namespace GameNight

open Text

/-!
# Paths and directories

What the names on a path lead to, and which directories cannot be made.
-/

namespace Text

/-!
## Paths with a NUL

Reading a path drops slashes, empty names and single dots.  Every other
character of its spelling stands in one of its names, so that a NUL in the
spelling is always found.  A store refuses such paths, and no others, for it.
-/

/-- Cutting at a character keeps every other one in some piece. -/
theorem mem_splitOn {separator c : Char} (kept : c ≠ separator) (chars : List Char) :
    (∃ piece ∈ splitOn separator chars, c ∈ piece) ↔ c ∈ chars := by
  induction chars with
  | nil => simp [splitOn]
  | cons first rest inductionHypothesis =>
      rw [List.mem_cons, ← inductionHypothesis, splitOn]
      by_cases cuts : first = separator
      · have other : c ≠ first := by
          intro equal
          exact kept (equal.trans cuts)
        simp [cuts, kept]
      · rw [if_neg cuts]
        cases splitOn separator rest with
        | nil => simp
        | cons piece pieces => simp [or_assoc]

end Text

namespace Files
namespace Path

/-- A path is refused for a NUL exactly when its spelling holds one. -/
theorem holdsNul_ofString (text : String) :
    (ofString text).holdsNul = true ↔ Char.ofNat 0 ∈ text.toList := by
  have unlikeSlash : Char.ofNat 0 ≠ '/' := by decide
  rw [← mem_splitOn unlikeSlash, holdsNul, List.any_eq_true]
  constructor
  · rintro ⟨name, listed, held⟩
    rcases List.mem_map.mp listed with ⟨piece, among, written⟩
    refine ⟨piece, (List.mem_filter.mp among).1, ?_⟩
    rw [← written, String.toList_ofList] at held
    exact List.contains_iff_mem.mp held
  · rintro ⟨piece, among, held⟩
    -- neither an empty name nor a dot holds a NUL, so that the piece is kept
    have filled : piece ≠ [] := fun empty => by
      rw [empty] at held
      cases held
    have undotted : piece ≠ ['.'] := fun dot => by
      rw [dot] at held
      revert held
      decide
    refine ⟨String.ofList piece, List.mem_map_of_mem (List.mem_filter.mpr ⟨among, ?_⟩), ?_⟩
    · simp [filled, undotted]
    · rw [String.toList_ofList]
      exact List.contains_iff_mem.mpr held

/-- A path goes on from its parent, and so holds what this one holds. -/
theorem holdsNul_of_parent {path : Path} (held : path.parent.holdsNul = true) :
    path.holdsNul = true := by
  rw [holdsNul, List.any_eq_true] at held ⊢
  rcases held with ⟨name, listed, found⟩
  exact ⟨name, List.dropLast_subset path.parts listed, found⟩

/-- The names of a path that goes down by one name over and over. -/
theorem parts_ofString_replicate (levels : Nat) :
    Path.ofString (String.ofList (List.replicate levels ['a', '/']).flatten) =
      ⟨.working, List.replicate levels "a"⟩ := by
  have pieces : splitOn '/' (List.replicate levels ['a', '/']).flatten =
      List.replicate levels ['a'] ++ [[]] := by
    induction levels with
    | zero => rfl
    | succ levels inductionHypothesis =>
        rw [List.replicate_succ, List.flatten_cons, List.cons_append, List.cons_append, List.nil_append,
          splitOn, splitOn, inductionHypothesis]
        rfl
  have root : rootOf (List.replicate levels ['a', '/']).flatten = .working := by
    cases levels <;> rfl
  rw [ofString, String.toList_ofList, pieces, root]
  simp

end Path

namespace Store

theorem locate_eq_embeddedNul (store : Store) (path : Path) :
    store.locate path = .error .embeddedNul ↔ path.holdsNul = true := by
  rw [locate]
  by_cases held : path.holdsNul = true
  · simp [held]
  · rw [if_neg held]
    simp only [held, Bool.false_eq_true, iff_false]
    split
    · intro long
      cases long
    · cases store.walk (.ofRoot path.root) path.parts with
      | error refusal =>
          intro failed
          cases Except.error.inj failed
      | ok location =>
          intro failed
          cases failed

/-- Of all faults of reading, only this one is about the path alone. -/
theorem read_eq_embeddedNul (store : Store) (path : Path) :
    store.read path = .error .embeddedNul ↔ path.holdsNul = true := by
  rw [← store.locate_eq_embeddedNul, read]
  cases store.locate path with
  | error fault => simp
  | ok location =>
      simp only [reduceCtorEq, iff_false]
      cases store.entry? location with
      | none => simp
      | some entry => cases entry <;> simp

/-!
## Directories that cannot be made

The store may refuse to make a directory.  Apart from that, it is not made when
a name on the way to it holds a NUL, or when too many directories above it are
missing one inside the other.
-/

/-- Making a directory in its place fails only by a refusal. -/
theorem makeAt_fault {store : Store} {path : Path} {location : Location} {fault : TargetFault}
    (failed : (store.makeAt path location).1 = .error fault) :
    ∃ refusal, fault = .refused refusal path := by
  rw [makeAt] at failed
  split at failed
  · cases failed
  · exact ⟨.exists, (Except.error.inj failed).symm⟩
  · cases failed

theorem makeBelow_fault {store : Store} {path : Path} {parent : Location} {name : String}
    {fault : TargetFault} (failed : (store.makeBelow path parent name).1 = .error fault) :
    ∃ refusal, fault = .refused refusal path := by
  rw [makeBelow] at failed
  split at failed
  · exact makeAt_fault failed
  · split at failed
    · exact ⟨.nameTooLong, (Except.error.inj failed).symm⟩
    · exact makeAt_fault failed

/-- Making directories goes too deep exactly when, at each of the levels that
it may go up, there is a directory left and this one cannot be found. -/
theorem makeDirectoriesFrom_tooDeep (root : Root) (store : Store) (levels : Nat)
    (names : List String) :
    (makeDirectoriesFrom root store levels names).1 = .error .tooDeep ↔
      ∀ level < levels, level < names.length ∧
        store.locate ⟨root, (names.drop level).reverse⟩ = .error (.refused .missing) := by
  induction levels generalizing names with
  | zero => simp [makeDirectoriesFrom]
  | succ levels inductionHypothesis =>
      cases names with
      | nil =>
          rw [makeDirectoriesFrom, Nat.forall_lt_succ_left]
          simp
      | cons name above =>
          rw [makeDirectoriesFrom, Nat.forall_lt_succ_left]
          simp only [List.drop_zero, List.drop_succ_cons, List.length_cons, Nat.zero_lt_succ, true_and,
            Nat.add_lt_add_iff_right]
          rw [← inductionHypothesis above]
          cases store.locate ⟨root, (name :: above).reverse⟩ with
          | ok location =>
              refine iff_of_false (fun failed => ?_) (fun both => nomatch both.1)
              rcases makeAt_fault failed with ⟨refusal, different⟩
              cases different
          | error fault =>
              rcases fault with (_ | _ | _ | _ | _) | _
              case refused.missing =>
                rw [and_iff_right rfl]
                rcases makeDirectoriesFrom root store levels above with ⟨_ | parent, prepared⟩
                · rfl
                · refine iff_of_false (fun failed => ?_) (fun made => nomatch made)
                  rcases makeBelow_fault failed with ⟨refusal, different⟩
                  cases different
              all_goals exact iff_of_false (fun failed => nomatch failed) (fun both => nomatch both.1)

/-- No NUL is met on the way to a directory without one. -/
theorem makeDirectoriesFrom_ne_embeddedNul {root : Root} (store : Store) (levels : Nat)
    {names : List String} (clean : (Path.mk root names.reverse).holdsNul = false) :
    (makeDirectoriesFrom root store levels names).1 ≠ .error .embeddedNul := by
  induction levels generalizing names with
  | zero =>
      intro failed
      cases failed
  | succ levels inductionHypothesis =>
      cases names with
      | nil =>
          intro failed
          cases failed
      | cons name above =>
          have cleanAbove : (Path.mk root above.reverse).holdsNul = false := by
            rw [Path.holdsNul, List.reverse_cons, List.any_append, Bool.or_eq_false_iff] at clean
            exact clean.1
          rw [makeDirectoriesFrom]
          cases found : store.locate ⟨root, (name :: above).reverse⟩ with
          | ok location =>
              intro failed
              rcases makeAt_fault failed with ⟨refusal, different⟩
              cases different
          | error fault =>
              rcases fault with (_ | _ | _ | _ | _) | _
              case refused.missing =>
                have upwards := inductionHypothesis cleanAbove
                revert upwards
                rcases makeDirectoriesFrom root store levels above with ⟨_ | parent, prepared⟩
                · exact id
                · intro _ failed
                  rcases makeBelow_fault failed with ⟨refusal, different⟩
                  cases different
              case embeddedNul =>
                rw [(store.locate_eq_embeddedNul _).mp found] at clean
                cases clean
              all_goals
                intro failed
                cases failed

/-- Whether a directory and those above it, as many as may be made at once, each lie
in a directory that is missing. -/
def TooDeep [Machine] (store : Store) (path : Path) : Prop :=
  ∀ level < Machine.directories, level < path.parts.length ∧
    store.locate ⟨path.root, path.parts.rdrop level⟩ = .error (.refused .missing)

/-- The directory that a root stands for is there. -/
theorem makeDirectories_root [Machine] (store : Store) (root : Root) :
    store.makeDirectories ⟨root, []⟩ = (.ok (.ofRoot root), store) := by
  rcases Nat.exists_eq_add_one_of_ne_zero Machine.directories_pos.ne' with ⟨levels, counted⟩
  rw [makeDirectories, counted]
  rfl

theorem makeDirectories_tooDeep [Machine] (store : Store) (path : Path) :
    (store.makeDirectories path).1 = .error .tooDeep ↔ store.TooDeep path := by
  simp only [makeDirectories, makeDirectoriesFrom_tooDeep, List.length_reverse, TooDeep,
    List.rdrop_eq_reverse_drop_reverse]

theorem makeDirectories_embeddedNul [Machine] (store : Store) (path : Path) :
    (store.makeDirectories path).1 = .error .embeddedNul ↔ path.holdsNul = true := by
  constructor
  · intro failed
    by_contra clean
    refine makeDirectoriesFrom_ne_embeddedNul store Machine.directories ?_ failed
    rw [List.reverse_reverse]
    exact eq_false_of_ne_true clean
  · intro held
    rw [makeDirectories]
    cases reversed : path.parts.reverse with
    | nil =>
        rw [Path.holdsNul, List.reverse_eq_nil_iff.mp reversed] at held
        cases held
    | cons name above =>
        have same : (⟨path.root, (name :: above).reverse⟩ : Path) = path := by
          rw [← reversed, List.reverse_reverse]
        have met : store.locate ⟨path.root, (name :: above).reverse⟩ = .error .embeddedNul := by
          rw [same]
          exact (store.locate_eq_embeddedNul path).mpr held
        rcases Nat.exists_eq_add_one_of_ne_zero Machine.directories_pos.ne' with ⟨below, counted⟩
        rw [counted, makeDirectoriesFrom, met]
        rfl

/-- Writing meets a NUL exactly when a name on the path holds one. -/
theorem write_eq_embeddedNul (store : Store) (path : Path) (bytes : ByteArray) :
    store.write path bytes = .error .embeddedNul ↔ path.holdsNul = true := by
  rw [← store.locate_eq_embeddedNul, write, Answer.map_eq_error, fileLocation]
  cases store.locate path with
  | error fault => simp
  | ok location =>
      simp only [reduceCtorEq, iff_false]
      cases store.entry? location with
      | none => simp
      | some entry => cases entry <;> simp

/-! ### Directories one inside the other -/

theorem utf8ByteSize_joinWith_replicate (separator name : String) (count : Nat) :
    (joinWith separator (List.replicate (count + 1) name)).utf8ByteSize =
      count * (separator.utf8ByteSize + name.utf8ByteSize) + name.utf8ByteSize := by
  induction count with
  | zero => simp [joinWith]
  | succ count inductionHypothesis =>
      rw [joinWith] at inductionHypothesis ⊢
      rw [List.replicate_succ, List.replicate_succ, String.intercalate_cons_cons, ← List.replicate_succ,
        String.utf8ByteSize_append, String.utf8ByteSize_append, inductionHypothesis, Nat.succ_mul]
      omega

/-- Nothing stands below a directory that is missing. -/
theorem locate_replicate_of_empty {levels : Nat} (below : 2 ≤ levels) (short : 2 * levels ≤ pathLimit) :
    Store.empty.locate ⟨.working, List.replicate levels "a"⟩ = .error (.refused .missing) := by
  rcases Nat.exists_eq_add_of_le' below with ⟨rest, rfl⟩
  have clean : (Path.mk .working (List.replicate (rest + 2) "a")).holdsNul = false := by
    rw [Path.holdsNul, List.any_replicate, if_neg (Nat.succ_ne_zero _)]
    decide
  have size : (Path.mk .working (List.replicate (rest + 2) "a")).text.utf8ByteSize < pathLimit := by
    have named : ¬(Root.working = Root.working ∧ List.replicate (rest + 2) "a" = []) := by
      intro both
      exact List.cons_ne_nil "a" _ both.2
    have one : "a".utf8ByteSize = 1 := rfl
    have slash : "/".utf8ByteSize = 1 := rfl
    rw [Path.text, if_neg named, Path.rootText, String.utf8ByteSize_append,
      utf8ByteSize_joinWith_replicate, one, slash]
    have none : "".utf8ByteSize = 0 := rfl
    omega
  rw [locate, clean, if_neg Bool.false_ne_true, if_neg (Nat.not_le_of_lt size)]
  rfl

theorem tooDeep_of_empty [Machine] {levels : Nat} (deep : Machine.directories < levels) (short : 2 * levels ≤ pathLimit) :
    Store.empty.TooDeep ⟨.working, List.replicate levels "a"⟩ := by
  intro level inside
  have left : (List.replicate levels "a").rdrop level = List.replicate (levels - level) "a" := by
    rw [List.rdrop, List.length_replicate, List.take_replicate, Nat.min_eq_left (Nat.sub_le _ _)]
  refine ⟨?_, ?_⟩
  · rw [List.length_replicate]
    omega
  · rw [left]
    exact locate_replicate_of_empty (by omega) (by omega)

end Store
end Files

end GameNight
