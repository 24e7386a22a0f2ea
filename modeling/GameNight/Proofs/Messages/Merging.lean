import GameNight.Proofs.Messages.Paths
import Mathlib.Data.List.Forall2

namespace GameNight
namespace Messages

open Json

/-!
# Merging, as objects and as trees

Objects are merged by writing into a copy; what they stand for is merged as trees, and
the trees obey some laws.
-/

/-!
## Merging objects that are shared

The program keeps objects at places, and a member that is an object holds its place, so
that one object may stand in several others.  Merging copies the members of the lower
object to a new place and writes what the upper one has into this copy.  Objects that
stand in one of the two only are not copied, but shared.

Whatever was kept before merging is kept afterwards: writing touches the copy alone, and
no object that was there leads to it.  What can be read at the new place is what `merge`
gives for the trees that can be read at the two old ones.
-/

/-- Where an object is kept. -/
abbrev Place := Nat

/-- What a member holds: a value that is no object, or the place of an object. -/
inductive Kept where
  | value (value : Json)
  | object (place : Place)

abbrev KeptMembers := List (String × Kept)

/-- The objects that are kept, in the order of their places. -/
abbrev Memory := List KeptMembers

/-! ### Merging at places -/

def putKept (members : KeptMembers) (name : String) (kept : Kept) : KeptMembers :=
  match members with
  | [] => [(name, kept)]
  | held :: rest =>
    if held.1 = name then (name, kept) :: rest else held :: putKept rest name kept

/-- Lay a member over the object at a place.  Where both are objects, they are merged
first, at a place of their own. -/
def layAt (mergeInside : Memory → Place → Place → Option (Memory × Place)) (result : Place)
    (memory : Memory) (member : String × Kept) : Option Memory :=
  match memory[result]? with
  | none => none
  | some held =>
    match held.lookup member.1, member.2 with
    | some (.object below), .object above =>
      (mergeInside memory below above).map fun merged =>
        merged.1.modify result fun held => putKept held member.1 (.object merged.2)
    | _, kept => some (memory.modify result fun held => putKept held member.1 kept)

/-- Merge the objects at two places, which hold others to a depth at most: the memory
afterwards, and the place of the new object. -/
def mergeAt : Nat → Memory → Place → Place → Option (Memory × Place)
  | 0, _, _, _ => none
  | depth + 1, memory, base, update =>
    match memory[base]?, memory[update]? with
    | some lower, some upper =>
      (upper.foldlM (layAt (mergeAt depth) memory.length) (memory ++ [lower])).map fun after =>
        (after, memory.length)
    | _, _ => none

/-! ### What can be read at a place -/

/-- Whether a tree can be read from what is kept, as far as places can be looked up. -/
def Reads (view : Place → Option KeptMembers) : Nat → Kept → Json → Prop
  | _, .value value, json => json = value ∧ ∀ members, value ≠ .object members
  | 0, .object _, _ => False
  | depth + 1, .object place, json =>
    ∃ held members, view place = some held ∧ json = .object members ∧
      List.Forall₂ (fun slot member => slot.1 = member.1 ∧ Reads view depth slot.2 member.2) held members

/-- Whether members can be read one by one, under their names. -/
def ReadsMembers (view : Place → Option KeptMembers) (depth : Nat) : KeptMembers → Members → Prop :=
  List.Forall₂ fun slot member => slot.1 = member.1 ∧ Reads view depth slot.2 member.2

section Reading

variable {view other : Place → Option KeptMembers} {depth : Nat}

/-- Where more can be looked up, the same can be read. -/
theorem Reads.mono (seen : ∀ place held, view place = some held → other place = some held) {kept : Kept}
    {json : Json} (reads : Reads view depth kept json) : Reads other depth kept json := by
  induction depth generalizing kept json with
  | zero =>
      cases kept with
      | value value => exact reads
      | object place => exact reads.elim
  | succ depth inductionHypothesis =>
      cases kept with
      | value value => exact reads
      | object place =>
          rcases reads with ⟨held, members, found, same, each⟩
          exact ⟨held, members, seen place held found, same,
            each.imp fun slot member both => ⟨both.1, inductionHypothesis both.2⟩⟩

theorem ReadsMembers.mono (seen : ∀ place held, view place = some held → other place = some held)
    {held : KeptMembers} {members : Members} (reads : ReadsMembers view depth held members) :
    ReadsMembers other depth held members :=
  List.Forall₂.imp (fun _ _ both => ⟨both.1, both.2.mono seen⟩) reads

/-- A name is held where it is read. -/
theorem ReadsMembers.lookup {held : KeptMembers} {members : Members}
    (reads : ReadsMembers view depth held members) (name : String) :
    (held.lookup name = none ∧ member? members name = none) ∨
      ∃ kept value, held.lookup name = some kept ∧ member? members name = some value ∧
        Reads view depth kept value := by
  induction reads with
  | nil => exact Or.inl ⟨rfl, rfl⟩
  | @cons slot member held members both _ inductionHypothesis =>
      rcases slot with ⟨first, kept⟩
      rcases member with ⟨also, value⟩
      rcases both with ⟨same, inside⟩
      cases (same : first = also)
      rw [member?_cons, List.lookup_cons]
      by_cases here : name = first
      · rw [if_pos here, beq_iff_eq.mpr here]
        exact Or.inr ⟨kept, value, rfl, rfl, inside⟩
      · rw [if_neg here, beq_eq_false_iff_ne.mpr here]
        exact inductionHypothesis

theorem ReadsMembers.put {held : KeptMembers} {members : Members}
    (reads : ReadsMembers view depth held members) (name : String) {kept : Kept} {value : Json}
    (inside : Reads view depth kept value) :
    ReadsMembers view depth (putKept held name kept) (putMember members name value) := by
  induction reads with
  | nil => exact .cons ⟨rfl, inside⟩ .nil
  | @cons slot member held members both others inductionHypothesis =>
      rcases slot with ⟨first, kept⟩
      rcases member with ⟨also, value⟩
      cases (both.1 : first = also)
      rw [putKept, putMember]
      split
      · exact .cons ⟨rfl, inside⟩ others
      · exact .cons both inductionHypothesis

/-- Places read as objects, and nothing else does. -/
theorem exists_place_iff {kept : Kept} {json : Json} (reads : Reads view depth kept json) :
    (∃ place, kept = .object place) ↔ ∃ members, json = .object members := by
  cases kept with
  | value value =>
      rw [Reads] at reads
      rw [reads.1]
      exact ⟨nofun, fun ⟨members, same⟩ => absurd same (reads.2 members)⟩
  | object place =>
      refine iff_of_true ⟨place, rfl⟩ ?_
      cases depth with
      | zero => exact reads.elim
      | succ depth =>
          rcases reads with ⟨held, members, _, same, _⟩
          exact ⟨members, same⟩

end Reading

/-! ### The object that is made -/

/-- What can be looked up when a memory has grown: at the first places what could be
looked up before, and behind them all that is kept. -/
def grown (view : Place → Option KeptMembers) (count : Nat) (memory : Memory) :
    Place → Option KeptMembers := fun place =>
  if place < count then view place else memory[place]?

/-- The same, but for the first of the new places. -/
def besides (view : Place → Option KeptMembers) (result : Place) (memory : Memory) :
    Place → Option KeptMembers := fun place =>
  if place = result then none else grown view result memory place

/-- Whether a memory has come from another by merging: the new object, at the first new
place, reads as given members. -/
structure Merged (memory : Memory) (view : Place → Option KeptMembers) (depth : Nat) (members : Members)
    (after : Memory) : Prop where
  longer : memory.length < after.length
  unchanged : ∀ place < memory.length, after[place]? = memory[place]?
  reads : Reads (grown view memory.length after) depth (.object memory.length) (.object members)

/-- Whether a memory holds an object in the making at its first new place.  The members
are read without a look at this place itself, so that writing there does not change what
they read as. -/
structure Draft (memory : Memory) (view : Place → Option KeptMembers) (depth : Nat) (members : Members)
    (current : Memory) : Prop where
  longer : memory.length < current.length
  unchanged : ∀ place < memory.length, current[place]? = memory[place]?
  reads : ∃ held, current[memory.length]? = some held ∧
    ReadsMembers (besides view memory.length current) depth held members

/-- Whether objects of some depth are merged as trees are. -/
def MergesAt (depth : Nat) : Prop :=
  ∀ {memory : Memory} {view : Place → Option KeptMembers} {base update : Place} {lower upper : Members},
    (∀ place held, view place = some held → memory[place]? = some held) →
    Reads view depth (.object base) (.object lower) → Reads view depth (.object update) (.object upper) →
    ∃ after, mergeAt depth memory base update = some (after, memory.length) ∧
      Merged memory view depth (merge lower upper) after

section Making

variable {memory current after : Memory} {view : Place → Option KeptMembers} {depth : Nat}
  {members : Members}

theorem lt_length_of_getElem? {place : Place} {held : KeptMembers} (found : memory[place]? = some held) :
    place < memory.length :=
  (List.getElem?_eq_some_iff.mp found).1

/-- What could be looked up before stands at one of the first places. -/
theorem besides_of_view (known : ∀ place held, view place = some held → memory[place]? = some held)
    (place : Place) (held : KeptMembers) (found : view place = some held) :
    besides view memory.length current place = some held := by
  have first := lt_length_of_getElem? (known place held found)
  rw [besides, grown, if_neg (Nat.ne_of_lt first), if_pos first]
  exact found

theorem besides_mono (unchanged : ∀ place < current.length, after[place]? = current[place]?) (result place : Place)
    (held : KeptMembers) (found : besides view result current place = some held) :
    besides view result after place = some held := by
  rw [besides, grown] at found ⊢
  split at found
  · cases found
  · rw [if_neg ‹_›]
    split at found
    · rw [if_pos ‹_›]
      exact found
    · rw [if_neg ‹_›, unchanged place (lt_length_of_getElem? found)]
      exact found

theorem known_besides (known : ∀ place held, view place = some held → memory[place]? = some held)
    (unchanged : ∀ place < memory.length, current[place]? = memory[place]?) (place : Place) (held : KeptMembers)
    (found : besides view memory.length current place = some held) : current[place]? = some held := by
  rw [besides, grown] at found
  split at found
  · cases found
  · split at found
    · rw [unchanged place ‹_›]
      exact known place held found
    · exact found

theorem besides_of_grown (longer : memory.length < current.length)
    (unchanged : ∀ place < current.length, after[place]? = current[place]?) (place : Place) (held : KeptMembers)
    (found : grown (besides view memory.length current) current.length after place = some held) :
    besides view memory.length after place = some held := by
  rw [grown] at found
  split at found
  · exact besides_mono unchanged memory.length place held found
  · have behind : memory.length < place := Nat.lt_of_lt_of_le longer (Nat.le_of_not_lt ‹_›)
    rw [besides, grown, if_neg (Nat.ne_of_gt behind), if_neg (Nat.lt_asymm behind)]
    exact found

/-- Writing at a place is not seen besides it. -/
theorem besides_modify (result : Place) (change : KeptMembers → KeptMembers) :
    besides view result (after.modify result change) = besides view result after := by
  funext place
  rw [besides, besides, grown, grown]
  split
  · rfl
  · rw [List.getElem?_modify_ne _ _ (Ne.symm ‹_›)]

/-- A member is written into the object in the making, after the memory may have grown. -/
theorem Draft.write (draft : Draft memory view depth members current) (longer : current.length ≤ after.length)
    (unchanged : ∀ place < current.length, after[place]? = current[place]?) (name : String) {kept : Kept}
    {value : Json} (inside : Reads (besides view memory.length after) depth kept value) :
    Draft memory view depth (putMember members name value)
      (after.modify memory.length fun held => putKept held name kept) := by
  rcases draft with ⟨before, first, held, found, reads⟩
  refine ⟨?longer, ?unchanged, putKept held name kept, ?written, ?reads⟩
  case longer =>
    rw [List.length_modify]
    exact Nat.lt_of_lt_of_le before longer
  case unchanged =>
    intro place below
    rw [List.getElem?_modify_ne _ _ (Nat.ne_of_gt below), unchanged place (Nat.lt_trans below before)]
    exact first place below
  case written =>
    rw [List.getElem?_modify_eq, unchanged _ before, found]
    rfl
  case reads =>
    rw [besides_modify]
    exact (reads.mono (besides_mono unchanged memory.length)).put name inside

/-- An object that is laid over anything else replaces it, and so does what is no object. -/
theorem overlay_of_apart {below : Option Json} {value : Json}
    (apart : ∀ members, below = some (.object members) → ∀ upper, value ≠ .object upper) :
    overlay below value = value := by
  cases value with
  | object upper =>
      rw [overlay_object]
      split
      · rename_i members
        exact absurd rfl (apart members rfl upper)
      · rfl
  | _ => rfl

theorem layAt_of_apart {merge : Memory → Place → Place → Option (Memory × Place)} {result : Place}
    {held : KeptMembers} (found : current[result]? = some held) {name : String} {kept : Kept}
    (apart : ∀ below, held.lookup name = some (.object below) → ∀ above, kept ≠ .object above) :
    layAt merge result current (name, kept) = some (current.modify result fun held => putKept held name kept) := by
  rw [layAt, found]
  dsimp only
  split
  · rename_i below above holds
    exact absurd rfl (apart below holds above)
  · rfl

/-- Laying a member over the object in the making puts what is laid over the member that
is there. -/
theorem exists_layAt (merges : MergesAt depth)
    (known : ∀ place held, view place = some held → memory[place]? = some held)
    (draft : Draft memory view depth members current) (name : String) {kept : Kept} {value : Json}
    (reads : Reads view depth kept value) :
    ∃ next, layAt (mergeAt depth) memory.length current (name, kept) = some next ∧
      Draft memory view depth (putMember members name (overlay (member? members name) value)) next := by
  rcases draft.reads with ⟨held, found, each⟩
  have seen : Reads (besides view memory.length current) depth kept value :=
    reads.mono (besides_of_view known)
  by_cases both : ∃ below, held.lookup name = some (.object below) ∧ ∃ above, kept = .object above
  · rcases both with ⟨below, holds, above, rfl⟩
    rcases each.lookup name with ⟨absent, _⟩ | ⟨other, inside, alsoHolds, has, readsInside⟩
    · rw [holds] at absent
      cases absent
    · cases holds.symm.trans alsoHolds
      rcases (exists_place_iff readsInside).mp ⟨below, rfl⟩ with ⟨lower, rfl⟩
      rcases (exists_place_iff seen).mp ⟨above, rfl⟩ with ⟨upper, rfl⟩
      rcases merges (known_besides known draft.unchanged) readsInside seen with ⟨after, made, merged⟩
      refine ⟨after.modify memory.length fun held => putKept held name (.object current.length), ?made, ?draft⟩
      case made =>
        rw [layAt, found]
        simp only [holds, made, Option.map_some]
      case draft =>
        rw [has, overlay_object]
        exact draft.write (Nat.le_of_lt merged.longer) merged.unchanged name
          (merged.reads.mono (besides_of_grown draft.longer merged.unchanged))
  · refine ⟨current.modify memory.length fun held => putKept held name kept, layAt_of_apart found ?places, ?draft⟩
    case places =>
      intro below holds above same
      exact both ⟨below, holds, above, same⟩
    case draft =>
      have apart : ∀ lower, member? members name = some (.object lower) → ∀ upper, value ≠ .object upper := by
        intro lower has upper same
        rcases each.lookup name with ⟨_, absent⟩ | ⟨other, inside, holds, alsoHas, readsInside⟩
        · rw [has] at absent
          cases absent
        · cases has.symm.trans alsoHas
          rcases (exists_place_iff readsInside).mpr ⟨lower, rfl⟩ with ⟨below, rfl⟩
          exact both ⟨below, holds, (exists_place_iff reads).mpr ⟨upper, same⟩⟩
      rw [overlay_of_apart apart]
      exact draft.write (Nat.le_refl _) (fun _ _ => rfl) name seen

/-- The members of the upper object are laid over the object in the making, one after
another. -/
theorem exists_layEach (merges : MergesAt depth)
    (known : ∀ place held, view place = some held → memory[place]? = some held) {slots : KeptMembers}
    {upper : Members} (reads : ReadsMembers view depth slots upper)
    (draft : Draft memory view depth members current) :
    ∃ final, slots.foldlM (layAt (mergeAt depth) memory.length) current = some final ∧
      Draft memory view depth (merge members upper) final := by
  induction reads generalizing members current with
  | nil => exact ⟨current, rfl, by rwa [merge_nil]⟩
  | @cons slot member slots upper both _ inductionHypothesis =>
      rcases slot with ⟨name, kept⟩
      rcases member with ⟨also, value⟩
      rcases both with ⟨same, inside⟩
      cases (same : name = also)
      rcases exists_layAt merges known draft name inside with ⟨next, laid, nextDraft⟩
      rcases inductionHypothesis nextDraft with ⟨final, others, finalDraft⟩
      refine ⟨final, ?_, ?_⟩
      · rw [List.foldlM_cons, laid]
        exact others
      · rw [merge]
        exact finalDraft

/-- The copy of the lower object, before anything is laid over it. -/
theorem draft_copy (known : ∀ place held, view place = some held → memory[place]? = some held)
    {held : KeptMembers} (reads : ReadsMembers view depth held members) :
    Draft memory view depth members (memory ++ [held]) where
  longer := by
    rw [List.length_append]
    exact Nat.lt_succ_self _
  unchanged := fun place below => List.getElem?_append_left below
  reads := ⟨held, List.getElem?_concat_length, reads.mono (besides_of_view known)⟩

end Making

/-- Objects of any depth are merged as trees are. -/
theorem mergesAt (depth : Nat) : MergesAt depth := by
  induction depth with
  | zero =>
      intro memory view base update lower upper _ reads
      exact reads.elim
  | succ depth merges =>
      intro memory view base update lower upper known ofBase ofUpdate
      rcases ofBase with ⟨held, _, atBase, ⟨⟩, readsLower⟩
      rcases ofUpdate with ⟨slots, _, atUpdate, ⟨⟩, readsUpper⟩
      rcases exists_layEach merges known readsUpper (draft_copy known readsLower) with ⟨after, made, draft⟩
      rcases draft.reads with ⟨result, found, each⟩
      refine ⟨after, ?_, draft.longer, draft.unchanged, result, _, ?_, rfl, each.mono ?_⟩
      · rw [mergeAt, known base held atBase, known update slots atUpdate]
        dsimp only
        rw [made, Option.map_some]
      · rw [grown, if_neg (Nat.lt_irrefl _)]
        exact found
      · intro place seen looked
        rw [besides] at looked
        split at looked
        · cases looked
        · exact looked

def Memory.view (memory : Memory) : Place → Option KeptMembers := fun place =>
  memory[place]?

/-- Merging makes an object that reads as the merged tree, and keeps every object that
was there. -/
theorem exists_mergeAt {memory : Memory} {depth : Nat} {base update : Place} {lower upper : Members}
    (ofBase : Reads memory.view depth (.object base) (.object lower))
    (ofUpdate : Reads memory.view depth (.object update) (.object upper)) :
    ∃ after result, mergeAt depth memory base update = some (after, result) ∧
      (∀ place held, memory.view place = some held → after.view place = some held) ∧
      Reads after.view depth (.object result) (.object (merge lower upper)) := by
  rcases mergesAt depth (fun _ _ found => found) ofBase ofUpdate with ⟨after, made, merged⟩
  have kept : ∀ place held, memory.view place = some held → after.view place = some held := by
    intro place held found
    rw [Memory.view, merged.unchanged place (lt_length_of_getElem? found)]
    exact found
  refine ⟨after, memory.length, made, kept, merged.reads.mono ?_⟩
  intro place held found
  rw [grown] at found
  split at found
  · exact kept place held found
  · exact found

/-!
## Laws of merging

What is laid over an object once is there already when it is laid over it again, so that
merging an object twice, or with itself, changes nothing.  An object without members
changes nothing on either side.  These are equations between lists of members, so that
they are about the order of the members, too.

The main statement tells, for every path of names, what a merged object has at its end,
by what the two objects have there.  It also says that merging leaves both objects as
they were, where objects are kept at places and shared.

The names of each object have to be distinct, as they are in every object that is read.
-/

/-! ### Members that are there already -/

/-- A member is found by its name where no other has it. -/
theorem member?_of_mem {members : Members} (distinct : DistinctMembers members) {name : String}
    {value : Json} (listed : (name, value) ∈ members) : member? members name = some value := by
  induction members with
  | nil => cases listed
  | cons held rest inductionHypothesis =>
      rcases held with ⟨first, kept⟩
      rw [DistinctMembers] at distinct
      rcases distinct with ⟨fresh, _, others⟩
      rw [member?_cons]
      rcases List.mem_cons.mp listed with here | behind
      · cases here
        exact if_pos rfl
      · have apart : name ≠ first := by
          intro same
          apply fresh
          rw [← same]
          exact List.mem_map_of_mem behind
        rw [if_neg apart]
        exact inductionHypothesis others behind

/-- Putting what is there changes nothing. -/
theorem putMember_of_member? {members : Members} {name : String} {value : Json}
    (found : member? members name = some value) : putMember members name value = members := by
  induction members with
  | nil => cases found
  | cons held rest inductionHypothesis =>
      rcases held with ⟨first, kept⟩
      rw [member?_cons] at found
      rw [putMember]
      by_cases here : first = name
      · rw [if_pos here.symm] at found
        rw [if_pos here, ← Option.some.inj found, here]
      · rw [if_neg (Ne.symm here)] at found
        rw [if_neg here, inductionHypothesis found]

/-- A member with a new name stands behind the others. -/
theorem putMember_of_fresh {members : Members} {name : String} (value : Json)
    (fresh : name ∉ members.map Prod.fst) : putMember members name value = members ++ [(name, value)] := by
  induction members with
  | nil => rfl
  | cons held rest inductionHypothesis =>
      rw [List.map_cons, List.mem_cons, not_or] at fresh
      rw [putMember, if_neg (Ne.symm fresh.1), inductionHypothesis fresh.2, List.cons_append]

/-! ### Nothing below -/

/-- Members with new names stand behind the others, in their own order. -/
theorem merge_of_fresh {lower upper : Members} (distinct : DistinctMembers upper)
    (fresh : ∀ name ∈ upper.map Prod.fst, name ∉ lower.map Prod.fst) : merge lower upper = lower ++ upper := by
  induction upper generalizing lower with
  | nil => rw [merge_nil, List.append_nil]
  | cons held rest inductionHypothesis =>
      rcases held with ⟨name, value⟩
      rw [DistinctMembers] at distinct
      rcases distinct with ⟨unlikeOthers, _, others⟩
      have new : name ∉ lower.map Prod.fst := fresh name List.mem_cons_self
      rw [merge, member?_eq_none new, overlay_none, putMember_of_fresh value new, inductionHypothesis others,
        List.append_assoc]
      · rfl
      · intro other listed
        rw [List.map_append, List.mem_append, not_or]
        refine ⟨fresh other (List.mem_cons_of_mem name listed), ?_⟩
        intro same
        rw [List.mem_singleton.mp same] at listed
        exact unlikeOthers listed

theorem nil_merge {upper : Members} (distinct : DistinctMembers upper) : merge [] upper = upper :=
  merge_of_fresh distinct fun _ _ => List.not_mem_nil

/-- An object that is laid over anything is merged with an object, which is empty where
there was none. -/
theorem exists_overlay_object (below : Option Json) {upper : Members} (distinct : DistinctMembers upper) :
    ∃ members, overlay below (.object upper) = .object (merge members upper) := by
  rw [overlay_object]
  split
  · rename_i members
    exact ⟨members, rfl⟩
  · exact ⟨[], congrArg Json.object (nil_merge distinct).symm⟩

/-! ### Merging again -/

/-- Where every member is there already, so that laying it over what is there changes
nothing, merging changes nothing. -/
theorem merge_of_laid {lower upper : Members}
    (laid : ∀ held ∈ upper, ∃ kept, member? lower held.1 = some kept ∧ overlay (some kept) held.2 = kept) :
    merge lower upper = lower := by
  induction upper with
  | nil => exact merge_nil lower
  | cons held rest inductionHypothesis =>
      rcases held with ⟨name, value⟩
      rcases List.forall_mem_cons.mp laid with ⟨⟨kept, found, same⟩, others⟩
      rw [merge, found, same, putMember_of_member? found]
      exact inductionHypothesis others

/-- If laying each member twice is laying it once, so is merging twice. -/
theorem merge_merge_of_members (lower : Members) {upper : Members} (distinct : DistinctMembers upper)
    (each : ∀ held ∈ upper, ∀ below, overlay (some (overlay below held.2)) held.2 = overlay below held.2) :
    merge (merge lower upper) upper = merge lower upper := by
  apply merge_of_laid
  rintro ⟨name, value⟩ listed
  refine ⟨overlay (member? lower name) value, ?_, each _ listed _⟩
  rw [member?_merge lower distinct, member?_of_mem distinct listed]

mutual

/-- What is laid twice is laid once. -/
theorem overlay_overlay : ∀ {value : Json}, value.Distinct → ∀ below : Option Json,
    overlay (some (overlay below value)) value = overlay below value
  | .object upper, distinct, below => by
      rw [Distinct] at distinct
      rcases exists_overlay_object below distinct with ⟨members, laid⟩
      rw [laid, overlay_object]
      exact congrArg Json.object
        (merge_merge_of_members members distinct (overlay_overlay_members distinct))
  | .null, _, _ => rfl
  | .bool _, _, _ => rfl
  | .integer _, _, _ => rfl
  | .double _, _, _ => rfl
  | .text _, _, _ => rfl
  | .list _, _, _ => rfl

theorem overlay_overlay_members : ∀ {members : List (String × Json)}, DistinctMembers members →
    ∀ held ∈ members, ∀ below, overlay (some (overlay below held.2)) held.2 = overlay below held.2
  | [], _, _, listed, _ => absurd listed List.not_mem_nil
  | (name, value) :: rest, distinct, held, listed, below => by
      rw [DistinctMembers] at distinct
      rcases distinct with ⟨_, inside, others⟩
      rcases List.mem_cons.mp listed with here | behind
      · rw [here]
        exact overlay_overlay inside below
      · exact overlay_overlay_members others held behind below

end

theorem merge_merge (lower : Members) {upper : Members} (distinct : DistinctMembers upper) :
    merge (merge lower upper) upper = merge lower upper :=
  merge_merge_of_members lower distinct (overlay_overlay_members distinct)

theorem merge_self {members : Members} (distinct : DistinctMembers members) : merge members members = members := by
  have again := merge_merge [] distinct
  rwa [nil_merge distinct] at again

/-! ### Path by path -/

/-- What a merged object has at the end of a path, by what the two objects have there. -/
structure MergesAlong (lower upper merged : Members) (path : List String) : Prop where
  /-- Anything but an object is taken from the upper object. -/
  replaced : ∀ value, valueAt? upper path = some value → (∀ members, value ≠ .object members) →
    valueAt? merged path = some value
  /-- Two objects are merged. -/
  both : ∀ below above, valueAt? lower path = some (.object below) → valueAt? upper path = some (.object above) →
    valueAt? merged path = some (.object (merge below above))
  /-- An object replaces anything else. -/
  added : ∀ above, valueAt? upper path = some (.object above) →
    (∀ below, valueAt? lower path ≠ some (.object below)) → valueAt? merged path = some (.object above)
  /-- What lies behind something that is no object in the upper object is hidden. -/
  hidden : valueAt? upper path = none → (∃ front, front <+: path ∧ front ≠ path ∧ Obstacle upper front) →
    valueAt? merged path = none
  /-- Everything else is kept. -/
  kept : valueAt? upper path = none → (¬∃ front, front <+: path ∧ front ≠ path ∧ Obstacle upper front) →
    valueAt? merged path = valueAt? lower path

theorem mergesAlong (lower : Members) {upper : Members} (distinct : DistinctMembers upper) {path : List String}
    (named : path ≠ []) : MergesAlong lower upper (merge lower upper) path := by
  have told := valueAt?_merge lower distinct named
  constructor
  case replaced =>
    intro value found apart
    rw [told, found]
    exact congrArg some (overlay_of_apart fun _ _ upper => apart upper)
  case both =>
    intro below above ofLower ofUpper
    rw [told, ofUpper, ofLower]
    exact congrArg some (overlay_object _ above)
  case added =>
    intro above ofUpper apart
    rw [told, ofUpper]
    exact congrArg some (overlay_of_apart fun below ofLower => absurd ofLower (apart below))
  case hidden =>
    intro missing stops
    rw [told, missing]
    exact if_pos ((blocked_iff upper path).mpr stops)
  case kept =>
    intro missing clear
    rw [told, missing]
    exact if_neg fun stops => clear ((blocked_iff upper path).mp stops)

/-- Merging two objects, path by path.  It is idempotent in both senses, the empty object
is neutral on both sides, and where the two objects are kept at places, they are still
there afterwards, as is everything else, while the new object reads as the merged one. -/
theorem merge_path_by_path {lower upper : Members} (ofLower : DistinctMembers lower)
    (ofUpper : DistinctMembers upper) :
    (∀ path, path ≠ [] → MergesAlong lower upper (merge lower upper) path) ∧
    (merge lower lower = lower ∧ merge (merge lower upper) upper = merge lower upper) ∧
    (merge lower [] = lower ∧ merge [] upper = upper) ∧
    ∀ (memory : Memory) (depth : Nat) (base update : Place),
      Reads memory.view depth (.object base) (.object lower) →
      Reads memory.view depth (.object update) (.object upper) →
      ∃ after result, mergeAt depth memory base update = some (after, result) ∧
        (∀ place held, memory.view place = some held → after.view place = some held) ∧
        Reads after.view depth (.object base) (.object lower) ∧
        Reads after.view depth (.object update) (.object upper) ∧
        Reads after.view depth (.object result) (.object (merge lower upper)) := by
  refine ⟨fun path named => mergesAlong lower ofUpper named, ⟨merge_self ofLower, merge_merge lower ofUpper⟩,
    ⟨merge_nil lower, nil_merge ofUpper⟩, ?_⟩
  intro memory depth base update atBase atUpdate
  rcases exists_mergeAt atBase atUpdate with ⟨after, result, made, kept, reads⟩
  exact ⟨after, result, made, kept, atBase.mono kept, atUpdate.mono kept, reads⟩

/-! ### An object inside an object -/

/-- Two words of a console, one of them inside an object. -/
def spoken : Members :=
  [("cli", .object [("bye", .text "Bye"), ("hello", .text "Hello")]), ("count", .integer 1)]

/-- The second object takes one of them back. -/
def withdrawn : Members :=
  [("cli", .object [("bye", .null)]), ("more", .object [])]

/-- The two objects at places of their own, each behind the object inside it. -/
def spokenMemory : Memory :=
  [[("bye", .value (.text "Bye")), ("hello", .value (.text "Hello"))],
   [("cli", .object 0), ("count", .value (.integer 1))],
   [("bye", .value .null)], [],
   [("cli", .object 2), ("more", .object 3)]]

theorem spoken_merged :
    valueAt? (merge spoken withdrawn) ["cli", "bye"] = some .null ∧
    valueAt? (merge spoken withdrawn) ["cli", "hello"] = some (.text "Hello") ∧
    ∃ after result, mergeAt 2 spokenMemory 1 4 = some (after, result) ∧
      Reads after.view 2 (.object 1) (.object spoken) ∧
      Reads after.view 2 (.object result) (.object (merge spoken withdrawn)) := by
  have ofSpoken : DistinctMembers spoken := by
    simp [spoken, DistinctMembers, Distinct]
  have ofWithdrawn : DistinctMembers withdrawn := by
    simp [withdrawn, DistinctMembers, Distinct]
  rcases merge_path_by_path ofSpoken ofWithdrawn with ⟨paths, _, _, shared⟩
  have clear : ¬∃ front, front <+: ["cli", "hello"] ∧ front ≠ ["cli", "hello"] ∧ Obstacle withdrawn front := by
    rw [← blocked_iff]
    exact Bool.false_ne_true
  have base : Reads spokenMemory.view 2 (.object 1) (.object spoken) := by
    have inside : Reads spokenMemory.view 1 (.object 0) (.object [("bye", .text "Bye"), ("hello", .text "Hello")]) :=
      ⟨_, _, rfl, rfl, .cons ⟨rfl, rfl, nofun⟩ (.cons ⟨rfl, rfl, nofun⟩ .nil)⟩
    exact ⟨_, _, rfl, rfl, .cons ⟨rfl, inside⟩ (.cons ⟨rfl, rfl, nofun⟩ .nil)⟩
  have update : Reads spokenMemory.view 2 (.object 4) (.object withdrawn) := by
    have inside : Reads spokenMemory.view 1 (.object 2) (.object [("bye", .null)]) :=
      ⟨_, _, rfl, rfl, .cons ⟨rfl, rfl, nofun⟩ .nil⟩
    have empty : Reads spokenMemory.view 1 (.object 3) (.object []) := ⟨_, _, rfl, rfl, .nil⟩
    exact ⟨_, _, rfl, rfl, .cons ⟨rfl, inside⟩ (.cons ⟨rfl, empty⟩ .nil)⟩
  rcases shared spokenMemory 2 1 4 base update with ⟨after, result, made, _, spokenStill, _, reads⟩
  exact ⟨(paths _ (List.cons_ne_nil _ _)).replaced .null rfl nofun,
    (paths _ (List.cons_ne_nil _ _)).kept rfl clear, after, result, made, spokenStill, reads⟩

end Messages
end GameNight
