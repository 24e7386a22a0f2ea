import GameNight.Messages.Catalogue
import GameNight.Proofs.Json.Content

namespace GameNight
namespace Messages

open Json

/-!
# What a path leads to in merged trees

Where the upper tree has something at the end of a path, the merged tree has it
there, laid over what the lower one has.  Where it has nothing, the merged tree
has what the lower one has, unless something that is no object stands on the
way in the upper tree.

The names of the upper tree have to be distinct, in every object: a second
member of one name would be laid over the first.
-/

@[simp] theorem overlay_none (value : Json) : overlay none value = value := by
  cases value <;> rw [overlay.eq_def]

/-- An object is merged with an object and replaces anything else. -/
theorem overlay_object (lower : Option Json) (upper : Members) :
    overlay lower (.object upper) =
      match lower with
      | some (.object members) => .object (merge members upper)
      | _ => .object upper :=
  overlay.eq_def lower (.object upper)

/-- Something merged is found by name, and laid over what was there. -/
theorem member?_merge (lower : Members) {upper : Members} (distinct : DistinctMembers upper)
    (name : String) :
    member? (merge lower upper) name =
      match member? upper name with
      | none => member? lower name
      | some value => some (overlay (member? lower name) value) := by
  induction upper generalizing lower with
  | nil => rw [merge_nil]; rfl
  | cons held rest inductionHypothesis =>
      rcases held with ⟨first, kept⟩
      rw [DistinctMembers] at distinct
      rcases distinct with ⟨fresh, inside, others⟩
      rw [merge, inductionHypothesis _ others, member?_putMember, member?_cons]
      by_cases here : name = first
      · rw [if_pos here, if_pos here, here, member?_eq_none fresh]
      · rw [if_neg here, if_neg here]

mutual

theorem distinct_overlay {lower : Option Json}
    (ofLower : ∀ held, lower = some held → held.Distinct) :
    ∀ {value : Json}, value.Distinct → (overlay lower value).Distinct
  | .object upper, distinct => by
      rw [Distinct] at distinct
      rw [overlay_object]
      split
      · have inside := ofLower _ rfl
        rw [Distinct] at inside ⊢
        exact distinctMembers_merge inside distinct
      · exact distinct
  | .null, _ => trivial
  | .bool _, _ => trivial
  | .integer _, _ => trivial
  | .double _, _ => trivial
  | .text _, _ => trivial
  | .list _, _ => trivial

/-- Merging keeps the names of every object distinct. -/
theorem distinctMembers_merge {lower : Members} (ofLower : DistinctMembers lower) :
    ∀ {upper : List (String × Json)}, DistinctMembers upper → DistinctMembers (merge lower upper)
  | [], _ => by rwa [merge_nil]
  | (name, value) :: rest, distinct => by
      rw [DistinctMembers] at distinct
      rcases distinct with ⟨_, inside, others⟩
      have laid : (overlay (member? lower name) value).Distinct :=
        distinct_overlay (fun _ found => distinct_of_member ofLower found) inside
      rw [merge]
      exact distinctMembers_merge (distinctMembers_putMember name ofLower laid) others

end

/-- Whether something that is no object stands on the way that a path leads. -/
def blocked (members : Members) : List String → Bool
  | [] => false
  | [_] => false
  | name :: next :: rest =>
    match member? members name with
    | none => false
    | some (.object inside) => blocked inside (next :: rest)
    | some _ => true

@[simp] theorem valueAt?_singleton (members : Members) (name : String) :
    valueAt? members [name] = member? members name := by
  rw [valueAt?]
  cases member? members name <;> rfl

theorem valueAt?_cons_cons (members : Members) (name next : String) (rest : List String) :
    valueAt? members (name :: next :: rest) =
      match member? members name with
      | some (.object inside) => valueAt? inside (next :: rest)
      | _ => none := by
  rw [valueAt?]
  cases member? members name with
  | none => rfl
  | some value => cases value <;> rfl

theorem blocked_cons_cons (members : Members) (name next : String) (rest : List String) :
    blocked members (name :: next :: rest) =
      match member? members name with
      | none => false
      | some (.object inside) => blocked inside (next :: rest)
      | some _ => true :=
  rfl

/-- Laid over nothing, an object is seen as it is. -/
theorem overlay_none_valueAt? (members : Members) (path : List String) :
    (match valueAt? members path with
      | some reached => some (overlay none reached)
      | none => if blocked members path then none else none) = valueAt? members path := by
  cases valueAt? members path with
  | none => exact ite_self none
  | some reached => exact congrArg some (overlay_none reached)

/-- What a path of names leads to in a merged tree. -/
theorem valueAt?_merge (lower : Members) {upper : Members} (distinct : DistinctMembers upper)
    {path : List String} (named : path ≠ []) :
    valueAt? (merge lower upper) path =
      match valueAt? upper path with
      | some value => some (overlay (valueAt? lower path) value)
      | none => if blocked upper path then none else valueAt? lower path := by
  induction path generalizing lower upper with
  | nil => exact absurd rfl named
  | cons name rest inductionHypothesis =>
      have here := member?_merge lower distinct name
      cases rest with
      | nil =>
          rw [valueAt?_singleton, valueAt?_singleton, valueAt?_singleton, here]
          cases member? upper name <;> rfl
      | cons next others =>
          rw [valueAt?_cons_cons, valueAt?_cons_cons, valueAt?_cons_cons, blocked_cons_cons, here]
          cases found : member? upper name with
          | none => rfl
          | some value =>
              cases value with
              | object inside =>
                  have distinctInside : DistinctMembers inside := distinct_of_member distinct found
                  have deeper (members : Members) :=
                    inductionHypothesis members distinctInside (List.cons_ne_nil next others)
                  -- where the lower tree has no object, nothing lies below this one
                  have alone := (overlay_none_valueAt? inside (next :: others)).symm
                  dsimp only
                  rw [overlay_object]
                  cases member? lower name with
                  | none => exact alone
                  | some held =>
                      cases held with
                      | object members => exact deeper members
                      | _ => exact alone
              | _ => rfl

/-! ## What stands on the way -/

/-- Whether a path leads to something that is no object, so that none goes on
behind it. -/
def Obstacle (members : Members) (path : List String) : Prop :=
  path ≠ [] ∧ ∃ value, valueAt? members path = some value ∧ ∀ inside, value ≠ .object inside

theorem obstacle_singleton (members : Members) (name : String) :
    Obstacle members [name] ↔
      ∃ value, member? members name = some value ∧ ∀ inside, value ≠ .object inside := by
  unfold Obstacle
  rw [valueAt?_singleton]
  exact and_iff_right (List.cons_ne_nil name [])

theorem obstacle_cons_cons (members : Members) (name next : String) (rest : List String) :
    Obstacle members (name :: next :: rest) ↔
      ∃ inside, member? members name = some (.object inside) ∧ Obstacle inside (next :: rest) := by
  unfold Obstacle
  rw [valueAt?_cons_cons, and_iff_right (List.cons_ne_nil name _)]
  constructor
  · rintro ⟨value, leads, apart⟩
    split at leads
    · rename_i inside found
      exact ⟨inside, found, List.cons_ne_nil next rest, value, leads, apart⟩
    · cases leads
  · rintro ⟨inside, found, _, value, leads, apart⟩
    rw [found]
    exact ⟨value, leads, apart⟩

/-- The beginnings of a path are its first name alone, and this name before the
beginnings of the others. -/
theorem exists_obstacle_cons_cons (members : Members) (name next : String) (rest : List String) :
    (∃ front, front <+: name :: next :: rest ∧ front ≠ name :: next :: rest ∧
        Obstacle members front) ↔
      Obstacle members [name] ∨ ∃ inside, member? members name = some (.object inside) ∧
        ∃ front, front <+: next :: rest ∧ front ≠ next :: rest ∧ Obstacle inside front := by
  constructor
  · rintro ⟨front, begins, proper, obstacle⟩
    rcases List.prefix_cons_iff.mp begins with empty | ⟨behind, rfl, continues⟩
    · exact absurd empty obstacle.1
    · cases behind with
      | nil => exact Or.inl obstacle
      | cons first behind =>
          rcases (obstacle_cons_cons members name first behind).mp obstacle with
            ⟨inside, found, further⟩
          refine Or.inr ⟨inside, found, first :: behind, continues, ?_, further⟩
          intro same
          exact proper (congrArg (name :: ·) same)
  · rintro (obstacle | ⟨inside, found, front, begins, proper, obstacle⟩)
    · refine ⟨[name], (List.prefix_cons_inj name).mpr List.nil_prefix, ?_, obstacle⟩
      intro same
      cases (List.cons.inj same).2
    · refine ⟨name :: front, (List.prefix_cons_inj name).mpr begins, ?_, ?_⟩
      · intro same
        exact proper (List.cons.inj same).2
      · rcases List.exists_cons_of_ne_nil obstacle.1 with ⟨first, behind, rfl⟩
        exact (obstacle_cons_cons members name first behind).mpr ⟨inside, found, obstacle⟩

/-- Something is in the way where a proper beginning of the path leads to it. -/
theorem blocked_iff (members : Members) (path : List String) :
    blocked members path = true ↔
      ∃ front, front <+: path ∧ front ≠ path ∧ Obstacle members front := by
  induction path generalizing members with
  | nil =>
      refine iff_of_false Bool.false_ne_true ?_
      rintro ⟨front, begins, proper, _⟩
      exact proper (List.prefix_nil.mp begins)
  | cons name rest inductionHypothesis =>
      cases rest with
      | nil =>
          refine iff_of_false Bool.false_ne_true ?_
          rintro ⟨front, begins, proper, obstacle⟩
          rcases List.prefix_cons_iff.mp begins with empty | ⟨behind, rfl, nothing⟩
          · exact obstacle.1 empty
          · exact proper (congrArg (name :: ·) (List.prefix_nil.mp nothing))
      | cons next others =>
          rw [exists_obstacle_cons_cons, blocked_cons_cons, obstacle_singleton]
          cases member? members name with
          | none => simp
          | some value =>
              cases value with
              | object inside => simp [inductionHypothesis]
              | _ => simp

end Messages
end GameNight
