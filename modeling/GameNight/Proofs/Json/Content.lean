import GameNight.Json
import GameNight.Messages.Catalogue

namespace GameNight
namespace Json

open Text

/-!
# JSON that has been read

Objects that have been read have no two members of one name, and the bytes of a file hold
one value at most.
-/

/-!
## The members of an object

An object is a list of members, and a list could hold two with one name.  The
objects that are read from a text do not: a second value for a name takes the
place of the first, in the outer object and in all those inside it.  Objects
within a list are left out here, because no name leads to them.
-/

theorem member?_cons (name : String) (value : Json) (rest : Members) (other : String) :
    member? ((name, value) :: rest) other =
      if other = name then some value else member? rest other := by
  rw [member?, List.lookup_cons]
  by_cases same : other = name
  · rw [if_pos same, beq_iff_eq.mpr same]
  · rw [if_neg same, beq_eq_false_iff_ne.mpr same]
    rfl

/-- A member that is put is found under its name, and hides no other. -/
theorem member?_putMember (members : Members) (name : String) (value : Json) (other : String) :
    member? (putMember members name value) other =
      if other = name then some value else member? members other := by
  induction members with
  | nil => rw [putMember, member?_cons]
  | cons held rest inductionHypothesis =>
      rcases held with ⟨first, kept⟩
      rw [putMember, member?_cons]
      by_cases here : first = name
      · rw [if_pos here, member?_cons, here]
        by_cases same : other = name
        · rw [if_pos same, if_pos same]
        · rw [if_neg same, if_neg same, if_neg same]
      · rw [if_neg here, member?_cons, inductionHypothesis]
        by_cases atFirst : other = first
        · have apart : other ≠ name := fun same => here (atFirst.symm.trans same)
          rw [if_pos atFirst, if_neg apart, if_pos atFirst]
        · rw [if_neg atFirst, if_neg atFirst]

mutual

/-- Whether no object has two members with one name. -/
def Distinct : Json → Prop
  | .object members => DistinctMembers members
  | _ => True

def DistinctMembers : List (String × Json) → Prop
  | [] => True
  | (name, value) :: rest => name ∉ rest.map Prod.fst ∧ Distinct value ∧ DistinctMembers rest

end

@[simp] theorem distinctMembers_nil : DistinctMembers [] := by
  rw [DistinctMembers]
  trivial

theorem member?_eq_none {members : Members} {name : String} (absent : name ∉ members.map Prod.fst) :
    member? members name = none := by
  rw [member?, List.lookup_eq_none_iff]
  intro held member
  rw [bne_iff_ne]
  intro same
  exact absent (List.mem_map.mpr ⟨held, member, same.symm⟩)

theorem distinct_of_member {members : Members} {name : String} {value : Json}
    (distinct : DistinctMembers members) (found : member? members name = some value) :
    Distinct value := by
  induction members with
  | nil => cases found
  | cons held rest inductionHypothesis =>
      rcases held with ⟨first, kept⟩
      rw [DistinctMembers] at distinct
      rw [member?_cons] at found
      split at found
      · rw [← Option.some.inj found]
        exact distinct.2.1
      · exact inductionHypothesis distinct.2.2 found

/-- Putting a member adds its name and no other. -/
theorem mem_names_putMember {members : Members} {name other : String} {value : Json}
    (listed : other ∈ (putMember members name value).map Prod.fst) :
    other = name ∨ other ∈ members.map Prod.fst := by
  induction members with
  | nil => exact Or.inl (List.mem_singleton.mp listed)
  | cons held rest inductionHypothesis =>
      rw [putMember] at listed
      split at listed
      · rcases List.mem_cons.mp listed with same | behind
        · exact Or.inl same
        · exact Or.inr (List.mem_cons_of_mem _ behind)
      · rcases List.mem_cons.mp listed with same | behind
        · exact Or.inr (same ▸ List.mem_cons_self)
        · rcases inductionHypothesis behind with same | before
          · exact Or.inl same
          · exact Or.inr (List.mem_cons_of_mem _ before)

theorem distinctMembers_putMember {members : Members} (name : String) {value : Json}
    (distinct : DistinctMembers members) (inside : Distinct value) :
    DistinctMembers (putMember members name value) := by
  induction members with
  | nil =>
      rw [putMember, DistinctMembers]
      exact ⟨List.not_mem_nil, inside, distinctMembers_nil⟩
  | cons held rest inductionHypothesis =>
      rcases held with ⟨first, kept⟩
      rw [DistinctMembers] at distinct
      rcases distinct with ⟨fresh, keptInside, others⟩
      rw [putMember]
      split
      · rename_i here
        exact ⟨here ▸ fresh, inside, others⟩
      · rename_i elsewhere
        refine ⟨?_, keptInside, inductionHypothesis others⟩
        intro listed
        rcases mem_names_putMember listed with same | before
        · exact elsewhere same
        · exact fresh before

/-! ### What a text holds -/

theorem distinct_wordValue {chars : List Char} {value : Json} {length : Nat}
    (found : wordValue? chars = some (value, length)) : value.Distinct := by
  rcases Option.map_eq_some_iff.mp found with ⟨word, chosen, written⟩
  have listed := List.mem_of_find?_eq_some chosen
  have same : word.2 = value := congrArg Prod.fst written
  rw [← same]
  simp only [wordValues, List.mem_cons, List.not_mem_nil, or_false] at listed
  rcases listed with rfl | rfl | rfl | rfl | rfl | rfl <;> trivial

theorem distinct_readNumber {cursor behind : Cursor} {value : Json}
    (read : readNumber cursor = .ok (value, behind)) : value.Distinct := by
  unfold readNumber at read
  extract_lets sign unsigned whole fraction exponent chars after at read
  clear_value after
  split at read
  · cases read
  · split at read
    · cases digits : Number.readInteger chars with
      | error fault =>
          rw [digits] at read
          cases fault <;> cases read
      | ok number =>
          rw [digits] at read
          cases read
          trivial
    · cases digits : Number.readDouble? chars with
      | none =>
          rw [digits] at read
          cases read
      | some number =>
          rw [digits] at read
          cases read
          trivial

/-- A reader of lists gives a list, whatever stands in it. -/
theorem distinct_readItems {levels fuel : Nat} {done : List Json} {cursor behind : Cursor}
    {value : Json} (read : readItems levels done fuel cursor = .ok (value, behind)) :
    value.Distinct := by
  induction fuel generalizing done cursor with
  | zero => cases read
  | succ fuel inductionHypothesis =>
      rw [readItems] at read
      split at read
      · cases read
      · dsimp only at read
        split at read
        · cases read
          trivial
        · exact inductionHypothesis read
        · cases read

/-- Whether the readers give distinct members with a fuel.  The readers of a value and
of members call each other, so that one induction is about both. -/
structure ReadsDistinct (fuel : Nat) : Prop where
  value : ∀ {levels cursor behind value},
    readValue levels fuel cursor = .ok (value, behind) → value.Distinct
  members : ∀ {levels done cursor behind value}, DistinctMembers done →
    readMembers levels done fuel cursor = .ok (value, behind) → value.Distinct

namespace ReadsDistinct

variable {fuel levels : Nat} {cursor behind : Cursor} {value : Json}

theorem value_succ (shorter : ReadsDistinct fuel)
    (read : readValue levels (fuel + 1) cursor = .ok (value, behind)) : value.Distinct := by
  rw [readValue.eq_def] at read
  dsimp only at read
  split at read
  · cases read
  · split at read
    · cases read
    · cases read
      trivial
  · split at read
    · cases read
    · split at read
      · cases read
        trivial
      · exact shorter.members distinctMembers_nil read
  · split at read
    · cases read
    · split at read
      · cases read
        trivial
      · exact distinct_readItems read
  · split at read
    · rename_i found
      cases read
      exact distinct_wordValue found
    · exact distinct_readNumber read

/-- A member is put among the ones that have been read, and takes the place of one
with its name. -/
theorem members_succ (shorter : ReadsDistinct fuel) {done : Members} (distinct : DistinctMembers done)
    (read : readMembers levels done (fuel + 1) cursor = .ok (value, behind)) : value.Distinct := by
  rw [readMembers] at read
  split at read
  · split at read
    · cases read
    · rename_i name behindName nameRead
      dsimp only at read
      split at read
      · split at read
        · cases read
        · rename_i inside behindValue valueRead
          have put : DistinctMembers (putMember done name inside) :=
            distinctMembers_putMember name distinct (shorter.value valueRead)
          split at read
          · cases read
            exact put
          · exact shorter.members put read
          · cases read
      · cases read
  · cases read

end ReadsDistinct

theorem readsDistinct (fuel : Nat) : ReadsDistinct fuel := by
  induction fuel with
  | zero => exact ⟨fun read => (nomatch read), fun _ read => (nomatch read)⟩
  | succ fuel shorter => exact ⟨shorter.value_succ, shorter.members_succ⟩

/-- No object of a text has two members with one name. -/
theorem distinct_read [Machine] {chars : List Char} {value : Json} (read : Json.read chars = .ok value) :
    value.Distinct := by
  rw [Json.read.eq_def] at read
  split at read
  · cases read
  · split at read
    · cases read
    · split at read
      · cases read
      · rename_i whole _ valueRead
        dsimp only at read
        split at read
        · cases read
          exact (readsDistinct _).value valueRead
        · cases read

/-!
## What the bytes of a file hold

Bytes hold a JSON value if they are its text in UTF-8.  There are two ways of
holding none: the text may break the grammar, which its readers report, or the
bytes may be no UTF-8 or go beyond what can be read, which stops them.
-/

/-- The characters that bytes stand for, with a line feed at the end of lines. -/
def charsOf (bytes : ByteArray) : Except Utf8Fault (List Char) :=
  (decode (Messages.byteList bytes)).map foldNewlines

def Holds [Machine] (bytes : ByteArray) (value : Json) : Prop :=
  ∃ chars, charsOf bytes = .ok chars ∧ Json.read chars = .ok value

/-- Whether bytes are UTF-8 and break the grammar of JSON. -/
def Misspelled [Machine] (bytes : ByteArray) : Prop :=
  ∃ chars fault position,
    charsOf bytes = .ok chars ∧ Json.read chars = .error (.syntaxAt fault position)

/-- The members of the object that bytes hold. -/
def objectIn? [Machine] (bytes : ByteArray) : Option Members :=
  match charsOf bytes with
  | .error _ => none
  | .ok chars =>
    match Json.read chars with
    | .ok (.object members) => some members
    | _ => none

theorem charsOf_eq_error {bytes : ByteArray} {fault : Utf8Fault} :
    charsOf bytes = .error fault ↔ decode (Messages.byteList bytes) = .error fault := by
  rw [charsOf]
  cases decode (Messages.byteList bytes) with
  | error other => exact Iff.rfl
  | ok decoded => exact iff_of_false nofun nofun

theorem charsOf_eq_ok {bytes : ByteArray} {decoded : List Char}
    (read : decode (Messages.byteList bytes) = .ok decoded) :
    charsOf bytes = .ok (foldNewlines decoded) := by
  rw [charsOf, read]
  rfl

theorem objectIn?_of_error [Machine] {bytes : ByteArray} {fault : Utf8Fault}
    (failed : charsOf bytes = .error fault) : objectIn? bytes = none := by
  rw [objectIn?, failed]

theorem objectIn?_of_ok [Machine] {bytes : ByteArray} {chars : List Char}
    (decoded : charsOf bytes = .ok chars) :
    objectIn? bytes =
      match Json.read chars with
      | .ok (.object members) => some members
      | _ => none := by
  rw [objectIn?, decoded]

theorem holds_iff_of_ok [Machine] {bytes : ByteArray} {chars : List Char}
    (decoded : charsOf bytes = .ok chars) {value : Json} :
    Holds bytes value ↔ Json.read chars = .ok value := by
  constructor
  · rintro ⟨others, decodedOther, read⟩
    rw [Except.ok.inj (decoded.symm.trans decodedOther)]
    exact read
  · intro read
    exact ⟨chars, decoded, read⟩

theorem not_holds_of_error [Machine] {bytes : ByteArray} {fault : Utf8Fault}
    (failed : charsOf bytes = .error fault) (value : Json) : ¬Holds bytes value := by
  rintro ⟨chars, decoded, _⟩
  rw [failed] at decoded
  cases decoded

theorem not_misspelled_of_error [Machine] {bytes : ByteArray} {fault : Utf8Fault}
    (failed : charsOf bytes = .error fault) : ¬Misspelled bytes := by
  rintro ⟨chars, _, _, decoded, _⟩
  rw [failed] at decoded
  cases decoded

theorem misspelled_iff_of_ok [Machine] {bytes : ByteArray} {chars : List Char}
    (decoded : charsOf bytes = .ok chars) :
    Misspelled bytes ↔ ∃ fault position, Json.read chars = .error (.syntaxAt fault position) := by
  constructor
  · rintro ⟨others, fault, position, decodedOther, stopped⟩
    rw [Except.ok.inj (decoded.symm.trans decodedOther)]
    exact ⟨fault, position, stopped⟩
  · rintro ⟨fault, position, stopped⟩
    exact ⟨chars, fault, position, decoded, stopped⟩

theorem objectIn?_eq_some [Machine] {bytes : ByteArray} {members : Members} :
    objectIn? bytes = some members ↔ Holds bytes (.object members) := by
  rw [objectIn?, Holds]
  constructor
  · intro found
    split at found
    · cases found
    · rename_i chars decoded
      split at found
      · rename_i held read
        rw [Option.some.inj found] at read
        exact ⟨chars, decoded, read⟩
      · cases found
  · rintro ⟨chars, decoded, read⟩
    rw [decoded]
    dsimp only
    rw [read]

theorem distinct_objectIn? [Machine] {bytes : ByteArray} {members : Members}
    (found : objectIn? bytes = some members) : DistinctMembers members := by
  rcases objectIn?_eq_some.mp found with ⟨chars, _, read⟩
  have distinct := distinct_read read
  rwa [Distinct] at distinct

end Json
end GameNight
