import GameNight.Proofs.Files.Writing
import GameNight.Proofs.Game.Order
import GameNight.Proofs.Json.Content
import GameNight.Proofs.Messages.Paths
import Mathlib.Data.List.Forall2

namespace GameNight
namespace Messages

open Text Journal Files Json

/-!
# Message files that are loaded

Which directories of message files can be loaded, what is reported of them, and what is
left without the files that hold no object.
-/

/-!
## Loading a catalogue

A message file does one of three things: its members are merged, it is reported
and left out, or it stops the loading.  This says of a directory, and of the
directories of a locale, when they can be loaded, what is reported, and that the
names of what has been loaded are distinct.
-/

/-- The path of a file in a directory. -/
def fileIn (directory : Path) (name : String) : Path :=
  { directory with parts := directory.parts ++ [name] }

/-- The members of the object that a file of a directory holds. -/
def objectOf? [Machine] (store : Store) (directory : Path) (name : String) : Option Members :=
  match store.read (fileIn directory name) with
  | .error _ => none
  | .ok bytes => objectIn? bytes

/-- Whether a file does not stop the loading: if it can be opened, it holds an
object, or is UTF-8 and breaks the grammar. -/
def Passable [Machine] (store : Store) (directory : Path) (name : String) : Prop :=
  ∀ bytes, store.read (fileIn directory name) = .ok bytes →
    (∃ members, objectIn? bytes = some members) ∨ Misspelled bytes

theorem passable_of_error [Machine] {store : Store} {directory : Path} {name : String} {fault : Files.Fault}
    (closed : store.read (fileIn directory name) = .error fault) :
    Passable store directory name := by
  intro bytes opened
  rw [closed] at opened
  cases opened

theorem passable_of_object [Machine] {store : Store} {directory : Path} {name : String} {members : Members}
    (object : objectOf? store directory name = some members) : Passable store directory name := by
  intro bytes opened
  rw [objectOf?, opened] at object
  exact Or.inl ⟨members, object⟩

theorem passable_iff_of_ok [Machine] {store : Store} {directory : Path} {name : String} {bytes : ByteArray}
    (opened : store.read (fileIn directory name) = .ok bytes) :
    Passable store directory name ↔
      (∃ members, objectIn? bytes = some members) ∨ Misspelled bytes := by
  constructor
  · intro passable
    exact passable bytes opened
  · intro either other openedOther
    rw [← Except.ok.inj (opened.symm.trans openedOther)]
    exact either

/-- All that reading a message file can do. -/
theorem readFile_cases [Machine] (store : Store) (directory : Path) (name : String) :
    (Passable store directory name ∧
      ∃ members, objectOf? store directory name = some members ∧
        readFile store directory name = .quiet (.ok members)) ∨
    (Passable store directory name ∧ objectOf? store directory name = none ∧
      ∃ wording, readFile store directory name = leftOut name wording) ∨
    (¬Passable store directory name ∧ objectOf? store directory name = none ∧
      ∃ fault, readFile store directory name = .quiet (.error fault)) := by
  have path : fileIn directory name = { directory with parts := directory.parts ++ [name] } := rfl
  rw [readFile, objectOf?]
  dsimp only
  rw [← path]
  cases opened : store.read (fileIn directory name) with
  | error fault =>
      have passable := passable_of_error opened
      cases fault with
      | refused refusal => exact Or.inr (Or.inl ⟨passable, rfl, _, rfl⟩)
      | embeddedNul => exact Or.inr (Or.inl ⟨passable, rfl, _, rfl⟩)
  | ok bytes =>
      rw [passable_iff_of_ok opened]
      dsimp only
      cases decoded : decode (byteList bytes) with
      | error fault =>
          have failed := charsOf_eq_error.mpr decoded
          rw [objectIn?_of_error failed]
          refine Or.inr (Or.inr ⟨?_, rfl, _, rfl⟩)
          rintro (⟨members, found⟩ | misspelled)
          · cases found
          · exact not_misspelled_of_error failed misspelled
      | ok taken =>
          have chars := charsOf_eq_ok decoded
          rw [objectIn?_of_ok chars, misspelled_iff_of_ok chars]
          dsimp only
          cases Json.read (foldNewlines taken) with
          | error fault =>
              cases fault with
              | syntaxAt fault position =>
                  exact Or.inr (Or.inl ⟨Or.inr ⟨fault, position, rfl⟩, rfl, _, rfl⟩)
              | tooManyDigits digits => exact Or.inr (Or.inr ⟨by simp, rfl, _, rfl⟩)
              | tooDeep container => exact Or.inr (Or.inr ⟨by simp, rfl, _, rfl⟩)
          | ok value =>
              cases value with
              | object members => exact Or.inl ⟨Or.inl ⟨members, rfl⟩, members, rfl, rfl⟩
              | _ => exact Or.inr (Or.inr ⟨by simp, rfl, _, rfl⟩)

/-- A record that reports a message file as left out. -/
def Reports (name : String) (record : Record) : Prop :=
  ∃ wording, record =
    ⟨.error, speaker, "Error loading i18n file " ++ name ++ ": " ++ wording⟩

/-- A file that does not stop the loading gives its members, or is reported and
gives none. -/
theorem readFile_of_passable [Machine] {store : Store} {directory : Path} {name : String}
    (passable : Passable store directory name) :
    (readFile store directory name).value = .ok ((objectOf? store directory name).getD []) ∧
      List.Forall₂ Reports ([name].filter fun name => (objectOf? store directory name).isNone)
        (readFile store directory name).records := by
  rw [List.filter_singleton]
  rcases readFile_cases store directory name with
    ⟨_, members, object, outcome⟩ | ⟨_, nothing, wording, outcome⟩ | ⟨stops, _⟩
  · rw [object, outcome]
    exact ⟨rfl, List.Forall₂.nil⟩
  · rw [nothing, outcome]
    exact ⟨rfl, List.Forall₂.cons ⟨wording, rfl⟩ List.Forall₂.nil⟩
  · exact absurd passable stops

theorem readFile_of_not_passable [Machine] {store : Store} {directory : Path} {name : String}
    (stops : ¬Passable store directory name) :
    ∃ fault, (readFile store directory name).value = .error fault := by
  rcases readFile_cases store directory name with
    ⟨passable, _⟩ | ⟨passable, _⟩ | ⟨_, _, fault, outcome⟩
  · exact absurd passable stops
  · exact absurd passable stops
  · exact ⟨fault, congrArg Logged.value outcome⟩

/-! ### The files of a directory -/

theorem readFiles_of_passable [Machine] {store : Store} {directory : Path} {names : List String}
    (passable : ∀ name ∈ names, Passable store directory name) (tree : Members) :
    (readFiles store directory tree names).value =
        .ok ((names.filterMap (objectOf? store directory)).foldl merge tree) ∧
      List.Forall₂ Reports (names.filter fun name => (objectOf? store directory name).isNone)
        (readFiles store directory tree names).records := by
  induction names generalizing tree with
  | nil => exact ⟨rfl, List.Forall₂.nil⟩
  | cons name rest inductionHypothesis =>
      rw [List.forall_mem_cons] at passable
      rcases readFile_of_passable passable.1 with ⟨value, records⟩
      have others := inductionHypothesis passable.2
        (merge tree ((objectOf? store directory name).getD []))
      rw [readFiles, Logged.value_andThen, Logged.records_andThen, value]
      dsimp only
      refine ⟨?_, ?_⟩
      · rw [others.1, List.filterMap_cons]
        cases objectOf? store directory name with
        | none =>
            dsimp only [Option.getD_none]
            rw [merge_nil]
        | some members => rfl
      · rw [← List.singleton_append, List.filter_append]
        exact List.rel_append records others.2

theorem readFiles_of_not_passable [Machine] {store : Store} {directory : Path} {names : List String}
    (stops : ∃ name ∈ names, ¬Passable store directory name) (tree : Members) :
    ∃ fault, (readFiles store directory tree names).value = .error fault := by
  induction names generalizing tree with
  | nil =>
      rcases stops with ⟨name, listed, _⟩
      cases listed
  | cons name rest inductionHypothesis =>
      rw [readFiles, Logged.value_andThen]
      by_cases passable : Passable store directory name
      · rw [(readFile_of_passable passable).1]
        apply inductionHypothesis
        rcases stops with ⟨other, listed, stops⟩
        rcases List.mem_cons.mp listed with rfl | behind
        · exact absurd passable stops
        · exact ⟨other, behind, stops⟩
      · rcases readFile_of_not_passable passable with ⟨fault, failed⟩
        rw [failed]
        exact ⟨fault, rfl⟩

/-- The files of a directory; a directory that is missing has none. -/
def filesIn (store : Store) (directory : Path) : List String :=
  match store.isDirectory directory with
  | .ok true => messageFiles store directory
  | _ => []

/-- Whether a directory can be loaded: it can be looked up, and none of its files
stops the loading. -/
structure Loadable [Machine] (store : Store) (directory : Path) : Prop where
  known : ∃ found, store.isDirectory directory = .ok found
  passable : ∀ name ∈ filesIn store directory, Passable store directory name

theorem loadable_of_objects [Machine] {store : Store} {directory : Path}
    (known : ∃ found, store.isDirectory directory = .ok found)
    (objects : ∀ name ∈ filesIn store directory,
      ∃ members, objectOf? store directory name = some members) :
    Loadable store directory := by
  refine ⟨known, fun name listed => ?_⟩
  rcases objects name listed with ⟨members, object⟩
  exact passable_of_object object

/-- The files of a directory that hold no object. -/
def brokenIn [Machine] (store : Store) (directory : Path) : List String :=
  (filesIn store directory).filter fun name => (objectOf? store directory name).isNone

/-- The objects of a directory, merged one after another. -/
def treeOf [Machine] (store : Store) (directory : Path) : Members :=
  ((filesIn store directory).filterMap (objectOf? store directory)).foldl merge []

theorem readDirectory_of_loadable [Machine] {store : Store} {directory : Path}
    (loadable : Loadable store directory) :
    (readDirectory store directory).value = .ok (treeOf store directory) ∧
      List.Forall₂ Reports (brokenIn store directory) (readDirectory store directory).records := by
  rcases loadable with ⟨⟨found, known⟩, passable⟩
  rw [filesIn, known] at passable
  rw [readDirectory, treeOf, brokenIn, filesIn, known]
  cases found with
  | true => exact readFiles_of_passable passable []
  | false => exact ⟨rfl, List.Forall₂.nil⟩

theorem readDirectory_of_not_loadable [Machine] {store : Store} {directory : Path}
    (stops : ¬Loadable store directory) :
    ∃ fault, (readDirectory store directory).value = .error fault := by
  rw [readDirectory]
  cases known : store.isDirectory directory with
  | error refusal => exact ⟨_, rfl⟩
  | ok found =>
      have someStops : ∃ name ∈ filesIn store directory, ¬Passable store directory name := by
        by_contra none
        apply stops
        refine ⟨⟨found, known⟩, fun name listed => ?_⟩
        by_contra blocks
        exact none ⟨name, listed, blocks⟩
      rw [filesIn, known] at someStops
      cases found with
      | true => exact readFiles_of_not_passable someStops []
      | false =>
          rcases someStops with ⟨name, listed, _⟩
          cases listed

/-- The names of what has been loaded are distinct. -/
theorem distinctMembers_treeOf [Machine] (store : Store) (directory : Path) :
    DistinctMembers (treeOf store directory) := by
  have objects : ∀ members ∈ (filesIn store directory).filterMap (objectOf? store directory),
      DistinctMembers members := by
    intro members listed
    rcases List.mem_filterMap.mp listed with ⟨name, _, found⟩
    rw [objectOf?] at found
    split at found
    · cases found
    · exact distinct_objectIn? found
  rw [treeOf]
  exact List.foldlRecOn _ merge distinctMembers_nil fun tree distinct members listed =>
    distinctMembers_merge distinct (objects members listed)

/-! ### The directories of a locale -/

/-- The directories that messages are loaded from, in order. -/
def directoriesOf (root : Path) (locale : String) : List Path :=
  if locale = english then [root, localeDirectory root english]
  else [root, localeDirectory root english, localeDirectory root locale]

/-- The English messages, over the shared ones. -/
def englishTree [Machine] (store : Store) (root : Path) : Members :=
  merge (treeOf store root) (treeOf store (localeDirectory root english))

def localeTree [Machine] (store : Store) (root : Path) (locale : String) : Members :=
  if locale = english then englishTree store root
  else merge (englishTree store root) (treeOf store (localeDirectory root locale))

theorem loadEnglish_of_loadable [Machine] {store : Store} {root : Path} (shared : Loadable store root)
    (behind : Loadable store (localeDirectory root english)) :
    (loadEnglish store root).value = .ok (englishTree store root) ∧
      List.Forall₂ Reports (brokenIn store root ++ brokenIn store (localeDirectory root english))
        (loadEnglish store root).records := by
  rcases readDirectory_of_loadable shared with ⟨sharedValue, sharedRecords⟩
  rcases readDirectory_of_loadable behind with ⟨behindValue, behindRecords⟩
  rw [loadEnglish, Logged.value_andThen, Logged.records_andThen, sharedValue]
  dsimp only
  rw [Logged.value_andThen, Logged.records_andThen, behindValue]
  dsimp only
  rw [Logged.records_quiet, List.append_nil]
  exact ⟨rfl, List.rel_append sharedRecords behindRecords⟩

theorem loadEnglish_of_not_loadable [Machine] {store : Store} {root : Path}
    (stops : ¬(Loadable store root ∧ Loadable store (localeDirectory root english))) :
    ∃ fault, (loadEnglish store root).value = .error fault := by
  rw [loadEnglish, Logged.value_andThen]
  by_cases shared : Loadable store root
  · have behind : ¬Loadable store (localeDirectory root english) := fun also => stops ⟨shared, also⟩
    rcases readDirectory_of_not_loadable behind with ⟨fault, failed⟩
    rw [(readDirectory_of_loadable shared).1]
    dsimp only
    rw [Logged.value_andThen, failed]
    exact ⟨fault, rfl⟩
  · rcases readDirectory_of_not_loadable shared with ⟨fault, failed⟩
    rw [failed]
    exact ⟨fault, rfl⟩

/-- Apart from the records, loading a locale looks at its directory only by
reading it. -/
theorem load_value [Machine] (store : Store) (root : Path) (locale : String) :
    (load store root locale).value =
      match (loadEnglish store root).value with
      | .error fault => .error fault
      | .ok fallback =>
        if locale = english then .ok ⟨fallback⟩
        else
          match (readDirectory store (localeDirectory root locale)).value with
          | .error fault => .error fault
          | .ok members => .ok ⟨merge fallback members⟩ := by
  rw [load, Logged.value_andThen]
  cases (loadEnglish store root).value with
  | error fault => rfl
  | ok fallback =>
      dsimp only
      by_cases same : locale = english
      · rw [if_pos same, if_pos same]
        rfl
      · rw [if_neg same, if_neg same]
        cases known : store.isDirectory (localeDirectory root locale) with
        | error refusal =>
            rw [readDirectory, known]
            rfl
        | ok found =>
            dsimp only
            rw [Logged.value_andThen, Logged.value_andThen]
            cases (readDirectory store (localeDirectory root locale)).value <;> rfl

theorem filter_error_of_reports {names : List String} {records : List Record}
    (reports : List.Forall₂ Reports names records) :
    (records.filter fun record => record.level = Level.error) = records := by
  induction reports with
  | nil => rfl
  | cons report _ inductionHypothesis =>
      rcases report with ⟨wording, rfl⟩
      rw [List.filter_cons, if_pos (by rfl), inductionHypothesis]

theorem forall_mem_directoriesOf {root : Path} {locale : String} {holds : Path → Prop} :
    (∀ directory ∈ directoriesOf root locale, holds directory) ↔
      (holds root ∧ holds (localeDirectory root english)) ∧
        (locale ≠ english → holds (localeDirectory root locale)) := by
  rw [directoriesOf]
  split
  · rename_i same
    simp [same]
  · rename_i different
    simp [different, and_assoc]

/-- A locale is loaded if all of its directories can be. -/
theorem load_of_loadable [Machine] {store : Store} {root : Path} {locale : String}
    (loadable : ∀ directory ∈ directoriesOf root locale, Loadable store directory) :
    (load store root locale).value = .ok ⟨localeTree store root locale⟩ ∧
      List.Forall₂ Reports ((directoriesOf root locale).flatMap (brokenIn store))
        ((load store root locale).records.filter fun record => record.level = Level.error) := by
  rcases forall_mem_directoriesOf.mp loadable with ⟨⟨shared, behind⟩, own⟩
  rcases loadEnglish_of_loadable shared behind with ⟨value, records⟩
  refine ⟨?_, ?_⟩
  · rw [load_value, value, localeTree]
    dsimp only
    by_cases same : locale = english
    · rw [if_pos same, if_pos same]
    · rw [if_neg same, if_neg same, (readDirectory_of_loadable (own same)).1]
  · rw [load, Logged.records_andThen, value, directoriesOf, List.filter_append,
      filter_error_of_reports records]
    dsimp only
    by_cases same : locale = english
    · rw [if_pos same, if_pos same]
      simpa using records
    · rcases readDirectory_of_loadable (own same) with ⟨ownValue, ownRecords⟩
      rcases (own same).known with ⟨found, known⟩
      rw [if_neg same, if_neg same, known]
      dsimp only
      rw [Logged.records_andThen, Logged.records_andThen, ownValue, List.filter_append]
      have noError : ((if found then [] else [missingLocale locale]).filter
          fun record => record.level = Level.error) = [] := by
        cases found <;> rfl
      have files : [root, localeDirectory root english, localeDirectory root locale].flatMap
          (brokenIn store) = brokenIn store root ++ brokenIn store (localeDirectory root english) ++
            brokenIn store (localeDirectory root locale) := by
        simp
      dsimp only
      rw [noError, Logged.records_quiet, List.append_nil, filter_error_of_reports ownRecords, files,
        List.nil_append]
      exact List.rel_append records ownRecords

/-- A locale is not loaded if one of its directories cannot be. -/
theorem load_of_not_loadable [Machine] {store : Store} {root : Path} {locale : String}
    (stops : ¬∀ directory ∈ directoriesOf root locale, Loadable store directory) :
    ∃ fault, (load store root locale).value = .error fault := by
  rw [forall_mem_directoriesOf] at stops
  rw [load_value]
  by_cases first : Loadable store root ∧ Loadable store (localeDirectory root english)
  · have different : locale ≠ english := fun same => stops ⟨first, fun other => absurd same other⟩
    have own : ¬Loadable store (localeDirectory root locale) :=
      fun also => stops ⟨first, fun _ => also⟩
    rcases readDirectory_of_not_loadable own with ⟨fault, failed⟩
    rw [(loadEnglish_of_loadable first.1 first.2).1]
    dsimp only
    rw [if_neg different, failed]
    exact ⟨fault, rfl⟩
  · rcases loadEnglish_of_not_loadable first with ⟨fault, failed⟩
    rw [failed]
    exact ⟨fault, rfl⟩

theorem load_returns_iff [Machine] (store : Store) (root : Path) (locale : String) :
    (∃ messages, (load store root locale).value = .ok messages) ↔
      ∀ directory ∈ directoriesOf root locale, Loadable store directory := by
  constructor
  · rintro ⟨messages, loaded⟩
    by_contra stops
    rcases load_of_not_loadable stops with ⟨fault, failed⟩
    rw [failed] at loaded
    cases loaded
  · intro loadable
    exact ⟨_, (load_of_loadable loadable).1⟩

/-!
## Broken message files

A file that holds no object contributes nothing: the tree of a directory is the
same when some or all of these files are taken away.  What such a file costs is
a report, or the loading itself if it is no UTF-8 or holds a JSON value that is
no object or cannot be read.
-/

/-- Whether a file that holds no object stands at a location. -/
def BrokenAt [Machine] (store : Store) (location : Location) : Prop :=
  ∃ bytes, store.entry? location = some (.file bytes) ∧ objectIn? bytes = none

theorem keepsDirectories_of_broken [Machine] {store : Store} {removed : Location → Bool}
    (broken : ∀ location, removed location = true → BrokenAt store location) :
    store.KeepsDirectories removed := by
  intro location gone standing
  rcases broken location gone with ⟨bytes, file, _⟩
  rw [standing] at file
  cases file

theorem exists_location_of_isDirectory {store : Store} {path : Path}
    (found : store.isDirectory path = .ok true) :
    ∃ location, store.locate path = .ok location ∧ store.entry? location = some .directory := by
  rw [Store.isDirectory, Store.status] at found
  cases located : store.locate path with
  | error fault =>
      rw [located] at found
      rcases fault with (_ | _ | _ | _ | _) | _ <;> cases found
  | ok location =>
      rw [located] at found
      cases standing : store.entry? location with
      | none =>
          simp only [standing] at found
          cases found
      | some entry =>
          cases entry with
          | file bytes =>
              simp only [standing] at found
              cases found
          | directory => exact ⟨location, rfl, standing⟩

/-- Leaving names out before or after sorting them comes to the same. -/
theorem filter_sortedNames (names : List String) (kept : String → Bool) :
    (names.mergeSort fun a b => decide (a ≤ b)).filter kept =
      (names.filter kept).mergeSort fun a b => decide (a ≤ b) :=
  filter_mergeSort (fun a b c => by simpa using String.le_trans)
    (fun a b => by simpa using String.le_total a b) names kept

theorem ne_up_of_isMessageFile {name : String} (message : isMessageFile name = true) :
    name ≠ ".." := by
  rintro rfl
  revert message
  decide +kernel

theorem isMessageFile_of_mem {store : Store} {directory : Path} {name : String}
    (listed : name ∈ messageFiles store directory) : isMessageFile name = true := by
  rw [messageFiles] at listed
  split at listed
  · cases listed
  · exact (List.mem_filter.mp (List.mem_mergeSort.mp listed)).2

theorem filesIn_of_not_directory {store : Store} {directory : Path}
    (other : store.isDirectory directory ≠ .ok true) : filesIn store directory = [] := by
  rw [filesIn]
  split
  · rename_i found
    exact absurd found other
  · rfl

section

variable {store : Store} {removed : Location → Bool} {directory : Path} {location : Location}

theorem locate_without_of_ok (keeps : store.KeepsDirectories removed)
    (located : store.locate directory = .ok location) :
    (store.without removed).locate directory = .ok location := by
  rcases Store.locate_without keeps directory with same | ⟨before, _⟩
  · rw [same, located]
  · rw [located] at before
    cases before

theorem messageFiles_without (keeps : store.KeepsDirectories removed)
    (located : store.locate directory = .ok location) :
    messageFiles (store.without removed) directory =
      (messageFiles store directory).filter fun name => !removed (location.child name) := by
  rw [messageFiles, messageFiles, locate_without_of_ok keeps located, located]
  dsimp only
  rw [Store.namesIn_without, filter_sortedNames, List.filter_comm]

/-- A file that stays is read as before. -/
theorem objectOf?_without_of_kept [Machine] (keeps : store.KeepsDirectories removed)
    (located : store.locate directory = .ok location) {name : String} (downwards : name ≠ "..")
    (kept : removed (location.child name) = false) :
    objectOf? (store.without removed) directory name = objectOf? store directory name ∧
      (Passable store directory name → Passable (store.without removed) directory name) := by
  have stays : ∀ reached, store.locate (fileIn directory name) = .ok reached →
      removed reached = false := by
    intro reached found
    rw [Store.locate_concat downwards located found]
    exact kept
  rw [objectOf?, objectOf?]
  rcases Store.read_without keeps stays with same | ⟨before, after, failed, failedAfter⟩
  · rw [same]
    refine ⟨rfl, fun passable bytes opened => passable bytes ?_⟩
    rw [← same, opened]
  · rw [failed, failedAfter]
    exact ⟨rfl, fun _ => passable_of_error failedAfter⟩

/-- A file that is taken away held no object. -/
theorem objectOf?_of_removed [Machine] (located : store.locate directory = .ok location) {name : String}
    (downwards : name ≠ "..") (broken : BrokenAt store (location.child name)) :
    objectOf? store directory name = none := by
  rcases broken with ⟨bytes, file, nothing⟩
  rw [objectOf?, Store.read]
  cases found : store.locate (fileIn directory name) with
  | error fault => rfl
  | ok reached =>
      rw [Store.locate_concat downwards located found]
      simp only [file, nothing]

theorem filesIn_without (keeps : store.KeepsDirectories removed)
    (located : store.locate directory = .ok location) :
    filesIn (store.without removed) directory =
      (filesIn store directory).filter fun name => !removed (location.child name) := by
  rw [filesIn, filesIn, Store.isDirectory_without keeps]
  split
  · exact messageFiles_without keeps located
  · rfl

end

/-- Without files that hold no object, a directory has the same tree, and can be
loaded if it could be before. -/
theorem treeOf_without [Machine] {store : Store} {removed : Location → Bool}
    (broken : ∀ location, removed location = true → BrokenAt store location) (directory : Path) :
    treeOf (store.without removed) directory = treeOf store directory ∧
      (Loadable store directory → Loadable (store.without removed) directory) := by
  have keeps := keepsDirectories_of_broken broken
  have known := Store.isDirectory_without keeps directory
  by_cases found : store.isDirectory directory = .ok true
  · rcases exists_location_of_isDirectory found with ⟨location, located, _⟩
    have downwards : ∀ name ∈ filesIn store directory, name ≠ ".." := by
      rw [filesIn, found]
      exact fun name listed => ne_up_of_isMessageFile (isMessageFile_of_mem listed)
    rw [treeOf, treeOf, filesIn_without keeps located, List.filterMap_filter]
    refine ⟨?_, fun loadable => ⟨?_, ?_⟩⟩
    · congr 1
      apply List.filterMap_congr
      intro name listed
      cases gone : removed (location.child name) with
      | false => exact (objectOf?_without_of_kept keeps located (downwards name listed) gone).1
      | true =>
          exact (objectOf?_of_removed located (downwards name listed) (broken _ gone)).symm
    · rw [known]
      exact loadable.known
    · intro name listed
      rw [filesIn_without keeps located, List.mem_filter, Bool.not_eq_true'] at listed
      exact (objectOf?_without_of_kept keeps located (downwards name listed.1) listed.2).2
        (loadable.passable name listed.1)
  · have empty := filesIn_of_not_directory found
    have emptyWithout := filesIn_of_not_directory (known ▸ found)
    rw [treeOf, treeOf, empty, emptyWithout]
    refine ⟨rfl, fun loadable => ⟨known ▸ loadable.known, ?_⟩⟩
    rw [emptyWithout]
    exact List.forall_mem_nil _

/-- A locale is loaded exactly if each of its directories can be looked up and none
of their files stops the loading.  Then every file that holds no object is
reported, in order, and the messages are the same without some or all of these
files. -/
theorem load_without_broken [Machine] (store : Store) (root : Path) (locale : String) :
    ((∃ messages, (load store root locale).value = .ok messages) ↔
      ∀ directory ∈ directoriesOf root locale, Loadable store directory) ∧
    ∀ messages, (load store root locale).value = .ok messages →
      List.Forall₂ Reports ((directoriesOf root locale).flatMap (brokenIn store))
        ((load store root locale).records.filter fun record => record.level = Level.error) ∧
      ∀ removed : Location → Bool, (∀ location, removed location = true → BrokenAt store location) →
        (load (store.without removed) root locale).value = .ok messages := by
  refine ⟨load_returns_iff store root locale, ?_⟩
  intro messages loaded
  have loadable := (load_returns_iff store root locale).mp ⟨messages, loaded⟩
  rcases load_of_loadable loadable with ⟨value, records⟩
  refine ⟨records, fun removed broken => ?_⟩
  have loadableWithout : ∀ directory ∈ directoriesOf root locale,
      Loadable (store.without removed) directory :=
    fun directory listed => (treeOf_without broken directory).2 (loadable directory listed)
  have sameTree :
      localeTree (store.without removed) root locale = localeTree store root locale := by
    rw [localeTree, localeTree, englishTree, englishTree]
    simp only [(treeOf_without broken _).1]
  rw [(load_of_loadable loadableWithout).1, sameTree, ← value, loaded]

/-- A catalogue whose only message file is a byte that starts no character. -/
def strayByte : Store :=
  ⟨[(⟨.above 0, ["i18n"]⟩, .directory),
    (⟨.above 0, ["i18n", "x.json"]⟩, .file ⟨#[0xFF]⟩)]⟩

section

attribute [local instance] Machine.usual

/-- A file that is no UTF-8 is not left out but stops the loading. -/
theorem load_of_stray_byte :
    (load strayByte ⟨.working, ["i18n"]⟩ english).value =
      .error (.notUtf8 ⟨0, 0xFF, 1, .invalidStart⟩) := by
  have files : messageFiles strayByte ⟨.working, ["i18n"]⟩ = ["x.json"] :=
    List.mergeSort_singleton _
  have undecoded : decode (byteList ⟨#[0xFF]⟩) = .error ⟨0, 0xFF, 1, .invalidStart⟩ := by
    decide +kernel
  have opened : strayByte.read ⟨.working, ["i18n", "x.json"]⟩ = .ok ⟨#[0xFF]⟩ := rfl
  have stops : (readFile strayByte ⟨.working, ["i18n"]⟩ "x.json").value =
      .error (.notUtf8 ⟨0, 0xFF, 1, .invalidStart⟩) := by
    simp only [readFile, List.cons_append, List.nil_append, opened, undecoded, Logged.value_quiet]
  have found : strayByte.isDirectory ⟨.working, ["i18n"]⟩ = .ok true := rfl
  rw [load_value, loadEnglish, Logged.value_andThen, readDirectory, found, files]
  dsimp only
  rw [readFiles, Logged.value_andThen, stops]
  rfl

end

end Messages
end GameNight
