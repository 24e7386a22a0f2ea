import GameNight.Proofs.Json.Content
import GameNight.Proofs.Number.Range
import GameNight.Settings

namespace GameNight
namespace Settings

open Text Number Journal Files Json

/-!
# What a settings file does

A settings file that holds an object overrides what was given, setting by
setting; a time limit that is no number is left out with a warning.  A file that
breaks the grammar of JSON, or holds another value, is reported and changes
nothing.  Any other file stops the program, and so does a time limit that is too
large.
-/

/-- The settings file that is read. -/
def filePath (dataDirectory : Path) (settingsFile : Option Path) : Path :=
  settingsFile.getD (dataDirectory.followedBy ⟨.working, ["settings.json"]⟩)

/-- Whether bytes can be read as settings: they break the grammar, or hold a value. -/
def Legible [Machine] (bytes : ByteArray) : Prop :=
  Misspelled bytes ∨ ∃ value, Holds bytes value

theorem status_of_read {files : Store} {path : Path} {bytes : ByteArray}
    (opened : files.read path = .ok bytes) : files.status path = .ok (some (.file bytes)) := by
  rw [Store.read] at opened
  rw [Store.status]
  cases located : files.locate path with
  | error fault =>
      rw [located] at opened
      cases opened
  | ok location =>
      rw [located] at opened
      dsimp only at opened ⊢
      split at opened
      · cases opened
      · cases opened
      · rename_i file
        rw [file, Except.ok.inj opened]

/-- All that reading a settings file can do. -/
theorem readFile_cases [Machine] {files : Store} {path : Path} {bytes : ByteArray}
    (opened : files.read path = .ok bytes) :
    (∃ members, objectIn? bytes = some members ∧
      readFile files path = .quiet (.ok (some members))) ∨
    (objectIn? bytes = none ∧ Legible bytes ∧ ∃ message, readFile files path = unusable message) ∨
    (objectIn? bytes = none ∧ ¬Legible bytes ∧
      ∃ fault, readFile files path = .quiet (.error fault)) := by
  rw [readFile, status_of_read opened]
  dsimp only
  rw [opened]
  dsimp only
  cases decoded : decode (Messages.byteList bytes) with
  | error fault =>
      have failed := charsOf_eq_error.mpr decoded
      rw [objectIn?_of_error failed]
      refine Or.inr (Or.inr ⟨rfl, ?_, _, rfl⟩)
      rintro (misspelled | ⟨value, held⟩)
      · exact not_misspelled_of_error failed misspelled
      · exact not_holds_of_error failed value held
  | ok taken =>
      have chars := charsOf_eq_ok decoded
      rw [objectIn?_of_ok chars, Legible, misspelled_iff_of_ok chars]
      simp only [holds_iff_of_ok chars, membersOf]
      cases Json.read (foldNewlines taken) with
      | error fault =>
          cases fault with
          | syntaxAt fault position =>
              exact Or.inr (Or.inl ⟨rfl, Or.inl ⟨fault, position, rfl⟩, _, rfl⟩)
          | tooManyDigits digits => exact Or.inr (Or.inr ⟨rfl, by simp, _, rfl⟩)
          | tooDeep container => exact Or.inr (Or.inr ⟨rfl, by simp, _, rfl⟩)
      | ok value =>
          cases value with
          | object members => exact Or.inl ⟨members, rfl, rfl⟩
          | _ => exact Or.inr (Or.inl ⟨rfl, Or.inr ⟨_, rfl⟩, _, rfl⟩)

/-! ## Time limits -/

/-- Whether the time limit is a whole number that is too large: that of the file,
or the given one if the file has none. -/
def LimitTooLarge (members : Members) (given : Catalogue.Timeout) : Prop :=
  ∃ seconds : Int, tooLargeFrom ≤ seconds.natAbs ∧
    (member? members "http_timeout" = some (.integer seconds) ∨
      member? members "http_timeout" = none ∧ given = .whole seconds)

theorem wholeTimeout_eq_tooLarge {seconds : Int} :
    (∃ fault, wholeTimeout seconds = .error (.tooLarge fault)) ↔ tooLargeFrom ≤ seconds.natAbs := by
  rw [← Double.ofInteger?_eq_none, wholeTimeout]
  cases Double.ofInteger? seconds with
  | some value => simp
  | none => exact iff_of_true ⟨.forDouble, rfl⟩ rfl

/-- Only a whole number is too large. -/
theorem timeoutOf_eq_tooLarge {value : Json} :
    (∃ fault, timeoutOf value = .error (.tooLarge fault)) ↔
      ∃ seconds, tooLargeFrom ≤ seconds.natAbs ∧ value = .integer seconds := by
  cases value with
  | integer seconds =>
      rw [timeoutOf, wholeTimeout_eq_tooLarge]
      simp
  | bool value =>
      rw [timeoutOf, wholeTimeout_eq_tooLarge]
      refine iff_of_false ?_ (by simp)
      cases value <;> decide +kernel
  | text value =>
      refine iff_of_false ?_ (by simp)
      rw [timeoutOf.eq_def]
      dsimp only
      cases readDouble? value.toList <;> simp
  | _ => exact iff_of_false (by simp [timeoutOf]) (by simp)

theorem toDouble_eq_tooLarge {given : Catalogue.Timeout} :
    (∃ fault, given.toDouble = .error (.tooLarge fault)) ↔
      ∃ seconds, tooLargeFrom ≤ seconds.natAbs ∧ given = .whole seconds := by
  cases given with
  | whole seconds =>
      rw [Catalogue.Timeout.toDouble, wholeTimeout_eq_tooLarge]
      simp
  | exact seconds => exact iff_of_false (by simp [Catalogue.Timeout.toDouble]) (by simp)

theorem chosenTimeout_eq_tooLarge {members : Members} {given : Catalogue.Timeout} :
    (∃ fault, chosenTimeout members given = .error (.tooLarge fault)) ↔
      LimitTooLarge members given := by
  rw [LimitTooLarge, chosenTimeout]
  cases member? members "http_timeout" with
  | some value =>
      dsimp only
      rw [timeoutOf_eq_tooLarge]
      simp
  | none =>
      dsimp only
      rw [toDouble_eq_tooLarge]
      simp

/-! ## Settings from three places -/

/-- What is chosen for a setting: the environment's value, or that of the file, or
the one that was given. -/
def layered (environment : List (String × String)) (name : String) (member : Option Json)
    (given : Json) : Json :=
  (environmentValue? environment name).getD (member.getD given)

/-- The catalogue that is chosen.  Here the file's value counts only if it is
given, and the catalogue of the program stands behind all others. -/
def layeredSource (environment : List (String × String)) (members : Members) (given : Choices) :
    Catalogue.Wish :=
  match environmentValue? environment "BGPLANNER_GAMES_SOURCE",
    (member? members "games_source").filter Json.isGiven with
  | some setting, _ => .named setting
  | none, some setting => .named setting
  | none, none => (withSample given).gamesSource

/-- The environment over the members of a settings file, and these over what was
given, with a time limit. -/
def layeredChoices (environment : List (String × String)) (members : Members) (given : Choices)
    (limit : Catalogue.Timeout) : Choices where
  gamesSource := layeredSource environment members given
  listFile := layered environment "BGPLANNER_LIST_FILE" (member? members "list_file") given.listFile
  language :=
    layered environment "BGPLANNER_LANGUAGE" (member? members "ui_language") given.language
  logLevel := layered environment "BGPLANNER_LOG_LEVEL" (member? members "log_level") given.logLevel
  timeout := limit

theorem withSample_eq (given : Choices) :
    withSample given = { given with gamesSource := (withSample given).gamesSource } := by
  rw [withSample]
  split
  · rfl
  · split <;> rfl

theorem timeout_withSample (given : Choices) : (withSample given).timeout = given.timeout := by
  rw [withSample_eq]

theorem applyEnvironment_withSample (environment : List (String × String)) (given : Choices) :
    applyEnvironment environment (withSample given) =
      layeredChoices environment [] given given.timeout := by
  rw [withSample_eq, applyEnvironment, layeredChoices, layeredSource]
  cases environmentValue? environment "BGPLANNER_GAMES_SOURCE" <;> rfl

/-- The choices that the members of a file leave. -/
def chosenFrom (members : Members) (choices : Choices) (limit : Catalogue.Timeout) : Choices :=
  let source := (member? members "games_source").getD .null
  { gamesSource := if source.isGiven then .named source else choices.gamesSource
    listFile := (member? members "list_file").getD choices.listFile
    language := (member? members "ui_language").getD choices.language
    logLevel := (member? members "log_level").getD choices.logLevel
    timeout := limit }

theorem applyEnvironment_chosenFrom (environment : List (String × String)) (members : Members)
    (given : Choices) (limit : Catalogue.Timeout) :
    applyEnvironment environment (chosenFrom members (withSample given) limit) =
      layeredChoices environment members given limit := by
  rw [withSample_eq, applyEnvironment, chosenFrom, layeredChoices, layeredSource]
  dsimp only
  congr 1
  cases environmentValue? environment "BGPLANNER_GAMES_SOURCE" with
  | some setting => rfl
  | none =>
      cases member? members "games_source" with
      | none => rfl
      | some source =>
          rw [Option.getD_some, Option.filter_some]
          cases source.isGiven <;> rfl

/-- The report of a time limit that is no number. -/
def limitKept (path : Path) (limit : Catalogue.Timeout) : Record :=
  ⟨.warning, speaker, "Invalid http_timeout in " ++ path.text ++ ", keeping " ++ limit.text⟩

theorem applyMembers_of_limit (path : Path) {members : Members} {choices : Choices}
    {seconds : Double} (chosen : chosenTimeout members choices.timeout = .ok seconds) :
    applyMembers path members choices =
      .quiet (.ok (chosenFrom members choices (.exact seconds))) := by
  rw [applyMembers, chosen]
  rfl

theorem applyMembers_of_no_limit (path : Path) {members : Members} {choices : Choices}
    (unfit : chosenTimeout members choices.timeout = .error .notANumber) :
    applyMembers path members choices =
      ⟨.ok (chosenFrom members choices choices.timeout), [limitKept path choices.timeout]⟩ := by
  rw [applyMembers, unfit]
  rfl

theorem applyMembers_of_large_limit (path : Path) {members : Members} {choices : Choices}
    (large : LimitTooLarge members choices.timeout) :
    ∃ fault, applyMembers path members choices = .quiet (.error fault) := by
  rcases chosenTimeout_eq_tooLarge.mpr large with ⟨fault, failed⟩
  rw [applyMembers, failed]
  exact ⟨.timeoutTooLarge fault, rfl⟩

/-! ## The settings that are read -/

/-- The settings that the members of a file lead to. -/
def layeredSettings (environment : List (String × String)) (dataDirectory : Path)
    (settingsFile : Option Path) (members : Members) (given : Choices)
    (limit : Catalogue.Timeout) : Settings :=
  ⟨dataDirectory, filePath dataDirectory settingsFile,
    layeredChoices environment members given limit⟩

section

variable {files : Store} {dataDirectory : Path} {settingsFile : Option Path}
  (environment : List (String × String)) (given : Choices)

theorem load_of_unchanged [Machine] {records : List Record}
    (unchanged : readFile files (filePath dataDirectory settingsFile) = ⟨.ok none, records⟩) :
    load files environment dataDirectory settingsFile given =
      ⟨.ok (layeredSettings environment dataDirectory settingsFile [] given given.timeout),
        records⟩ := by
  rw [filePath] at unchanged
  rw [load, unchanged, layeredSettings, ← applyEnvironment_withSample]
  exact congrArg (Logged.mk _) (List.append_nil records)

theorem load_of_fault [Machine] {fault : SettingsFault}
    (failed : readFile files (filePath dataDirectory settingsFile) = .quiet (.error fault)) :
    (load files environment dataDirectory settingsFile given).value = .error fault := by
  rw [filePath] at failed
  rw [load, failed]
  rfl

/-- The members of a file are applied to what was given, before the environment is. -/
theorem load_of_members [Machine] {members : Members}
    (read : readFile files (filePath dataDirectory settingsFile) = .quiet (.ok (some members))) :
    load files environment dataDirectory settingsFile given =
      (applyMembers (filePath dataDirectory settingsFile) members (withSample given)).andThen
        fun applied => .quiet (applied.map fun choices =>
          ⟨dataDirectory, filePath dataDirectory settingsFile,
            applyEnvironment environment choices⟩) := by
  rw [filePath] at read ⊢
  rw [load, read]
  rfl

theorem load_of_limit [Machine] {members : Members} {seconds : Double}
    (read : readFile files (filePath dataDirectory settingsFile) = .quiet (.ok (some members)))
    (chosen : chosenTimeout members given.timeout = .ok seconds) :
    load files environment dataDirectory settingsFile given =
      ⟨.ok (layeredSettings environment dataDirectory settingsFile members given (.exact seconds)),
        []⟩ := by
  rw [← timeout_withSample given] at chosen
  rw [load_of_members environment given read, applyMembers_of_limit _ chosen, layeredSettings,
    ← applyEnvironment_chosenFrom]
  rfl

theorem load_of_no_limit [Machine] {members : Members}
    (read : readFile files (filePath dataDirectory settingsFile) = .quiet (.ok (some members)))
    (unfit : chosenTimeout members given.timeout = .error .notANumber) :
    load files environment dataDirectory settingsFile given =
      ⟨.ok (layeredSettings environment dataDirectory settingsFile members given given.timeout),
        [limitKept (filePath dataDirectory settingsFile) given.timeout]⟩ := by
  rw [← timeout_withSample given] at unfit ⊢
  rw [load_of_members environment given read, applyMembers_of_no_limit _ unfit, layeredSettings,
    ← applyEnvironment_chosenFrom]
  rfl

theorem load_of_large_limit [Machine] {members : Members}
    (read : readFile files (filePath dataDirectory settingsFile) = .quiet (.ok (some members)))
    (large : LimitTooLarge members given.timeout) :
    ∃ fault, (load files environment dataDirectory settingsFile given).value = .error fault := by
  rw [← timeout_withSample given] at large
  rcases applyMembers_of_large_limit (filePath dataDirectory settingsFile) large with
    ⟨fault, failed⟩
  rw [load_of_members environment given read, failed]
  exact ⟨fault, rfl⟩

theorem load_of_object_returns_iff [Machine] {members : Members}
    (read : readFile files (filePath dataDirectory settingsFile) = .quiet (.ok (some members))) :
    (∃ settings, (load files environment dataDirectory settingsFile given).value = .ok settings) ↔
      ¬LimitTooLarge members given.timeout := by
  by_cases large : LimitTooLarge members given.timeout
  · refine iff_of_false ?_ (not_not_intro large)
    rintro ⟨settings, loaded⟩
    rcases load_of_large_limit environment given read large with ⟨fault, failed⟩
    rw [failed] at loaded
    cases loaded
  · refine iff_of_true ?_ large
    cases chosen : chosenTimeout members given.timeout with
    | ok seconds => exact ⟨_, congrArg Logged.value (load_of_limit environment given read chosen)⟩
    | error fault =>
        cases fault with
        | notANumber =>
            exact ⟨_, congrArg Logged.value (load_of_no_limit environment given read chosen)⟩
        | tooLarge fault => exact absurd (chosenTimeout_eq_tooLarge.mp ⟨fault, chosen⟩) large

/-- A settings file that has been opened leaves the program running exactly if it
breaks the grammar or holds a value, and does not set a time limit that is too
large.  If it holds no object, it is reported and all settings are as they would be
without it.  If it holds one, this is put between what was given and the
environment; a time limit that is no number leaves the given one, with a warning. -/
theorem load_of_bytes [Machine] {bytes : ByteArray}
    (opened : files.read (filePath dataDirectory settingsFile) = .ok bytes) :
    ((∃ settings, (load files environment dataDirectory settingsFile given).value = .ok settings) ↔
      Legible bytes ∧
        ∀ members, objectIn? bytes = some members → ¬LimitTooLarge members given.timeout) ∧
    (Legible bytes → objectIn? bytes = none →
      ∃ settings message,
        load files environment dataDirectory settingsFile given =
          ⟨.ok settings, [⟨.error, speaker, message⟩]⟩ ∧
        ∀ others : Store, others.status (filePath dataDirectory settingsFile) = .ok none →
          load others environment dataDirectory settingsFile given = ⟨.ok settings, []⟩) ∧
    ∀ members, objectIn? bytes = some members →
      (∀ seconds, chosenTimeout members given.timeout = .ok seconds →
        load files environment dataDirectory settingsFile given =
          ⟨.ok (layeredSettings environment dataDirectory settingsFile members given
            (.exact seconds)), []⟩) ∧
      (chosenTimeout members given.timeout = .error .notANumber →
        load files environment dataDirectory settingsFile given =
          ⟨.ok (layeredSettings environment dataDirectory settingsFile members given given.timeout),
            [limitKept (filePath dataDirectory settingsFile) given.timeout]⟩) := by
  have missing {others : Store}
      (absent : others.status (filePath dataDirectory settingsFile) = .ok none) :
      readFile others (filePath dataDirectory settingsFile) = ⟨.ok none, []⟩ := by
    rw [readFile, absent]
    rfl
  rcases readFile_cases opened with
    ⟨members, object, read⟩ | ⟨nothing, legible, message, read⟩ | ⟨nothing, illegible, fault, read⟩
  · have legible : Legible bytes := Or.inr ⟨_, objectIn?_eq_some.mp object⟩
    rw [object, load_of_object_returns_iff environment given read]
    refine ⟨⟨fun fits => ⟨legible, ?_⟩, fun both => both.2 members rfl⟩, nofun, ?_⟩
    · rintro _ ⟨⟩
      exact fits
    · rintro _ ⟨⟩
      exact ⟨fun seconds => load_of_limit environment given read,
        load_of_no_limit environment given read⟩
  · rw [nothing, load_of_unchanged environment given read]
    refine ⟨iff_of_true ⟨_, rfl⟩ ⟨legible, nofun⟩, fun _ _ => ?_, nofun⟩
    refine ⟨_, message, rfl, fun others absent => ?_⟩
    exact load_of_unchanged environment given (missing absent)
  · rw [nothing]
    refine ⟨iff_of_false ?_ fun both => illegible both.1, fun legible => ?_, nofun⟩
    · rintro ⟨settings, loaded⟩
      rw [load_of_fault environment given read] at loaded
      cases loaded
    · exact absurd legible illegible

end

/-- A data directory with a settings file. -/
def withSettings (bytes : ByteArray) : Store :=
  ⟨[(⟨.above 0, ["data"]⟩, .directory), (⟨.above 0, ["data", "settings.json"]⟩, .file bytes)]⟩

theorem read_withSettings (bytes : ByteArray) :
    (withSettings bytes).read (filePath ⟨.working, ["data"]⟩ none) = .ok bytes :=
  rfl

section

attribute [local instance] Machine.usual

/-- A time limit that is no number, and a list file that is used all the same. -/
theorem load_of_text_limit :
    ∃ settings message,
      load (withSettings "\x7b\"http_timeout\": \"soon\", \"list_file\": \"a\"\x7d".toUTF8) []
          ⟨.working, ["data"]⟩ none .initial = ⟨.ok settings, [⟨.warning, speaker, message⟩]⟩ ∧
        settings.choices.timeout = Choices.initial.timeout ∧
        settings.choices.listFile = .text "a" := by
  have bytes : Messages.byteList
      "\x7b\"http_timeout\": \"soon\", \"list_file\": \"a\"\x7d".toUTF8 =
        "\x7b\"http_timeout\": \"soon\", \"list_file\": \"a\"\x7d".toList.map Char.toNat := by
    decide +kernel
  have object : objectIn? "\x7b\"http_timeout\": \"soon\", \"list_file\": \"a\"\x7d".toUTF8 =
      some [("http_timeout", .text "soon"), ("list_file", .text "a")] := by
    refine objectIn?_eq_some.mpr
      ⟨"\x7b\"http_timeout\": \"soon\", \"list_file\": \"a\"\x7d".toList, ?_, rfl⟩
    rw [charsOf, bytes]
    rfl
  have unfit : chosenTimeout [("http_timeout", .text "soon"), ("list_file", .text "a")]
      Choices.initial.timeout = .error .notANumber := rfl
  have loaded := ((load_of_bytes [] .initial (read_withSettings _)).2.2 _ object).2 unfit
  exact ⟨_, _, loaded, rfl, rfl⟩

/-- A file that is no UTF-8 is not ignored but stops the program. -/
theorem load_of_undecoded :
    (load (withSettings ⟨#[0xFF]⟩) [] ⟨.working, ["data"]⟩ none .initial).value =
      .error (.notUtf8 ⟨0, 0xFF, 1, .invalidStart⟩) := by
  have bytes : Messages.byteList ⟨#[0xFF]⟩ = [0xFF] := by decide +kernel
  have undecoded : decode [0xFF] = .error ⟨0, 0xFF, 1, .invalidStart⟩ := rfl
  have opened := read_withSettings ⟨#[0xFF]⟩
  have stops : readFile (withSettings ⟨#[0xFF]⟩) (filePath ⟨.working, ["data"]⟩ none) =
      .quiet (.error (.notUtf8 ⟨0, 0xFF, 1, .invalidStart⟩)) := by
    simp only [readFile, status_of_read opened, opened, bytes, undecoded]
  exact load_of_fault [] .initial stops

end

end Settings
end GameNight
