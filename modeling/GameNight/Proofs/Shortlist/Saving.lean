import GameNight.Proofs.Catalogue.Entries
import GameNight.Proofs.Files.Directories
import GameNight.Proofs.Files.Writing
import GameNight.Proofs.Shortlist.Refusal
import GameNight.Proofs.Table.Cells

namespace GameNight

open Text Journal Files

/-!
# Reading back a saved shortlist

A shortlist is saved as its names with a line feed behind each of them.  Cut at
its line feeds, the file has these names as its lines unless one of them holds a
line feed itself.

Names come from the cells of a catalogue, and trimming leaves no line feed at
their ends.  One inside a name has been read between quotes that were open at
the end of a line.  So everything that is picked from a catalogue is read back
as it was saved when every record of the catalogue stands on one line, and more
generally exactly when no game has a line feed in its name.
-/

namespace Shortlist

theorem toList_savedText (shortlist : Shortlist) :
    shortlist.savedText.toList = textOfLines true (shortlist.names.map String.toList) := by
  rw [savedText, String.toList_join]
  generalize shortlist.names = names
  induction names with
  | nil => rfl
  | cons name rest inductionHypothesis =>
      rw [List.map_cons, List.flatMap_cons, inductionHypothesis, String.toList_append, List.map_cons,
        textOfLines_true_cons, List.append_assoc]
      rfl

/-- A file that has been saved holds the text of the names. -/
theorem read_save [Machine] {shortlist : Shortlist} {path saved : Path} {files left : Store}
    (returned : (shortlist.save path files).value = (.ok saved, left)) :
    left.read path = .ok shortlist.savedText.toUTF8 := by
  rw [save] at returned
  generalize files.makeDirectories path.parent = answer at returned
  rcases answer with ⟨_ | location, prepared⟩
  · cases returned
  · cases written : prepared.write path shortlist.savedText.toUTF8 with
    | error fault =>
        simp only [written] at returned
        cases returned
    | ok after =>
        simp only [written] at returned
        cases returned
        exact Store.read_write written

end Shortlist

namespace Shelf

/-- What a shelf has been saved as is what its file holds. -/
theorem read_saved [Machine] {shelf : Shelf} {name : String}
    (saved : (shelf.perform (.save (.text name))).1 = .ok ()) :
    (shelf.after (.save (.text name))).files.read (.ofString name) =
      .ok shelf.shortlist.savedText.toUTF8 := by
  rw [after]
  rw [perform, Shortlist.saveTo] at saved ⊢
  cases returned : (shelf.shortlist.save (.ofString name) shelf.files).value with
  | mk answer left =>
      rw [returned] at saved
      cases answer with
      | error fault => cases saved
      | ok path => exact Shortlist.read_save returned

/-- Whether the file that a shelf is saved to is a text which has exactly the
held names as its lines, each of them ended by a line feed. -/
def ReadsBack [Machine] (shelf : Shelf) (name : String) : Prop :=
  ∃ text : String,
    (shelf.after (.save (.text name))).files.read (.ofString name) = .ok text.toUTF8 ∧
      physicalLines text.toList = shelf.shortlist.names.map fun held => held.toList ++ ['\n']

/-- Whether that file has as many lines as there are games. -/
def CountsBack [Machine] (shelf : Shelf) (name : String) : Prop :=
  ∃ text : String,
    (shelf.after (.save (.text name))).files.read (.ofString name) = .ok text.toUTF8 ∧
      (physicalLines text.toList).length = shelf.shortlist.count

theorem exists_saved_iff [Machine] {shelf : Shelf} {name : String}
    (saved : (shelf.perform (.save (.text name))).1 = .ok ()) (property : List (List Char) → Prop) :
    (∃ text : String,
      (shelf.after (.save (.text name))).files.read (.ofString name) = .ok text.toUTF8 ∧
        property (physicalLines text.toList)) ↔
      property (physicalLines (textOfLines true (shelf.shortlist.names.map String.toList))) := by
  rw [read_saved saved, ← shelf.shortlist.toList_savedText]
  constructor
  · rintro ⟨text, same, holds⟩
    have equal : shelf.shortlist.savedText = text :=
      String.toByteArray_inj.mp (Except.ok.inj same)
    rwa [equal]
  · intro holds
    exact ⟨shelf.shortlist.savedText, rfl, holds⟩

theorem countsBack_iff [Machine] {shelf : Shelf} {name : String}
    (saved : (shelf.perform (.save (.text name))).1 = .ok ()) :
    shelf.CountsBack name ↔ ∀ held ∈ shelf.shortlist.names, '\n' ∉ held.toList := by
  rw [CountsBack, exists_saved_iff saved fun lines => lines.length = shelf.shortlist.count]
  have count : shelf.shortlist.count = (shelf.shortlist.names.map String.toList).length := by
    rw [Shortlist.count, Shortlist.names, List.length_map, List.length_map]
  rw [count, (length_physicalLines_textOfLines _).2, List.forall_mem_map]

theorem readsBack_iff [Machine] {shelf : Shelf} {name : String}
    (saved : (shelf.perform (.save (.text name))).1 = .ok ()) :
    shelf.ReadsBack name ↔ ∀ held ∈ shelf.shortlist.names, '\n' ∉ held.toList := by
  constructor
  · rintro ⟨text, read, lines⟩
    refine (countsBack_iff saved).mp ⟨text, read, ?_⟩
    rw [lines, List.length_map, Shortlist.names, List.length_map, Shortlist.count]
  · intro whole
    rw [ReadsBack, exists_saved_iff saved fun lines =>
      lines = shelf.shortlist.names.map fun held => held.toList ++ ['\n']]
    rw [physicalLines_textOfLines_true (List.forall_mem_map.mpr whole), List.map_map]
    rfl

/-- A new shelf to which one game has been added. -/
def withOne [Machine] (game : Game) : Shelf :=
  (new .empty).after (.add (some "all") [game])

theorem shortlist_withOne [Machine] (game : Game) : (withOne game).shortlist = ⟨[game]⟩ := by
  have picked : selectGames (some "all") (sortByName [game]) = .ok [game] := by
    have token : trim ((some "all").getD "").toList = ['a', 'l', 'l'] := by decide
    have word : lowerChars ['a', 'l', 'l'] = ['a', 'l', 'l'] := by decide
    have sorted : sortByName [game] = [game] := List.perm_singleton.mp (sortByName_perm [game])
    simp only [selectGames, token, word, sorted, List.isEmpty_cons, Bool.false_eq_true, if_false,
      if_true]
  rw [withOne, shortlist_after, effect, picked]
  rfl

theorem saved_withOne [Machine] (game : Game) :
    ((withOne game).perform (.save (.text "list.txt"))).1 = .ok () := by
  have kept : (withOne game).files = .empty := rfl
  have made : Store.empty.makeDirectories (Path.ofString "list.txt").parent =
      (.ok (.ofRoot .working), .empty) :=
    Store.makeDirectories_root .empty .working
  simp only [perform, Shortlist.saveTo, Shortlist.save, kept, made]
  rfl

end Shelf

namespace Catalogue

/-- Where every record of a catalogue stands on one line, no game has a line feed
in its name. -/
theorem name_of_eachOnOneLine [Machine] {text source : String} {games : List Game}
    (loaded : (parse text source).value = .ok games)
    (single : Table.EachOnOneLine (physicalLines (text.toList.dropWhile isByteOrderMark))) :
    ∀ game ∈ games, '\n' ∉ game.name.toList := by
  intro game member
  rcases name_of_mem_parse loaded member with ⟨record, among, cell, inside, named⟩
  rw [named, toList_strip]
  exact Table.not_mem_trim_of_mem_readLines (fun line => not_mem_dropLast_of_mem_physicalLines)
    single 0 record among cell inside

end Catalogue

namespace Shelf

/-- A shortlist that has been saved is read back, name by name and in number,
exactly when no held name has a line feed.  For the games of a loaded catalogue
this is so after all deeds that offer them exactly when no game of it has a line
feed in its name, and none has where every record stands on one line. -/
theorem readsBack_of_catalogue [Machine] {text source : String} {games : List Game}
    (loaded : (Catalogue.parse text source).value = .ok games) :
    (∀ files deeds name,
      let shelf := (new files).afterAll deeds
      (shelf.perform (.save (.text name))).1 = .ok () →
        (shelf.ReadsBack name ↔ ∀ held ∈ shelf.shortlist.names, '\n' ∉ held.toList) ∧
        (shelf.CountsBack name ↔ ∀ held ∈ shelf.shortlist.names, '\n' ∉ held.toList)) ∧
    ((∀ files deeds name, (∀ deed ∈ deeds, deed.OffersFrom games) →
      let shelf := (new files).afterAll deeds
      (shelf.perform (.save (.text name))).1 = .ok () →
        shelf.ReadsBack name ∧ shelf.CountsBack name) ↔
      ∀ game ∈ games, '\n' ∉ game.name.toList) ∧
    (Table.EachOnOneLine (physicalLines (text.toList.dropWhile Catalogue.isByteOrderMark)) →
      ∀ game ∈ games, '\n' ∉ game.name.toList) := by
  refine ⟨fun files deeds name saved => ⟨readsBack_iff saved, countsBack_iff saved⟩, ?_,
    Catalogue.name_of_eachOnOneLine loaded⟩
  constructor
  · intro always game member
    have offers : ∀ deed ∈ [Deed.add (some "all") [game]], deed.OffersFrom games := by
      intro deed among
      rw [List.mem_singleton.mp among]
      exact List.cons_subset.mpr ⟨member, List.nil_subset games⟩
    have whole := (readsBack_iff (saved_withOne game)).mp
      (always .empty [.add (some "all") [game]] "list.txt" offers (saved_withOne game)).1
    rw [shortlist_withOne] at whole
    exact whole game.name (List.mem_singleton_self game.name)
  · intro whole files deeds name offers shelf saved
    have wholeHeld : ∀ held ∈ shelf.shortlist.names, '\n' ∉ held.toList := by
      intro held listed
      rcases List.mem_map.mp listed with ⟨game, member, named⟩
      exact named ▸ whole game (held_subset_afterAll files offers member)
    exact ⟨(readsBack_iff saved).mpr wholeHeld, (countsBack_iff saved).mpr wholeHeld⟩

section

attribute [local instance] Machine.usual

/-- A catalogue of one game on one line is read back however it is picked from. -/
theorem one_line_readsBack :
    ∃ games,
      (Catalogue.parse (Catalogue.textWith true Catalogue.plainHeader [Catalogue.goLine])
        "<string>").value = .ok games ∧
      games ≠ [] ∧
      ∀ files deeds name, (∀ deed ∈ deeds, deed.OffersFrom games) →
        let shelf := (new files).afterAll deeds
        (shelf.perform (.save (.text name))).1 = .ok () →
          shelf.ReadsBack name ∧ shelf.CountsBack name := by
  rcases Catalogue.isGameLine_goLine.alone with ⟨game, loaded⟩
  have lines : physicalLines
      ((Catalogue.textWith true Catalogue.plainHeader [Catalogue.goLine]).toList.dropWhile
        Catalogue.isByteOrderMark) =
      [Catalogue.plainHeader ++ ['\n'], Catalogue.goLine ++ ['\n']] := by
    rw [Catalogue.textWith, String.toList_ofList]
    decide +kernel
  have single : Table.EachOnOneLine
      [Catalogue.plainHeader ++ ['\n'], Catalogue.goLine ++ ['\n']] := by
    intro line member opens
    have closed : Table.lineCells? (Catalogue.plainHeader ++ ['\n']) =
        .ok (some (Field.all.map Field.column)) := rfl
    rw [List.mem_singleton.mp member, closed] at opens
    cases opens
  have known := readsBack_of_catalogue loaded
  exact ⟨[game], loaded, List.cons_ne_nil game [],
    known.2.1.mpr (known.2.2 (lines.symm ▸ single))⟩

end

/-- Two lines of a catalogue that are one record, since a quote is open at the end
of the first one. -/
def quotedLines : List (List Char) :=
  ["\x22Go".toList, "x\x22,188,7.62,3.95,258,2,2,30,180,-2200".toList]

section

attribute [local instance] Machine.usual

/-- The game of these lines is saved as two lines. -/
theorem quoted_lines_not_readsBack :
    ∃ game,
      (Catalogue.parse (Catalogue.textWith true Catalogue.plainHeader quotedLines) "<string>").value =
        .ok [game] ∧
      ((withOne game).perform (.save (.text "list.txt"))).1 = .ok () ∧
      ¬(withOne game).ReadsBack "list.txt" ∧ ¬(withOne game).CountsBack "list.txt" := by
  have reading : Table.readLines .start 1 (physicalLines (textOfLines true quotedLines)) =
      ⟨[⟨["Go\nx", "188", "7.62", "3.95", "258", "2", "2", "30", "180", "-2200"], 3⟩], none⟩ := by
    decide +kernel
  have named : (Catalogue.gamesOf (Field.all.map Field.column)
      [⟨["Go\nx", "188", "7.62", "3.95", "258", "2", "2", "30", "180", "-2200"], 3⟩]).map Game.name =
      ["Go\nx"] := by
    decide +kernel
  rcases List.map_eq_singleton_iff.mp named with ⟨game, single, name⟩
  have broken : ¬∀ held ∈ (withOne game).shortlist.names, '\n' ∉ held.toList := by
    intro whole
    rw [shortlist_withOne] at whole
    have inside := whole game.name (List.mem_singleton_self game.name)
    rw [name] at inside
    exact inside (by decide)
  refine ⟨game, ?_, saved_withOne game, mt (readsBack_iff (saved_withOne game)).mp broken,
    mt (countsBack_iff (saved_withOne game)).mp broken⟩
  rw [Catalogue.textWith, Catalogue.isHeader_plainHeader.value_parse, reading]
  exact congrArg Except.ok single

end

end Shelf
end GameNight
