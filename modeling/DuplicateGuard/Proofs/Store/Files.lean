import DuplicateGuard.Proofs.Keyed
import DuplicateGuard.Proofs.Result
import DuplicateGuard.Store.Disk

set_option autoImplicit false

namespace DuplicateGuard

namespace Json

theorem value_capital_r (fuel : Nat) (rest : List Char) :
    value (fuel + 1) ('R' :: rest) = faultAt .value ('R' :: rest) := by
  unfold value
  simp [word?, words, afterWord?, number?, wholePart]

theorem parse_list {text : String} {records : List Json} (parsed : parse text = .ok (.arr records)) :
    ∃ first rest, text.toList = first :: rest ∧ first ≠ 'R' := by
  -- A list begins with neither the end of the text nor the mark of a database file.
  rw [parse, ← toOption_eq_some, toOption_mapError, toOption_eq_some] at parsed
  cases chars : text.toList with
  | nil =>
    rw [chars] at parsed
    have none : document [] = .error (.malformed .value 0) := rfl
    rw [none] at parsed
    cases parsed
  | cons first rest =>
    refine ⟨first, rest, rfl, ?_⟩
    rintro rfl
    rw [chars] at parsed
    have start : skipSpace ('R' :: rest) = 'R' :: rest := rfl
    simp only [document, start, List.length_cons, value_capital_r] at parsed
    cases parsed

end Json

namespace Database

theorem parse_fileText (database : Database) (records : List Json) :
    Json.parse (String.ofList (Text.lineFeeds database.fileText.toList)) ≠ .ok (.arr records) := by
  intro parsed
  obtain ⟨first, rest, chars, apart⟩ := Json.parse_list parsed
  rw [String.toList_ofList] at chars
  obtain ⟨body, marked⟩ : ∃ body, database.fileText.toList = 'R' :: body := by
    cases database <;> simp [fileText, fileMark]
  rw [marked] at chars
  have kept : Text.lineFeeds ('R' :: body) = 'R' :: Text.lineFeeds body := by
    simp [Text.lineFeeds]
  rw [kept] at chars
  exact apart (List.cons.inj chars).1.symm

end Database

namespace Disk

variable {disk : Disk} {path : String}

def Lists (disk : Disk) (path : String) (records : List Json) : Prop :=
  ∃ text, disk.readText path = .ok text ∧ Json.parse text = .ok (.arr records)

theorem databasePath_isEmpty (path : String) : (databasePath path).isEmpty = false := by
  unfold databasePath
  extract_lets cs absolute steps taken body whole
  cases empty : whole.isEmpty with
  | true => rfl
  | false => exact empty

theorem look_eq_file {content : FileContent} : disk.look path = .file content ↔
    path.isEmpty = false ∧ Keyed.find? (Settings.plainPath path) disk = some content := by
  by_cases named : path.isEmpty
  next => simp [look, named]
  next =>
    cases found : Keyed.find? (Settings.plainPath path) disk with
    | some known => simp [look, named, found]
    | none =>
      simp only [look, named, found, Bool.false_eq_true, if_false]
      split
      next => simp
      next => split <;> simp

theorem lists_iff {records : List Json} : disk.Lists path records ↔
    ∃ content, disk.look path = .file content ∧
      Json.parse (String.ofList (Text.lineFeeds content.asText.toList)) = .ok (.arr records) := by
  unfold Lists readText
  cases disk.look path <;> simp

theorem lists_of_text {content : String} {records : List Json}
    (there : disk.look path = .file (.text content)) (plain : '\r' ∉ content.toList)
    (parsed : Json.parse content = .ok (.arr records)) : disk.Lists path records := by
  refine lists_iff.2 ⟨_, there, ?_⟩
  rwa [FileContent.asText, Text.lineFeeds_eq_self _ plain, String.ofList_toList]

theorem plainPath_ne_of_lists {certificates : Option CertificateTable}
    {requests : Option RequestTable} {file : String} {records : List Json}
    (lasting : isFleeting path = false)
    (found : disk.database path = .ok (.sound certificates requests))
    (listed : disk.Lists file records) :
    Settings.plainPath file ≠ Settings.plainPath (databasePath path) := by
  intro same
  obtain ⟨content, there, parsed⟩ := lists_iff.1 listed
  have here : disk.look (databasePath path) = .file content :=
    look_eq_file.2 ⟨databasePath_isEmpty path, same ▸ (look_eq_file.1 there).2⟩
  simp only [Disk.database, lasting, here] at found
  -- Neither a database nor an empty file, which may become one, is read as a list.
  cases content with
  | database known => exact Database.parse_fileText known records parsed
  | text written =>
    by_cases bare : written.isEmpty
    next =>
      obtain rfl := String.isEmpty_iff.1 bare
      obtain ⟨_, _, chars, _⟩ := Json.parse_list parsed
      cases chars
    next =>
      simp only [bare] at found
      cases found

theorem putDatabase_putDatabase (first second : Database) :
    (disk.putDatabase path first).putDatabase path second = disk.putDatabase path second := by
  unfold putDatabase
  split
  · rfl
  · exact Keyed.put_put ..

theorem database_putDatabase (lasting : isFleeting path = false) (database : Database) :
    (disk.putDatabase path database).database path = .ok database := by
  have named := databasePath_isEmpty path
  have there : (disk.put (databasePath path) (.database database)).look (databasePath path) =
      .file (.database database) := look_eq_file.2 ⟨named, Keyed.find?_put_self ..⟩
  rw [putDatabase, lasting]
  simp [Disk.database, lasting, there]

theorem lists_putDatabase {certificates : Option CertificateTable}
    {requests : Option RequestTable} {file : String} {records : List Json}
    (lasting : isFleeting path = false)
    (found : disk.database path = .ok (.sound certificates requests))
    (listed : disk.Lists file records) (database : Database) :
    (disk.putDatabase path database).Lists file records := by
  have apart := plainPath_ne_of_lists lasting found listed
  obtain ⟨content, there, parsed⟩ := lists_iff.1 listed
  obtain ⟨named, kept⟩ := look_eq_file.1 there
  refine lists_iff.2 ⟨content, look_eq_file.2 ⟨named, ?_⟩, parsed⟩
  rw [putDatabase, lasting]
  exact (Keyed.find?_put_of_ne apart _ _).trans kept

end Disk

end DuplicateGuard
