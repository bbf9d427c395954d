import DuplicateGuard.Proofs.CommandLine.ExitCodes
import DuplicateGuard.Proofs.Store.Files
import DuplicateGuard.Proofs.Store.Replacement
import Mathlib.Data.List.TakeWhile

set_option autoImplicit false

namespace DuplicateGuard

namespace Certificate

def ofRecord? (record : Json) : Option Certificate :=
  match Certificate.read record with
  | .valid certificate => some certificate
  | _ => none

def isRecord (record : Json) : Bool :=
  (ofRecord? record).isSome

def leading (records : List Json) : List Certificate :=
  (records.takeWhile isRecord).filterMap ofRecord?

theorem isOk_ofRecord (record : Json) :
    (Failure.ofChecked wireName (Certificate.read record)).isOk = isRecord record := by
  unfold isRecord ofRecord?
  cases Certificate.read record <;> rfl

theorem ofRecord?_eq_some {record : Json} {certificate : Certificate} :
    ofRecord? record = some certificate ↔ Certificate.read record = .valid certificate := by
  unfold ofRecord?
  cases Certificate.read record <;> simp

theorem leading_cons {record : Json} {certificate : Certificate}
    (read : ofRecord? record = some certificate) (rest : List Json) :
    leading (record :: rest) = certificate :: leading rest := by
  have one : isRecord record = true := by rw [isRecord, read]; rfl
  rw [leading, List.takeWhile_cons_of_pos one, List.filterMap_cons_some read, leading]

theorem leading_prefix {records repaired : List Json}
    (starts : records.takeWhile isRecord <+: repaired) : leading records <+: leading repaired := by
  obtain ⟨rest, rfl⟩ := starts
  have all : ∀ record ∈ records.takeWhile isRecord, isRecord record = true :=
    fun record inside => List.mem_takeWhile_imp inside
  rw [leading, leading, List.takeWhile_append_of_pos all, List.filterMap_append]
  exact List.prefix_append _ _

end Certificate

namespace Service

variable {service : Service} {table : CertificateTable} {requests : Option RequestTable}

theorem run_addRecords_cons {certificate : Certificate} {record : Json} {rest : List Json}
    (stored : service.records = .stored (.sound (some table) requests))
    (read : Certificate.read record = .valid certificate) :
    service.run (Command.addRecords (record :: rest)) =
      { service with records := .stored (.sound (some (table.replace (.of certificate)))
        requests) }.run (Command.addRecords rest) := by
  have added : service.records.addCertificate certificate =
      .ok (.stored (.sound (some (table.replace (.of certificate))) requests)) := by
    rw [stored]
    rfl
  have run : service.run (discard (addCertificate certificate)) = (.ok (), { service with
      records := .stored (.sound (some (table.replace (.of certificate))) requests) }) := by
    have known : service.run (addCertificate certificate) = (.ok certificate, { service with
        records := .stored (.sound (some (table.replace (.of certificate))) requests) }) := by
      simp only [addCertificate, run_bind, run_get, added, run_ofExcept, run_modify, run_pure]
    change service.run ((fun _ => ()) <$> addCertificate certificate) = _
    rw [run_map, known]
    rfl
  simp only [Command.addRecords, read, Failure.ofChecked, run_bind, run_ofExcept, run]

theorem run_addRecords (stored : service.records = .stored (.sound (some table) requests))
    (records : List Json) :
    (service.run (Command.addRecords records)).1.isOk = records.all Certificate.isRecord ∧
      (service.run (Command.addRecords records)).2 = { service with
        records := .stored (.sound (some (table.replaceAll (Certificate.leading records)))
          requests) } := by
  induction records generalizing service table with
  | nil => exact ⟨rfl, by simp [Certificate.leading, ← stored, Command.addRecords]⟩
  | cons record rest ih =>
    cases known : Certificate.ofRecord? record with
    | some certificate =>
      have read := Certificate.ofRecord?_eq_some.1 known
      have one : Certificate.isRecord record = true := by rw [Certificate.isRecord, known]; rfl
      rw [run_addRecords_cons stored read, List.all_cons, one, Bool.true_and,
        Certificate.leading_cons known, CertificateTable.replaceAll_cons]
      exact ih rfl
    | none =>
      have one : Certificate.isRecord record = false := by rw [Certificate.isRecord, known]; rfl
      have ends := Certificate.isOk_ofRecord record
      rw [one] at ends
      -- The first record that is no certificate ends the work, and those before it stay.
      have none : Certificate.leading (record :: rest) = [] := by
        simp [Certificate.leading, one]
      rw [List.all_cons, one, none, Bool.false_and, Command.addRecords, run_bind, run_ofExcept]
      cases read : Failure.ofChecked Certificate.wireName (Certificate.read record) with
      | ok certificate => rw [read] at ends; cases ends
      | error failure => exact ⟨rfl, by simp [← stored]⟩

end Service

namespace Session

variable {session : Session} {path file : String} {records : List Json}
  {certificates : Option CertificateTable} {requests : Option RequestTable}

theorem run_readJson (listed : session.disk.Lists file records) :
    session.run (readJson file) = (.ok (.arr records), session) := by
  obtain ⟨text, readable, parsed⟩ := listed
  unfold readJson
  simp only [run_bind, show session.run get = (.ok session, session) from rfl, readable,
    Except.mapError, run_attempt, parsed]
  rfl

theorem run_openCertificates (lasting : Disk.isFleeting path = false)
    (found : session.disk.database path = .ok (.sound certificates requests)) :
    let ready : Database := .sound (some (certificates.getD [])) requests
    session.run (openDatabase path (Database.openCertificatesAt path)) =
      (.ok ready, { session with disk := session.disk.putDatabase path ready }) := by
  intro ready
  have prepared : Database.openCertificatesAt path (.sound certificates requests) = .ok ready := rfl
  simp only [openDatabase, run_bind, show session.run get = (.ok session, session) from rfl, found,
    Database.statement, Except.mapError, run_attempt, prepared, lasting]
  rfl

theorem run_workOn {α : Type} (database : Database) (blocking : Bool) (work : Work α) :
    session.run (workOn path database blocking work) =
      (((session.service database blocking).run work).1,
        session.after path ((session.service database blocking).run work).2) := by
  unfold workOn
  rw [run_bind]
  exact run_attempt _ _

def imported (certificates : Option CertificateTable) (records : List Json) : CertificateTable :=
  (certificates.getD []).replaceAll (Certificate.leading records)

theorem run_loadFile (lasting : Disk.isFleeting path = false)
    (found : session.disk.database path = .ok (.sound certificates requests))
    (listed : session.disk.Lists file records) :
    (∃ result : Except Failure Unit, result.isOk = records.all Certificate.isRecord ∧
      session.outcome (Command.loadFile path file) = result.map fun _ => records.length) ∧
    (session.run (Command.loadFile path file)).2.disk =
      session.disk.putDatabase path (.sound (some (imported certificates records)) requests) := by
  let ready : Database := .sound (some (certificates.getD [])) requests
  let opened : Session := { session with disk := session.disk.putDatabase path ready }
  obtain ⟨ends, left⟩ := Service.run_addRecords
    (rfl : (opened.service ready false).records = .stored ready) records
  have run : session.run (Command.loadFile path file) =
      ((opened.run (workOn path ready false (Command.addRecords records))).1.map
        fun _ => records.length,
      (opened.run (workOn path ready false (Command.addRecords records))).2) := by
    unfold Command.loadFile
    simp only [run_bind, run_readJson listed, run_openCertificates lasting found]
    rcases opened.run (workOn path ready false (Command.addRecords records)) with ⟨_ | _, _⟩ <;> rfl
  rw [run_workOn] at run
  refine ⟨⟨_, ends, by rw [outcome, run]⟩, ?_⟩
  rw [run, after, left]
  exact Disk.putDatabase_putDatabase _ _

def importedText (count : Nat) (path : String) : String :=
  s!"Imported {count} certificates into {path}"

theorem closed_importedText (unmarked : ¬['[', '/'] <:+: path.toList) (count : Nat) :
    Markup.closed (importedText count path) = true := by
  have first : Markup.Bare "Imported ".toList := by decide
  have middle : Markup.Bare " certificates into ".toList := by decide
  have bare : Markup.Bare ("Imported " ++ toString count ++ " certificates into ").toList := by
    rw [String.toList_append, String.toList_append]
    exact (first.append (Markup.bare_toString count)).append middle
  exact Markup.closed_append bare unmarked

theorem performed_load (lasting : Disk.isFleeting path = false)
    (found : session.disk.database path = .ok (.sound certificates requests))
    (listed : session.disk.Lists file records) (level format : String) :
    (session.performed ⟨path, level, format, .load file⟩).1 =
        (if records.all Certificate.isRecord && Markup.closed (importedText records.length path)
          then ExitCode.success else ExitCode.failure) ∧
      (session.performed ⟨path, level, format, .load file⟩).2.disk =
        session.disk.putDatabase path (.sound (some (imported certificates records)) requests) := by
  obtain ⟨⟨result, ends, ended⟩, left⟩ := run_loadFile lasting found listed
  have steps : (Command.load file).perform path = Command.loadFile path file >>= fun count =>
      printMarkup (importedText count path) >>= fun _ => pure ExitCode.success := rfl
  rw [(performed_ends session _).1, (performed_ends session _).2, steps, ← ends, outcome, run_bind]
  rw [outcome] at ended
  rcases ran : session.run (Command.loadFile path file) with ⟨failure | count, after⟩
  all_goals
    rw [ran] at ended left
    cases result
  -- The command can only end as the loading inside it does.
  case error.error => exact ⟨rfl, left⟩
  case error.ok => cases ended
  case ok.error => cases ended
  case ok.ok =>
    obtain rfl : count = records.length := Except.ok.inj ended
    have told := prints_printMarkup (importedText records.length path)
    obtain ⟨code, kept⟩ : _ ∧ (after.run _).2.disk = _ := run_exit told ExitCode.success
    dsimp only
    rw [outcome] at code
    rw [code, kept, Except.isOk, Except.toBool, Bool.true_and]
    exact ⟨rfl, left⟩

/-- An import ends well exactly if all records are certificates and its message can be shown, and
unless a slash follows a bracket in the path it can. It writes the records before the first that is
none: the last one with an id stays, and certificates with other ids are kept. Importing a list that
begins with the same certificates then has the result that it has alone, and importing the same list
again changes nothing. -/
theorem import_repairable (lasting : Disk.isFleeting path = false)
    (found : session.disk.database path = .ok (.sound certificates requests))
    (listed : session.disk.Lists file records) (level format : String) :
    let ended := session.performed ⟨path, level, format, .load file⟩
    let written := Certificate.leading records
    let table := (certificates.getD []).replaceAll written
    (ended.1 = if records.all Certificate.isRecord && Markup.closed (importedText records.length path)
      then ExitCode.success else ExitCode.failure) ∧
    (¬['[', '/'] <:+: path.toList → ended.1 =
      if records.all Certificate.isRecord then ExitCode.success else ExitCode.failure) ∧
    ended.2.disk = session.disk.putDatabase path (.sound (some table) requests) ∧
    (∀ known, known.Last written → table.rowsOf known.id = [.of known]) ∧
    (∀ id, id ∉ written.map (·.id) → table.rowsOf id = (certificates.getD []).rowsOf id) ∧
    (∀ (again alone : Session) (repaired : String) (corrected : List Json),
      again.disk.database path = ended.2.disk.database path →
      alone.disk.database path = session.disk.database path →
      again.disk.Lists repaired corrected → alone.disk.Lists repaired corrected →
      records.takeWhile Certificate.isRecord <+: corrected →
      (again.performed ⟨path, level, format, .load repaired⟩).1 =
          (alone.performed ⟨path, level, format, .load repaired⟩).1 ∧
        (again.performed ⟨path, level, format, .load repaired⟩).2.disk.database path =
          (alone.performed ⟨path, level, format, .load repaired⟩).2.disk.database path) ∧
    (ended.2.performed ⟨path, level, format, .load file⟩).1 = ended.1 ∧
    (ended.2.performed ⟨path, level, format, .load file⟩).2.disk = ended.2.disk := by
  intro ended written table
  obtain ⟨code, disk⟩ := performed_load lasting found listed level format
  have stored : ended.2.disk.database path = .ok (.sound (some table) requests) :=
    disk ▸ Disk.database_putDatabase lasting _
  refine ⟨code, fun unmarked => ?_, disk,
    fun known last => CertificateTable.rowsOf_replaceAll_last last _,
    fun id new => CertificateTable.rowsOf_replaceAll_other new _, ?_, ?_⟩
  · rw [closed_importedText unmarked, Bool.and_true] at code
    exact code
  · intro again alone repaired corrected after before listedAgain listedAlone starts
    obtain ⟨codeAgain, diskAgain⟩ :=
      performed_load lasting (after.trans stored) listedAgain level format
    obtain ⟨codeAlone, diskAlone⟩ :=
      performed_load lasting (before.trans found) listedAlone level format
    refine ⟨codeAgain.trans codeAlone.symm, ?_⟩
    -- The certificates that are there already begin the corrected list and are written again.
    have same : imported (some table) corrected = imported certificates corrected :=
      CertificateTable.replaceAll_again (Certificate.leading_prefix starts) _
    rw [diskAgain, diskAlone, Disk.database_putDatabase lasting, Disk.database_putDatabase lasting,
      same]
  · have kept : ended.2.disk.Lists file records :=
      disk ▸ Disk.lists_putDatabase lasting found listed _
    obtain ⟨codeTwice, diskTwice⟩ := performed_load lasting stored kept level format
    have same : imported (some table) records = table :=
      CertificateTable.replaceAll_again (List.prefix_refl _) _
    refine ⟨codeTwice.trans code.symm, ?_⟩
    rw [diskTwice, same, disk]
    exact Disk.putDatabase_putDatabase _ _

def earlyRecord (id : String) : Json :=
  .obj [("id", .str id), ("issuedAt", .int 0)]

def brokenList : String :=
  "[\x7b\"id\":\"a\",\"issuedAt\":0\x7d,5]"

def repairedList : String :=
  "[\x7b\"id\":\"a\",\"issuedAt\":0\x7d,\x7b\"id\":\"b\",\"issuedAt\":0\x7d]"

theorem parse_brokenList : Json.parse brokenList = .ok (.arr [earlyRecord "a", .int 5]) := by
  simp [brokenList, earlyRecord, Json.parse, Json.document, Json.value, Json.items, Json.members,
    Json.stringBody, Except.map, Json.skipSpace, Json.isSpace, Json.word?, Json.words,
    Json.afterWord?, Json.number?, Json.wholePart, Json.digitRun, Json.fractionPart,
    Json.exponentPart, Json.maxDigits, Json.natOfDigits, Except.mapError, Keyed.put]

theorem parse_repairedList :
    Json.parse repairedList = .ok (.arr [earlyRecord "a", earlyRecord "b"]) := by
  simp [repairedList, earlyRecord, Json.parse, Json.document, Json.value, Json.items, Json.members,
    Json.stringBody, Except.map, Json.skipSpace, Json.isSpace, Json.word?, Json.words,
    Json.afterWord?, Json.number?, Json.wholePart, Json.fractionPart, Json.exponentPart,
    Json.maxDigits, Json.natOfDigits, Except.mapError, Keyed.put]

def listedSession : Session where
  disk := Disk.putDatabase
    [("broken.json", .text brokenList), ("repaired.json", .text repairedList)] "guard.db" .empty
  clock := markedSession.clock

def importOf (file : String) : Invocation :=
  ⟨"guard.db", "WARNING", "text", .load file⟩

theorem lists_listedSession :
    listedSession.disk.Lists "broken.json" [earlyRecord "a", .int 5] ∧
      listedSession.disk.Lists "repaired.json" [earlyRecord "a", earlyRecord "b"] := by
  have broken : Settings.plainPath "broken.json" = "broken.json" := by decide +kernel
  have repaired : Settings.plainPath "repaired.json" = "repaired.json" := by decide +kernel
  have first : listedSession.disk.look "broken.json" = .file (.text brokenList) :=
    Disk.look_eq_file.2 ⟨by decide, by rw [broken]; rfl⟩
  have second : listedSession.disk.look "repaired.json" = .file (.text repairedList) :=
    Disk.look_eq_file.2 ⟨by decide, by rw [repaired]; rfl⟩
  exact ⟨Disk.lists_of_text first (by decide +kernel) parse_brokenList,
    Disk.lists_of_text second (by decide +kernel) parse_repairedList⟩

theorem import_repairable_broken :
    (listedSession.performed (importOf "broken.json")).1 = ExitCode.failure ∧
      (listedSession.performed (importOf "repaired.json")).1 = ExitCode.success ∧
      ((listedSession.performed (importOf "broken.json")).2.performed
        (importOf "repaired.json")).1 = ExitCode.success ∧
      ((listedSession.performed (importOf "broken.json")).2.performed
          (importOf "repaired.json")).2.disk.database "guard.db" =
        (listedSession.performed (importOf "repaired.json")).2.disk.database "guard.db" := by
  have lasting : Disk.isFleeting "guard.db" = false := by decide
  have found : listedSession.disk.database "guard.db" = .ok (.sound none none) :=
    show (Disk.putDatabase _ "guard.db" _).database "guard.db" = .ok .empty from
      Disk.database_putDatabase lasting .empty
  obtain ⟨broken, whole⟩ := lists_listedSession
  have first : Certificate.isRecord (earlyRecord "a") = true := by decide +kernel
  have second : Certificate.isRecord (earlyRecord "b") = true := by decide +kernel
  have number : Certificate.isRecord (.int 5) = false := by decide +kernel
  have unmarked : ¬['[', '/'] <:+: "guard.db".toList := by decide +kernel
  obtain ⟨_, failed, left, _, _, repairs, _⟩ :=
    import_repairable lasting found broken "WARNING" "text"
  obtain ⟨_, alone, _⟩ := import_repairable lasting found whole "WARNING" "text"
  have kept : (listedSession.performed (importOf "broken.json")).2.disk.Lists "repaired.json"
      [earlyRecord "a", earlyRecord "b"] := by
    rw [importOf, left]
    exact Disk.lists_putDatabase lasting found whole _
  have starts : [earlyRecord "a", .int 5].takeWhile Certificate.isRecord <+:
      [earlyRecord "a", earlyRecord "b"] := by
    simp [List.takeWhile, first, number]
  obtain ⟨sameCode, sameStore⟩ :=
    repairs (listedSession.performed (importOf "broken.json")).2 listedSession "repaired.json" _
      (by rw [importOf]) rfl kept whole starts
  specialize failed unmarked
  specialize alone unmarked
  simp only [List.all_cons, number, Bool.and_false, Bool.false_and, Bool.false_eq_true,
    if_false] at failed
  simp only [List.all_cons, first, second, List.all_nil, Bool.and_true, if_true] at alone
  unfold importOf at sameCode sameStore ⊢
  exact ⟨failed, alone, sameCode.trans alone, sameStore⟩

/-- A path to the file `b].db`, in which the text between its brackets closes a style. -/
def markedPath : String :=
  "a[/../b].db"

/-- Both records are stored, and the message that says so cannot be shown. -/
theorem import_marked_path :
    let ended := listedSession.performed ⟨markedPath, "WARNING", "text", .load "repaired.json"⟩
    let stored := ended.2.disk.database "b].db" >>= Database.certificates
    [earlyRecord "a", earlyRecord "b"].all Certificate.isRecord = true ∧
      listedSession.disk.Lists "repaired.json" [earlyRecord "a", earlyRecord "b"] ∧
      stored.toOption.map (List.map CertificateRow.id) = some ["a", "b"] ∧
      ended.1 = ExitCode.failure := by
  intro ended stored
  refine ⟨?_, lists_listedSession.2, ?_, ?_⟩
  all_goals decide +kernel

end Session

end DuplicateGuard
