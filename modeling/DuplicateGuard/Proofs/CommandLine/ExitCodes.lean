import DuplicateGuard.Proofs.CommandLine.Printing
import DuplicateGuard.Proofs.Detection.Findings

set_option autoImplicit false

namespace DuplicateGuard

theorem bare_verdictMessage (found : List (Match Double)) (action : Action) :
    Markup.Bare (verdictMessage found action).toList := by
  have number (n : Nat) := Markup.bare_toString n
  have share (n : Int) := Markup.bare_toString_int n
  unfold verdictMessage
  split
  next => decide
  next => decide
  next =>
    dsimp only
    split
    all_goals
      simp only [String.toList_append]
      exact ((((Markup.Bare.append (by decide) (number _)).append (by decide)).append (share _)).append
        (by decide))

namespace Service

variable {service : Service}

theorem bare_message_of_check {candidate : Candidate} {policy : Policy Double}
    {decision : Decision Double}
    (returned : service.result? (check .standard candidate policy) = some decision) :
    Markup.Bare decision.message.toList := by
  rw [result?_check, decision?] at returned
  split at returned
  next =>
    obtain ⟨found, _, rfl⟩ := Option.map_eq_some_iff.1 returned
    exact bare_verdictMessage _ _
  next =>
    cases returned
    decide

theorem ofFlagged_of_report {start stop : Timestamp} {made : Report}
    (returned : service.result? (report start stop) = some made) :
    ∃ id first last now flagged, made = .ofFlagged id first last now flagged := by
  unfold report at returned
  simp only [result?_bind, Option.bind_eq_some_iff] at returned
  obtain ⟨first, _, last, _, returned⟩ := returned
  split at returned
  next =>
    rw [result?_bind] at returned
    cases returned
  next =>
    simp only [result?_bind, Option.bind_eq_some_iff] at returned
    obtain ⟨flagged, _, here, _, id, _, _, _, same⟩ := returned
    cases same
    exact ⟨id, first, last, here.clock, flagged, rfl⟩

end Service

namespace Report

theorem mem_of_mem_tally {keys : List String} {key : String} (counted : key ∈ (tally keys).keys) :
    key ∈ keys := by
  -- What is counted at the end was counted at the beginning or comes later.
  have step (counts : Keyed Int) (rest : List String)
      (inside : key ∈ (rest.foldl (fun counts key =>
        Keyed.put key ((Keyed.find? key counts).getD 0 + 1) counts) counts).keys) :
      key ∈ counts.keys ∨ key ∈ rest := by
    induction rest generalizing counts with
    | nil => exact .inl inside
    | cons first rest ih =>
      rcases ih _ inside with known | later
      · rw [Keyed.keys_put] at known
        split at known
        · exact .inl known
        · rcases List.mem_append.1 known with known | new
          · exact .inl known
          · exact .inr (List.mem_singleton.1 new ▸ .head rest)
      · exact .inr (.tail first later)
  rcases step [] keys counted with none | inside
  · cases none
  · exact inside

end Report

namespace ExitCode

variable {α : Type}

def ofOutcome : Except Failure Nat → Nat
  | .ok code => code
  | .error _ => failure

def ofResult (result : Except Failure α) (shown : α → Bool) (code : α → Nat) : Nat :=
  match result with
  | .ok value => if shown value then code value else failure
  | .error _ => failure

end ExitCode

namespace Session

variable {α β : Type}

def outcome (session : Session) (act : Act α) : Except Failure α :=
  (session.run act).1

theorem outcome_bind_eq_ok {session : Session} {act : Act α} {next : α → Act β} {value : β} :
    session.outcome (act >>= next) = .ok value ↔
      ∃ first, session.outcome act = .ok first ∧
        (session.run act).2.outcome (next first) = .ok value := by
  simp only [outcome, run_bind]
  rcases session.run act with ⟨_ | _, _⟩ <;> simp

theorem result?_of_serve {session : Session} {path : String} {blocking : Bool} {work : Work α}
    {value : α} (ended : session.outcome (serve path blocking work) = .ok value) :
    ∃ service : Service, service.result? work = some value := by
  obtain ⟨database, _, ended⟩ := outcome_bind_eq_ok.1 ended
  obtain ⟨here, _, ended⟩ := outcome_bind_eq_ok.1 ended
  obtain ⟨_, _, ended⟩ := outcome_bind_eq_ok.1 ended
  rw [outcome, run_attempt] at ended
  exact ⟨here.service database blocking, toOption_eq_some.2 ended⟩

theorem run_exit {session : Session} {act : Act β} {closed : Bool} (prints : Prints act closed)
    (code : Nat) :
    ExitCode.ofOutcome (session.outcome (act >>= fun _ => pure code)) =
        (if closed then code else ExitCode.failure) ∧
      (session.run (act >>= fun _ => pure code)).2.disk = session.disk := by
  obtain ⟨succeeds, printed, same⟩ := prints session
  rw [outcome, run_bind]
  rcases ran : session.run act with ⟨failure | value, after⟩
  all_goals
    rw [ran] at succeeds same
    subst succeeds same
    exact ⟨rfl, rfl⟩

theorem run_told {session : Session} {work : Act α} {wire : α → Json} {view : α → Act Unit}
    {shown : α → Bool} (json : Bool) (code : α → Nat)
    (prints : ∀ value, session.outcome work = .ok value → Prints (view value) (shown value)) :
    let told := do
      let value ← work
      if json then printJson (wire value) else view value
      return code value
    ExitCode.ofOutcome (session.outcome told) =
        ExitCode.ofResult (session.outcome work) (fun value => json || shown value) code ∧
      (session.run told).2.disk = (session.run work).2.disk := by
  intro told
  simp only [told, outcome, run_bind]
  rcases ran : session.run work with ⟨failure | value, after⟩
  next => exact ⟨rfl, rfl⟩
  next =>
    have ended : session.outcome work = .ok value := by rw [outcome, ran]
    cases json with
    | true => exact run_exit (prints_printJson _) _
    | false => exact run_exit (prints value ended) _

theorem performed_ends (session : Session) (invocation : Invocation) :
    (session.performed invocation).1 =
        ExitCode.ofOutcome (session.outcome (invocation.command.perform invocation.databasePath)) ∧
      (session.performed invocation).2.disk =
        (session.run (invocation.command.perform invocation.databasePath)).2.disk := by
  unfold performed outcome
  rcases session.run _ with ⟨failure | code, after⟩ <;> exact ⟨rfl, rfl⟩

end Session

namespace View

def answerTexts : Command.OverrideAnswer → List String
  | .one request => [requestText request]
  | .many requests => requests.map requestText

theorem prints_printAnswer (answer : Command.OverrideAnswer) :
    Session.Prints (Command.printAnswer answer) ((answerTexts answer).all Markup.closed) := by
  cases answer with
  | one request =>
    have prints := Session.prints_printMarkup (requestText request)
    rwa [← Bool.and_true (Markup.closed _)] at prints
  | many requests =>
    have prints := prints_printRequests requests
    rwa [← Function.comp_def, ← List.all_map] at prints

end View

namespace Session

variable {session : Session} {path : String}

theorem prints_checked {candidate : String} {config : Option String} {preset : Preset}
    {blocking : Bool} {decision : Decision Double}
    (checked : session.outcome (Command.checkFile path candidate config preset blocking) =
      .ok decision) :
    Prints (View.printDecision decision) ((View.decisionTexts decision).all Markup.closed) := by
  obtain ⟨input, _, checked⟩ := outcome_bind_eq_ok.1 checked
  obtain ⟨candidate, _, checked⟩ := outcome_bind_eq_ok.1 checked
  obtain ⟨here, _, checked⟩ := outcome_bind_eq_ok.1 checked
  obtain ⟨policy, _, checked⟩ := outcome_bind_eq_ok.1 checked
  -- The message is the service's own, so it has no text of a record in it.
  obtain ⟨service, returned⟩ := result?_of_serve checked
  have prints := View.prints_printDecision decision
  rwa [View.closed_decisionText (Service.bare_message_of_check returned), Bool.true_and] at prints

theorem prints_reported {start stop : String} {report : Report}
    (reported : session.outcome (Command.reportOn path start stop) = .ok report) :
    Prints (View.printReport report) (report.byIssuer.keys.all Markup.closed) := by
  obtain ⟨first, _, reported⟩ := outcome_bind_eq_ok.1 reported
  obtain ⟨last, _, reported⟩ := outcome_bind_eq_ok.1 reported
  obtain ⟨service, returned⟩ := result?_of_serve reported
  obtain ⟨id, first, last, now, flagged, rfl⟩ := Service.ofFlagged_of_report returned
  have kinds : ∀ key ∈ (Report.ofFlagged id first last now flagged).byKind.keys,
      Markup.closed key = true := by
    intro key counted
    obtain ⟨certificate, _, rfl⟩ := List.mem_map.1 (Report.mem_of_mem_tally counted)
    exact Markup.closed_of_bare (by cases DuplicateClass.of certificate <;> decide)
  have prints := View.prints_printReport (Report.ofFlagged id first last now flagged)
  rwa [List.all_eq_true.2 kinds, Bool.and_true] at prints

theorem performed_disk (session : Session) (path level format : String) (command : OverrideCommand)
    (json : Bool) :
    (session.performed ⟨path, level, format, .override command json⟩).2.disk =
      (session.run (serve path false (Command.overrideWork command))).2.disk := by
  rw [(performed_ends session _).2]
  exact (run_told json _ fun answer _ => View.prints_printAnswer answer).2

/-- As JSON, a command ends with the code of its result. On a terminal it does so exactly if the
stored texts that it shows close no style that is not open; if one does, it ends as a failure. -/
theorem performed_code (session : Session) (path level format : String) (json : Bool) :
    (∀ candidate config preset blocking,
      (session.performed ⟨path, level, format, .check candidate config preset blocking json⟩).1 =
        ExitCode.ofResult
          (session.outcome (Command.checkFile path candidate config preset blocking))
          (fun decision => json || (View.decisionTexts decision).all Markup.closed)
          (fun decision => ExitCode.ofAction decision.action)) ∧
    (∀ start stop,
      (session.performed ⟨path, level, format, .report start stop json⟩).1 =
        ExitCode.ofResult (session.outcome (Command.reportOn path start stop))
          (fun report => json || report.byIssuer.keys.all Markup.closed)
          (fun _ => ExitCode.success)) ∧
    ∀ command,
      (session.performed ⟨path, level, format, .override command json⟩).1 =
        ExitCode.ofResult (session.outcome (serve path false (Command.overrideWork command)))
          (fun answer => json || (View.answerTexts answer).all Markup.closed)
          (fun _ => ExitCode.success) := by
  refine ⟨fun candidate config preset blocking => ?_, fun start stop => ?_, fun command => ?_⟩
  all_goals rw [(performed_ends session _).1]
  · exact (run_told json _ fun _ => prints_checked).1
  · exact (run_told json _ fun _ => prints_reported).1
  · exact (run_told json _ fun answer _ => View.prints_printAnswer answer).1

def markedTitle : String := "[/]"

def markedCertificate : Certificate where
  id := "cert-1"
  particulars := { title := markedTitle }
  issuedAt := ⟨⟨63850550400000000, by decide⟩⟩

def markedDatabase : Except Failure Database := do
  let database ← Database.openAt "guard.db" .empty
  database.addCertificate markedCertificate

def titleRule : String :=
  "\x7b\"rules\": [\x7b\"id\": \"title\", \"name\": \"Title\", \"action\": \"block\", \"threshold\": 1,
    \"checkFields\": [\"title\"]\x7d]\x7d"

def markedSession : Session where
  disk := [
    ("guard.db", .database (markedDatabase.toOption.getD .garbage)),
    ("candidate.json", .text "\x7b\"title\": \"[/]\"\x7d"),
    ("config.json", .text titleRule)]
  clock := { reading := markedCertificate.issuedAt.utc, offset := some 0 }

def markedCheck (json : Bool) : Invocation where
  databasePath := "guard.db"
  logLevel := "WARNING"
  logFormat := "text"
  command := .check "candidate.json" (some "config.json") .standard false json

theorem performed_code_marked :
    (markedSession.performed (markedCheck true)).1 = ExitCode.ofAction .block ∧
      (markedSession.performed (markedCheck false)).1 = ExitCode.failure := by
  constructor <;> decide +kernel

end Session

end DuplicateGuard
