import DuplicateGuard.CommandLine.Commands
import DuplicateGuard.Proofs.Result
import DuplicateGuard.Proofs.Terminal.Markup

set_option autoImplicit false

namespace DuplicateGuard

namespace Session

variable {α β : Type}

theorem run_attempt (session : Session) (result : Except Failure α) :
    session.run (attempt result) = (result, session) := by
  cases result <;> rfl

theorem run_bind (session : Session) (act : Act α) (next : α → Act β) :
    session.run (act >>= next) =
      match session.run act with
      | (.ok value, after) => after.run (next value)
      | (.error failure, after) => (.error failure, after) := by
  simp only [run, ExceptT.run_bind, StateT.run_bind]
  rcases (ExceptT.run act).run session with ⟨_ | _, _⟩ <;> rfl

/-- An act that does nothing but print, and that succeeds exactly if its markup is `closed`. -/
def Prints (act : Act α) (closed : Bool) : Prop :=
  ∀ session : Session, (session.run act).1.isOk = closed ∧
    ∃ printed, (session.run act).2 = { session with printed := printed }

theorem prints_pure (value : α) : Prints (pure value) true :=
  fun session => ⟨rfl, session.printed, rfl⟩

theorem prints_get : Prints (get : Act Session) true :=
  fun session => ⟨rfl, session.printed, rfl⟩

theorem prints_printLines (lines : List (List Char)) : Prints (printLines lines) true :=
  fun session => ⟨rfl, (session.withLines lines).printed, rfl⟩

theorem prints_shown (markup : String) : Prints (shown markup) (Markup.closed markup) := by
  intro session
  rw [shown, attemptForeign, run_attempt]
  refine ⟨?_, session.printed, rfl⟩
  rw [Markup.closed]
  cases Markup.plain markup.toList <;> rfl

theorem Prints.bind {act : Act α} {next : α → Act β} {first rest : Bool}
    (here : Prints act first) (later : ∀ value, Prints (next value) rest) :
    Prints (act >>= next) (first && rest) := by
  intro session
  obtain ⟨succeeds, printed, same⟩ := here session
  rw [run_bind]
  rcases ran : session.run act with ⟨failure | value, after⟩
  · rw [ran] at succeeds same
    subst succeeds
    exact ⟨rfl, printed, same⟩
  · rw [ran] at succeeds same
    subst succeeds same
    obtain ⟨succeeds, printed', same⟩ := later value { session with printed := printed }
    exact ⟨succeeds, printed', same⟩

theorem Prints.before {act : Act α} {next : α → Act β} {closed : Bool} (here : Prints act closed)
    (later : ∀ value, Prints (next value) true) : Prints (act >>= next) closed := by
  have both := here.bind later
  rwa [Bool.and_true] at both

theorem Prints.mapM {f : α → Act β} {closed : α → Bool} (each : ∀ item, Prints (f item) (closed item))
    (items : List α) : Prints (items.mapM f) (items.all closed) := by
  induction items with
  | nil => exact prints_pure []
  | cons item rest ih =>
    rw [List.mapM_cons, List.all_cons]
    exact (each item).bind fun _ => ih.before fun _ => prints_pure _

theorem Prints.unless {act : Act Unit} {closed : Bool} (prints : Prints act closed)
    (done : Bool) : Prints (if !done then act else pure ()) (done || closed) := by
  cases done with
  | true => exact prints_pure ()
  | false => exact prints

theorem prints_printMarkup (markup : String) : Prints (printMarkup markup) (Markup.closed markup) :=
  (prints_shown markup).before fun _ => prints_get.before fun _ => prints_printLines _

theorem prints_printJson (value : Json) : Prints (printJson value) true :=
  prints_printLines _

end Session

namespace View

open Session

theorem prints_printPanel (title markup : String) :
    Prints (printPanel title markup) (Markup.closed markup) :=
  (prints_shown markup).before fun _ => prints_get.before fun _ => prints_printLines _

variable {Row : Type}

theorem prints_fill (rows : List Row) (column : ColumnOf Row) :
    Prints (column.fill rows) (rows.all fun row => Markup.closed (column.cell row)) :=
  (Prints.mapM (fun row => prints_shown (column.cell row)) rows).before fun _ => prints_pure _

theorem prints_tableOf (frame : Terminal.Frame) (columns : List (ColumnOf Row)) (rows : List Row) :
    Prints (tableOf frame columns rows)
      (columns.all fun column => rows.all fun row => Markup.closed (column.cell row)) :=
  (Prints.mapM (prints_fill rows) columns).before fun _ => prints_pure _

theorem bare_text_of_no_value {x : Double} (none : x.toRat? = none) : Markup.Bare x.text.toList := by
  cases x with
  | finite value => cases none
  | negZero => cases none
  | infinite negative => cases negative <;> decide
  | nan => decide

theorem bare_percentText (x : Double) : Markup.Bare x.percentText.toList := by
  rw [Double.percentText, String.toList_append, Double.fixedText]
  refine Markup.Bare.append ?_ (by decide)
  split
  next q _ =>
    rw [String.toList_append]
    refine Markup.Bare.append ?_ (Markup.bare_toString _)
    split <;> decide
  next none => exact bare_text_of_no_value none

theorem bare_dayText (time : CivilTime) : Markup.Bare time.dayText.toList := by
  simp only [CivilTime.dayText, CivilTime.monthDayText, String.toList_append]
  exact ((Markup.bare_toString _).append (by decide)).append
    (((Markup.bare_padNat _ _).append (by decide)).append (Markup.bare_padNat _ _))

theorem bare_dayAndMinuteText (time : CivilTime) : Markup.Bare time.dayAndMinuteText.toList := by
  simp only [CivilTime.dayAndMinuteText, CivilTime.minuteText, String.toList_append]
  exact ((bare_dayText time).append (by decide)).append
    (((Markup.bare_padNat _ _).append (by decide)).append (Markup.bare_padNat _ _))

def matchTexts (found : Match Double) : List String := [
  found.certificateId,
  found.ruleId.getD "",
  firstFilled [found.particulars.recipientEmail, found.particulars.recipientName],
  found.particulars.title.getD ""]

def decisionTexts (decision : Decision Double) : List String :=
  decision.found.flatMap matchTexts

theorem matchColumns_closed (found : Match Double) :
    (matchColumns.all fun column => Markup.closed (column.cell found)) =
      (matchTexts found).all Markup.closed := by
  have day := Markup.closed_of_bare (bare_dayText found.issuedAt.reading)
  have score := Markup.closed_of_bare (bare_percentText found.score)
  have kind : Markup.closed found.kind.name = true :=
    Markup.closed_of_bare (by cases found.kind <;> decide)
  simp [matchColumns, matchTexts, day, score, kind]

theorem all_all_comm {α β : Type} (p : α → β → Bool) (xs : List α) (ys : List β) :
    (xs.all fun x => ys.all fun y => p x y) = ys.all fun y => xs.all fun x => p x y := by
  rw [Bool.eq_iff_iff]
  simp only [List.all_eq_true]
  exact ⟨fun all y inY x inX => all x inX y inY, fun all x inX y inY => all y inY x inX⟩

theorem prints_printDecision (decision : Decision Double) :
    Prints (printDecision decision)
      (Markup.closed (decisionText decision) && (decisionTexts decision).all Markup.closed) := by
  -- A table is filled column by column; the texts are those of one match after the other.
  have table : (decision.found.isEmpty || matchColumns.all fun column => decision.found.all fun found =>
      Markup.closed (column.cell found)) = (decisionTexts decision).all Markup.closed := by
    rw [all_all_comm, decisionTexts, List.all_flatMap]
    simp only [matchColumns_closed]
    cases decision.found <;> rfl
  rw [← table]
  exact (prints_printPanel _ _).bind fun _ => Prints.unless
    ((prints_tableOf _ _ _).before fun _ => prints_get.before fun _ => prints_printLines _) _

theorem countColumns_closed (entry : String × Int) :
    (countColumns.all fun column => Markup.closed (column.cell entry)) = Markup.closed entry.1 := by
  have count := Markup.closed_of_bare (Markup.bare_toString_int entry.2)
  simp only [countColumns, List.all_cons, List.all_nil, count, Bool.and_true]

theorem prints_printCounts (title : String) (counts : Keyed Int) :
    Prints (printCounts title counts) (counts.keys.all Markup.closed) := by
  let sorted := counts.mergeSort fun a b => decide (a.1 ≤ b.1)
  have keys : (countColumns.all fun column => sorted.all fun entry =>
      Markup.closed (column.cell entry)) = counts.keys.all Markup.closed := by
    rw [all_all_comm, Keyed.keys, List.all_map]
    simp only [countColumns_closed]
    exact (List.mergeSort_perm counts _).all_eq
  have table : (counts.isEmpty || counts.keys.all Markup.closed) = counts.keys.all Markup.closed := by
    cases counts <;> rfl
  rw [← table, ← keys]
  exact Prints.unless
    ((prints_tableOf _ _ _).before fun _ => prints_get.before fun _ => prints_printLines _) _

theorem closed_reportText (report : Report) : Markup.closed (reportText report) = true := by
  have text : reportText report = "[bold]" ++ toString report.total ++ "[/bold]" ++
      (" flagged certificates between " ++ report.range.start.reading.dayAndMinuteText ++ " and " ++
        report.range.stop.reading.dayAndMinuteText) := by
    apply String.toList_inj.1
    simp [reportText]
  rw [text]
  refine Markup.closed_bold (Markup.bare_toString_int _) ?_
  simp only [String.toList_append]
  exact ((Markup.Bare.append (by decide) (bare_dayAndMinuteText _)).append (by decide)).append
    (bare_dayAndMinuteText _)

theorem prints_printReport (report : Report) :
    Prints (printReport report)
      (report.byIssuer.keys.all Markup.closed && report.byKind.keys.all Markup.closed) := by
  have panel := prints_printPanel ("Duplicate Report " ++ report.id) (reportText report)
  rw [closed_reportText] at panel
  exact panel.bind fun _ => (prints_printCounts _ _).bind fun _ => prints_printCounts _ _

theorem closed_decisionText {decision : Decision Double}
    (plain : Markup.Bare decision.message.toList) :
    Markup.closed (decisionText decision) = true := by
  let action := String.ofList (decision.action.name.toList.map Char.toUpper)
  let summary := if decision.message.isEmpty then "No duplicates found." else decision.message
  have text : decisionText decision = "[bold]" ++ action ++ "[/bold]" ++
      ("  confidence " ++ decision.confidence.percentText ++ "\n" ++ summary) := by
    apply String.toList_inj.1
    simp [decisionText, action, summary]
  have name : Markup.Bare action.toList := by
    cases same : decision.action <;> simp only [action, same] <;> decide
  have told : Markup.Bare summary.toList := by
    simp only [summary]
    split
    · decide
    · exact plain
  rw [text]
  refine Markup.closed_bold name ?_
  simp only [String.toList_append]
  exact ((Markup.Bare.append (by decide) (bare_percentText _)).append (by decide)).append told

theorem prints_printRequests (requests : List OverrideRequest) :
    Prints (printRequests requests)
      (requests.all fun request => Markup.closed (requestText request)) := by
  induction requests with
  | nil => exact prints_pure ()
  | cons request rest ih => exact (prints_printMarkup _).bind fun _ => ih

end View

end DuplicateGuard
