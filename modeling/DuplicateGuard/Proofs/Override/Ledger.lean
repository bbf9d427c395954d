import DuplicateGuard.Proofs.Override.Rows
import DuplicateGuard.Store.Records

set_option autoImplicit false

namespace DuplicateGuard

namespace Records

def Keeps (records : Records) (textual : Bool) (requests : List OverrideRequest) : Prop :=
  match records with
  | .memory _ ledger => textual = false ∧ ledger = Keyed.named OverrideRequest.id requests
  | .stored database => textual = true ∧ database.requests = .ok (requests.map .of)

variable {records : Records} {textual : Bool} {requests : List OverrideRequest}

theorem Keeps.request_unknown {id : String} (keeps : records.Keeps textual requests)
    (unknown : requestIn? requests id = none) :
    records.request id = .error (.detection (.notFound id)) := by
  cases records with
  | memory corpus ledger =>
    obtain ⟨_, rfl⟩ := keeps
    simp only [Records.request, Keyed.find?_named]
    rw [show (requests.find? fun known => decide (known.id = id)) = none from unknown]
  | stored database =>
    obtain ⟨_, table⟩ := keeps
    simp only [Records.request, Database.request, table, Database.statement, Except.mapError, bind,
      Except.bind, RequestTable.find?_of, unknown, Option.map_none]
    rfl

theorem Keeps.request_known {id : String} {known : OverrideRequest}
    (keeps : records.Keeps textual requests) (found : requestIn? requests id = some known)
    (legible : known.legible textual = true) : records.request id = .ok known := by
  cases records with
  | memory corpus ledger =>
    obtain ⟨_, rfl⟩ := keeps
    simp only [Records.request, Keyed.find?_named]
    rw [show (requests.find? fun known => decide (known.id = id)) = some known from found]
  | stored database =>
    obtain ⟨rfl, table⟩ := keeps
    rw [Records.request, Database.request_of table found, RequestRow.request_of legible]
    rfl

theorem Keeps.request_illegible {id : String} {known : OverrideRequest}
    (keeps : records.Keeps textual requests) (found : requestIn? requests id = some known)
    (illegible : known.legible textual = false) :
    ∃ text, records.request id = .error (Database.unreadable text) := by
  cases records with
  | memory corpus ledger =>
    obtain ⟨rfl, _⟩ := keeps
    simp [OverrideRequest.legible] at illegible
  | stored database =>
    obtain ⟨rfl, table⟩ := keeps
    obtain ⟨text, unread⟩ := RequestRow.request_of_illegible illegible
    refine ⟨text, ?_⟩
    rw [Records.request, Database.request_of table found, unread]
    rfl

theorem Keeps.request_iff {id : String} {known : OverrideRequest}
    (keeps : records.Keeps textual requests) : records.request id = .ok known ↔
      requestIn? requests id = some known ∧ known.legible textual = true := by
  constructor
  next =>
    intro returned
    cases found : requestIn? requests id with
    | none => simp [keeps.request_unknown found] at returned
    | some other =>
      cases legible : other.legible textual with
      | false =>
        obtain ⟨text, unread⟩ := keeps.request_illegible found legible
        simp [unread] at returned
      | true =>
        rw [keeps.request_known found legible] at returned
        cases returned
        exact ⟨rfl, legible⟩
  next => exact fun ⟨found, legible⟩ => keeps.request_known found legible

theorem Keeps.addCertificate {certificate : Certificate} {larger : Records}
    (keeps : records.Keeps textual requests)
    (added : records.addCertificate certificate = .ok larger) : larger.Keeps textual requests := by
  cases records with
  | memory corpus ledger =>
    cases added
    exact keeps
  | stored database =>
    cases database with
    | garbage => cases added
    | sound certificates table =>
      cases certificates with
      | none => cases added
      | some known =>
        cases added
        cases table <;> exact keeps

theorem Keeps.addRequest {request : OverrideRequest} (keeps : records.Keeps textual requests)
    (new : request.id ∉ requests.map OverrideRequest.id) :
    ∃ larger, records.addRequest request = .ok larger ∧
      larger.Keeps textual (requests ++ [request]) := by
  cases records with
  | memory corpus ledger =>
    obtain ⟨rfl, rfl⟩ := keeps
    exact ⟨_, rfl, rfl, Keyed.put_named_of_new OverrideRequest.id new⟩
  | stored database =>
    obtain ⟨rfl, table⟩ := keeps
    obtain ⟨larger, added, table⟩ := Database.addRequest_new table new
    exact ⟨.stored larger, by rw [Records.addRequest, added]; rfl, rfl, table⟩

/-- What comes of a review at a time: its result, and the requests on record after it. A database
marks a pending request even when it cannot read it back. -/
inductive ReviewOutcome (textual : Bool) (requests : List OverrideRequest) (id : String)
    (status : ReviewStatus) (reviewer : String) (time : Instant) :
    Except Failure OverrideRequest → List OverrideRequest → Prop where
  | unknown (missing : requestIn? requests id = none) :
      ReviewOutcome textual requests id status reviewer time (.error (.detection (.notFound id)))
        requests
  | final (known : OverrideRequest) (found : requestIn? requests id = some known)
      (reviewed : known.status ≠ .pending) (legible : known.legible textual = true) :
      ReviewOutcome textual requests id status reviewer time
        (.error (.detection (.conflict id known.status.name))) requests
  | illegible (known : OverrideRequest) (found : requestIn? requests id = some known)
      (reviewed : known.status ≠ .pending) (illegible : known.legible textual = false)
      (text : String) : ReviewOutcome textual requests id status reviewer time
        (.error (Database.unreadable text)) requests
  | moved (known : OverrideRequest) (found : requestIn? requests id = some known)
      (pending : known.status = .pending)
      (legible : (known.reviewed status reviewer time).legible textual = true) :
      ReviewOutcome textual requests id status reviewer time
        (.ok (known.reviewed status reviewer time))
        (Keyed.replaceNamed OverrideRequest.id (known.reviewed status reviewer time) requests)
  | garbled (known : OverrideRequest) (found : requestIn? requests id = some known)
      (pending : known.status = .pending)
      (illegible : (known.reviewed status reviewer time).legible textual = false) (text : String) :
      ReviewOutcome textual requests id status reviewer time (.error (Database.unreadable text))
        (Keyed.replaceNamed OverrideRequest.id (known.reviewed status reviewer time) requests)

theorem stored_review {database : Database} {id reviewer : String} {status : ReviewStatus}
    {reviewedAt : Timestamp} {time : Instant} (table : database.requests = .ok (requests.map .of))
    (distinct : (requests.map OverrideRequest.id).Nodup)
    (inside : Records.instantOf reviewedAt = .ok time) :
    let reviewed := (Records.stored database).review id status reviewer reviewedAt
    ∃ requests', reviewed.2.Keeps true requests' ∧
      ReviewOutcome true requests id status reviewer time reviewed.1 requests' := by
  have kept : (Records.stored database).Keeps true requests := ⟨rfl, table⟩
  simp only [Records.review, inside]
  cases found : requestIn? requests id with
  | none =>
    rw [Database.mark_closed table distinct _ _ _ (by simp [found])]
    refine ⟨requests, kept, ?_⟩
    have read : database.request id = _ := kept.request_unknown found
    simp only [Database.confirm, read]
    exact .unknown found
  | some known =>
    by_cases pending : known.status = .pending
    next =>
      rw [Database.mark_pending table distinct _ _ _ found pending]
      let updated := known.reviewed status reviewer time
      let requests' := Keyed.replaceNamed OverrideRequest.id updated requests
      let marked := database.setRequests (requests'.map .of)
      have kept' : (Records.stored marked).Keeps true requests' :=
        ⟨rfl, Database.requests_setRequests table _⟩
      have found' := requestIn?_replaced found (known.reviewed_id status reviewer time)
      -- The row is marked for good before it is read back, whether or not that succeeds.
      refine ⟨requests', kept', ?_⟩
      cases legible : updated.legible true with
      | true =>
        have read : marked.request id = _ := kept'.request_known found' legible
        simp only [marked, requests', updated] at read
        simp only [Database.confirm, read]
        exact .moved known found pending legible
      | false =>
        obtain ⟨text, read⟩ : ∃ text, marked.request id = _ :=
          kept'.request_illegible found' legible
        simp only [marked, requests', updated] at read
        simp only [Database.confirm, read]
        exact .garbled known found pending legible text
    next =>
      -- No row is marked, and what is read back tells that someone was first.
      rw [Database.mark_closed table distinct _ _ _ (by simp [found, pending])]
      refine ⟨requests, kept, ?_⟩
      cases legible : known.legible true with
      | true =>
        have read : database.request id = _ := kept.request_known found legible
        simp only [Database.confirm, read]
        exact .final known found pending legible
      | false =>
        obtain ⟨text, read⟩ : ∃ text, database.request id = _ :=
          kept.request_illegible found legible
        simp only [Database.confirm, read]
        exact .illegible known found pending legible text

theorem Keeps.review {id reviewer : String} {status : ReviewStatus} {reviewedAt : Timestamp}
    {time : Instant} (keeps : records.Keeps textual requests)
    (distinct : (requests.map OverrideRequest.id).Nodup)
    (inside : Records.instantOf reviewedAt = .ok time) :
    ∃ requests', (records.review id status reviewer reviewedAt).2.Keeps textual requests' ∧
      ReviewOutcome textual requests id status reviewer time
        (records.review id status reviewer reviewedAt).1 requests' := by
  cases records with
  | memory corpus ledger =>
    obtain ⟨rfl, rfl⟩ := keeps
    have looked : Keyed.find? id (Keyed.named OverrideRequest.id requests) =
      requestIn? requests id := Keyed.find?_named _ _ _
    cases found : requestIn? requests id with
    | none =>
      simp only [Records.review, Ledger.pending, looked, found]
      exact ⟨requests, ⟨rfl, rfl⟩, .unknown found⟩
    | some known =>
      by_cases pending : known.status = .pending
      next =>
        obtain ⟨member, named⟩ := requestIn?_eq_some found
        have known' : (known.reviewed status reviewer time).id ∈
            requests.map OverrideRequest.id := by
          rw [OverrideRequest.reviewed_id]
          exact List.mem_map_of_mem member
        simp only [Records.review, Ledger.pending, looked, found, pending, if_true, inside]
        refine ⟨_, ⟨rfl, ?_⟩, .moved known found pending rfl⟩
        have put := Keyed.put_named_of_known OverrideRequest.id distinct known'
        rwa [OverrideRequest.reviewed_id, named] at put
      next =>
        simp only [Records.review, Ledger.pending, looked, found, pending, if_false]
        exact ⟨requests, ⟨rfl, rfl⟩, .final known found pending rfl⟩
  | stored database =>
    obtain ⟨rfl, table⟩ := keeps
    exact stored_review table distinct inside

theorem review_outside {id reviewer : String} {status : ReviewStatus} {reviewedAt : Timestamp}
    {failure : Failure} (outside : Records.instantOf reviewedAt = .error failure) :
    ∃ failure', records.review id status reviewer reviewedAt = (.error failure', records) := by
  cases records with
  | memory corpus ledger =>
    simp only [Records.review, outside]
    cases ledger.pending id with
    | error fault => exact ⟨_, rfl⟩
    | ok request => exact ⟨failure, rfl⟩
  | stored database =>
    simp only [Records.review, outside]
    exact ⟨failure, rfl⟩

end Records

end DuplicateGuard
