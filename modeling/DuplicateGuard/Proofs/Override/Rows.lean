import DuplicateGuard.Proofs.Keyed
import DuplicateGuard.Proofs.Time.ColumnText
import DuplicateGuard.Store.Database
import DuplicateGuard.Override.Ledger
import Mathlib.Data.List.Nodup

set_option autoImplicit false

namespace DuplicateGuard

/-- Whether records can read a request back, where `textual` tells whether they keep texts. -/
def OverrideRequest.legible (textual : Bool) (request : OverrideRequest) : Bool :=
  !textual || decide (1000 ≤ request.createdAt.utc.year) &&
    request.reviewedAt.all fun time => decide (1000 ≤ time.utc.year)

@[simp] theorem OverrideRequest.reviewed_id (request : OverrideRequest) (status : ReviewStatus)
    (reviewer : String) (time : Instant) : (request.reviewed status reviewer time).id = request.id := by
  cases status <;> rfl

@[simp] theorem OverrideRequest.reviewed_certificateId (request : OverrideRequest)
    (status : ReviewStatus) (reviewer : String) (time : Instant) :
    (request.reviewed status reviewer time).certificateId = request.certificateId := by
  cases status <;> rfl

namespace RequestRow

theorem readTime_write {time : Instant} (fourDigits : 1000 ≤ time.utc.year) :
    readTime (Column.write time) = .ok time := by
  simp [readTime, Column.read?_write _ fourDigits]

theorem readTime_write_early {time : Instant} (early : ¬1000 ≤ time.utc.year) :
    readTime (Column.write time) = .error (Column.write time) := by
  simp [readTime, Column.read?_write_early _ (Nat.lt_of_not_le early)]

theorem request_of {request : OverrideRequest} (legible : request.legible true = true) :
    (RequestRow.of request).request = .ok request := by
  obtain ⟨id, certificateId, reason, requestedBy, approvedBy, rejectedBy, status, createdAt,
    reviewedAt⟩ := request
  simp only [OverrideRequest.legible, Bool.not_true, Bool.false_or, Bool.and_eq_true,
    decide_eq_true_eq] at legible
  cases reviewedAt with
  | none =>
    simp only [RequestRow.request, RequestRow.of, readTime_write legible.1]
    rfl
  | some time =>
    have dated : 1000 ≤ time.utc.year := by simpa using legible.2
    simp only [RequestRow.request, RequestRow.of, readTime_write legible.1, Option.map_some,
      Option.mapM_some, readTime_write dated]
    rfl

theorem request_of_illegible {request : OverrideRequest} (illegible : request.legible true = false) :
    ∃ text, (RequestRow.of request).request = .error text := by
  obtain ⟨id, certificateId, reason, requestedBy, approvedBy, rejectedBy, status, createdAt,
    reviewedAt⟩ := request
  by_cases created : 1000 ≤ createdAt.utc.year
  next =>
    cases reviewedAt with
    | none => simp [OverrideRequest.legible, created] at illegible
    | some time =>
      have early : ¬1000 ≤ time.utc.year := by
        simpa [OverrideRequest.legible, created] using illegible
      simp only [RequestRow.request, RequestRow.of, readTime_write created, Option.map_some,
        Option.mapM_some, readTime_write_early early]
      exact ⟨_, rfl⟩
  next =>
    simp only [RequestRow.request, RequestRow.of, readTime_write_early created]
    exact ⟨_, rfl⟩

theorem of_reviewed (request : OverrideRequest) (status : ReviewStatus) (reviewer : String)
    (time : Instant) : RequestRow.of (request.reviewed status reviewer time) =
      (RequestRow.of request).marked status reviewer (Column.write time) := by
  cases status <;> rfl

end RequestRow

def requestIn? (requests : List OverrideRequest) (id : String) : Option OverrideRequest :=
  requests.find? fun known => decide (known.id = id)

theorem requestIn?_eq_some {requests : List OverrideRequest} {id : String} {known : OverrideRequest}
    (found : requestIn? requests id = some known) : known ∈ requests ∧ known.id = id :=
  ⟨List.mem_of_find?_eq_some found, by simpa using List.find?_some found⟩

theorem requestIn?_of_mem {requests : List OverrideRequest} {known : OverrideRequest}
    (distinct : (requests.map OverrideRequest.id).Nodup) (inside : known ∈ requests) :
    requestIn? requests known.id = some known := by
  cases found : requestIn? requests known.id with
  | none =>
    have apart := List.find?_eq_none.1 found known inside
    simp at apart
  | some other =>
    obtain ⟨inside', same⟩ := requestIn?_eq_some found
    rw [List.inj_on_of_nodup_map distinct inside' inside same]

theorem requestIn?_eq_none_iff {requests : List OverrideRequest} {id : String} :
    requestIn? requests id = none ↔ id ∉ requests.map OverrideRequest.id := by
  simp [requestIn?, List.find?_eq_none]

theorem requestIn?_append {requests : List OverrideRequest} {id : String} {known : OverrideRequest}
    (found : requestIn? requests id = some known) (more : List OverrideRequest) :
    requestIn? (requests ++ more) id = some known := by
  unfold requestIn? at found ⊢
  rw [List.find?_append, found, Option.some_or]

theorem requestIn?_replaced {requests : List OverrideRequest} {id : String}
    {known updated : OverrideRequest}
    (found : requestIn? requests id = some known) (same : updated.id = known.id) :
    requestIn? (Keyed.replaceNamed OverrideRequest.id updated requests) id = some updated := by
  have named := (requestIn?_eq_some found).2
  induction requests with
  | nil => cases found
  | cons head rest ih =>
    by_cases here : head.id = id
    next =>
      have replaced : head.id = updated.id := here.trans (named.symm.trans same.symm)
      simp [requestIn?, Keyed.replaceNamed, replaced, same, named]
    next =>
      have later : requestIn? rest id = some known := by simpa [requestIn?, here] using found
      have apart : head.id ≠ updated.id := fun equal => here (equal.trans (same.trans named))
      simpa [requestIn?, Keyed.replaceNamed, apart, here] using ih later

theorem requestIn?_replaced_of_ne {requests : List OverrideRequest} {id : String}
    {updated : OverrideRequest} (apart : updated.id ≠ id) :
    requestIn? (Keyed.replaceNamed OverrideRequest.id updated requests) id =
      requestIn? requests id := by
  induction requests with
  | nil => rfl
  | cons head rest ih =>
    simp only [requestIn?, Keyed.replaceNamed] at ih
    by_cases same : head.id = updated.id
    next =>
      have other : head.id ≠ id := same ▸ apart
      simp [requestIn?, Keyed.replaceNamed, same, apart, ih]
    next =>
      by_cases here : head.id = id <;>
        simp [requestIn?, Keyed.replaceNamed, same, here, Ne.symm apart, ih]

namespace RequestTable

variable {requests : List OverrideRequest}

theorem find?_of (requests : List OverrideRequest) (id : String) :
    find? (requests.map .of) id = (requestIn? requests id).map .of :=
  List.find?_map

theorem length_open {id : String} {known : OverrideRequest}
    (distinct : (requests.map OverrideRequest.id).Nodup)
    (found : requestIn? requests id = some known) (pending : known.status = .pending) :
    ((requests.map RequestRow.of).filter (isOpen id)).length = 1 := by
  obtain ⟨inside, named⟩ := requestIn?_eq_some found
  rw [List.filter_map, List.length_map]
  generalize same : requests.filter (isOpen id ∘ RequestRow.of) = opened
  have member : known ∈ opened := by
    rw [← same, List.mem_filter]
    exact ⟨inside, by simp [isOpen, RequestRow.of, named, pending]⟩
  -- Ids are distinct, and all rows that are open have one id.
  have once : (opened.map OverrideRequest.id).Nodup := by
    rw [← same]
    exact (List.filter_sublist.map _).nodup distinct
  have ids : opened.map OverrideRequest.id = List.replicate opened.length id := by
    rw [List.eq_replicate_iff, List.length_map]
    refine ⟨rfl, fun other listed => ?_⟩
    obtain ⟨request, openRequest, rfl⟩ := List.mem_map.1 listed
    rw [← same, List.mem_filter, Function.comp, isOpen, Bool.and_eq_true] at openRequest
    exact of_decide_eq_true openRequest.2.1
  rw [ids, List.nodup_replicate] at once
  have some := List.length_pos_of_mem member
  omega

theorem mark_pending (status : ReviewStatus) (reviewer : String) (time : Instant) {id : String}
    {known : OverrideRequest} (distinct : (requests.map OverrideRequest.id).Nodup)
    (found : requestIn? requests id = some known) (pending : known.status = .pending) :
    mark (requests.map .of) id status reviewer (Column.write time) =
      ((Keyed.replaceNamed OverrideRequest.id (known.reviewed status reviewer time) requests).map .of,
        1) := by
  obtain ⟨inside, named⟩ := requestIn?_eq_some found
  refine Prod.ext ?_ (length_open distinct found pending)
  simp only [mark, Keyed.replaceNamed, List.map_map]
  apply List.map_congr_left
  intro other member
  by_cases same : other.id = id
  next =>
    have equal : other = known :=
      List.inj_on_of_nodup_map distinct member inside (same.trans named.symm)
    subst equal
    have opened : isOpen id (.of other) = true := by
      simp [isOpen, RequestRow.of, named, pending]
    simp only [Function.comp, opened, if_true, OverrideRequest.reviewed_id,
      ← RequestRow.of_reviewed]
  next => simp [isOpen, RequestRow.of, same, named]

theorem mark_closed {id reviewer text : String} {status : ReviewStatus}
    (closed : ∀ known, requestIn? requests id = some known → known.status ≠ .pending)
    (distinct : (requests.map OverrideRequest.id).Nodup) :
    mark (requests.map .of) id status reviewer text = (requests.map .of, 0) := by
  have none : ∀ row ∈ requests.map RequestRow.of, isOpen id row = false := by
    intro row member
    obtain ⟨known, inside, rfl⟩ := List.mem_map.1 member
    by_cases same : known.id = id
    next =>
      have reviewed := closed known (same ▸ requestIn?_of_mem distinct inside)
      simp [isOpen, RequestRow.of, reviewed]
    next => simp [isOpen, RequestRow.of, same]
  refine Prod.ext ?_ ?_
  · simp only [mark]
    conv => rhs; rw [← List.map_id (requests.map RequestRow.of)]
    apply List.map_congr_left
    intro row member
    simp [none row member]
  · simp only [mark, List.length_eq_zero_iff, List.filter_eq_nil_iff]
    intro row member
    simp [none row member]

end RequestTable

namespace Database

variable {database : Database} {requests : List OverrideRequest} {known : OverrideRequest}

theorem request_of (table : database.requests = .ok (requests.map .of)) {id : String}
    (found : requestIn? requests id = some known) :
    database.request id = (RequestRow.of known).request.mapError unreadable := by
  simp only [request, table, statement, Except.mapError, bind, Except.bind,
    RequestTable.find?_of, found, Option.map_some]

theorem requests_setRequests {rows : RequestTable} (table : database.requests = .ok rows)
    (rows' : RequestTable) : (database.setRequests rows').requests = .ok rows' := by
  cases database with
  | garbage => cases table
  | sound => rfl

theorem setRequests_self {rows : RequestTable} (table : database.requests = .ok rows) :
    database.setRequests rows = database := by
  cases database with
  | garbage => rfl
  | sound certificates rows' =>
    cases rows' with
    | none => cases table
    | some rows' =>
      cases table
      rfl

theorem mark_pending (table : database.requests = .ok (requests.map .of))
    (distinct : (requests.map OverrideRequest.id).Nodup) {id : String} (status : ReviewStatus)
    (reviewer : String) (time : Instant) (found : requestIn? requests id = some known)
    (pending : known.status = .pending) :
    let updated := known.reviewed status reviewer time
    let requests' := Keyed.replaceNamed OverrideRequest.id updated requests
    database.mark id status reviewer time =
      .ok (database.setRequests (requests'.map .of), 1) := by
  simp only [mark, table, statement, Except.mapError, bind, Except.bind,
    RequestTable.mark_pending status reviewer time distinct found pending]
  rfl

theorem mark_closed (table : database.requests = .ok (requests.map .of))
    (distinct : (requests.map OverrideRequest.id).Nodup) {id : String} (status : ReviewStatus)
    (reviewer : String) (time : Instant)
    (closed : ∀ known, requestIn? requests id = some known → known.status ≠ .pending) :
    database.mark id status reviewer time = .ok (database, 0) := by
  simp only [mark, table, statement, Except.mapError, bind, Except.bind,
    RequestTable.mark_closed closed distinct, setRequests_self table]
  rfl

theorem addRequest_repeated (table : database.requests = .ok (requests.map .of))
    {request : OverrideRequest} (known : request.id ∈ requests.map OverrideRequest.id) :
    ∃ failure, database.addRequest request = .error failure := by
  obtain ⟨other, found⟩ := Option.ne_none_iff_exists'.1
    fun none => requestIn?_eq_none_iff.1 none known
  have found : requestIn? requests (RequestRow.of request).id = some other := found
  have refused : RequestTable.insert? (requests.map .of) (.of request) = none := by
    rw [RequestTable.insert?, RequestTable.find?_of, found]
    rfl
  simp only [addRequest, table, bind, Except.bind, refused]
  exact ⟨_, rfl⟩

theorem addRequest_new (table : database.requests = .ok (requests.map .of))
    {request : OverrideRequest} (new : request.id ∉ requests.map OverrideRequest.id) :
    ∃ larger, database.addRequest request = .ok larger ∧
      larger.requests = .ok ((requests ++ [request]).map .of) := by
  have missing : requestIn? requests (RequestRow.of request).id = none :=
    requestIn?_eq_none_iff.2 new
  have inserted : RequestTable.insert? (requests.map .of) (.of request) =
      some ((requests ++ [request]).map .of) := by
    rw [RequestTable.insert?, RequestTable.find?_of, missing, List.map_append]
    rfl
  simp only [addRequest, table, bind, Except.bind, inserted]
  exact ⟨_, rfl, requests_setRequests table _⟩

end Database

end DuplicateGuard
