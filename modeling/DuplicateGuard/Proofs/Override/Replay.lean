import DuplicateGuard.Audit.Event
import DuplicateGuard.Proofs.Audit.Sanitize
import DuplicateGuard.Proofs.Keyed
import DuplicateGuard.Proofs.Override.Ledger

set_option autoImplicit false

namespace DuplicateGuard

/-- What the trail tells about a request; times are not among it. -/
structure Standing where
  certificateId : String
  requestedBy : String
  reason : String
  status : ReviewStatus := .pending
  approvedBy : Option String := none
  rejectedBy : Option String := none
deriving DecidableEq

namespace Standing

def of (request : OverrideRequest) : Standing :=
  { certificateId := request.certificateId
    requestedBy := request.requestedBy
    reason := request.reason
    status := request.status
    approvedBy := request.approvedBy
    rejectedBy := request.rejectedBy }

def reviewed (standing : Standing) (status : ReviewStatus) (reviewer : String) : Standing :=
  match status with
  | .approved => { standing with status := status, approvedBy := some reviewer }
  | .pending | .rejected => { standing with status := status, rejectedBy := some reviewer }

theorem of_reviewed (request : OverrideRequest) (status : ReviewStatus) (reviewer : String)
    (time : Instant) : of (request.reviewed status reviewer time) =
      (of request).reviewed status reviewer := by
  cases status <;> rfl

end Standing

namespace Trail

def text? (key : String) (record : Json) : Option String :=
  (record.field? key).bind Json.str?

def requested? (record : Json) : Option (String × Standing) := do
  let id ← text? "request_id" record
  let certificateId ← text? "certificate_id" record
  let requestedBy ← text? "requested_by" record
  let reason ← text? "reason" record
  return (id, { certificateId := certificateId, requestedBy := requestedBy, reason := reason })

def reviewed? (record : Json) : Option (String × ReviewStatus × String) := do
  let id ← text? "request_id" record
  let status ← (text? "status" record).bind ReviewStatus.ofName?
  let reviewer ← text? "reviewed_by" record
  return (id, status, reviewer)

def follow (standings : Keyed Standing) (record : Json) : Keyed Standing :=
  if text? "event" record = some "override_requested" then
    match requested? record with
    | some (id, standing) => standings.put id standing
    | none => standings
  else if text? "event" record = some "override_reviewed" then
    match reviewed? record with
    | some (id, status, reviewer) =>
      match standings.find? id with
      | some standing => standings.put id (standing.reviewed status reviewer)
      | none => standings
    | none => standings
  else
    standings

def replay (trail : List Json) : Keyed Standing :=
  trail.foldl follow []

theorem replay_append (earlier later : List Json) :
    replay (earlier ++ later) = later.foldl follow (replay earlier) :=
  List.foldl_append

end Trail

namespace Audit

def trailKeys : List String :=
  ["event", "request_id", "certificate_id", "requested_by", "reason", "status", "reviewed_by"]

theorem trailKeys_plain : ∀ key ∈ trailKeys, isSensitive key = false ∧ key ≠ "audit_version" := by
  decide +kernel

theorem text?_record (event : Event) {key text : String} (among : key ∈ trailKeys)
    (shown : Keyed.find? key (event.fields ++ [("event", Json.str event.name),
      ("logger", .str loggerName), ("level", .str event.level.name)]) = some (.str text)) :
    Trail.text? key (record [] event) = some text := by
  obtain ⟨plain, own⟩ := trailKeys_plain key among
  have context (fields : Keyed Json) :
      addContext [] fields = Keyed.put "audit_version" (.str version) fields := rfl
  rw [record, Trail.text?, Json.field?, find?_sanitizeFields, context,
    Keyed.find?_put_of_ne own, shown, plain]
  simp [sanitize, Json.str?]

end Audit

namespace Trail

open Audit

theorem requested?_record (id certificateId requestedBy reason : String) :
    requested? (record [] (.overrideRequested id certificateId requestedBy reason)) =
      some (id,
        { certificateId := certificateId, requestedBy := requestedBy, reason := reason }) := by
  let event : Event := .overrideRequested id certificateId requestedBy reason
  have about : text? "request_id" _ = some id := text?_record event (by decide) rfl
  have certificate : text? "certificate_id" _ = some certificateId :=
    text?_record event (by decide) rfl
  have who : text? "requested_by" _ = some requestedBy := text?_record event (by decide) rfl
  have why : text? "reason" _ = some reason := text?_record event (by decide) rfl
  change requested? (record [] event) = _
  simp only [requested?, about, certificate, who, why]
  rfl

theorem reviewed?_record (id certificateId : String) (status : ReviewStatus) (reviewer : String)
    (success : Bool) (reason : Option String) :
    reviewed? (record [] (.overrideReviewed id certificateId status.name reviewer success reason)) =
      some (id, status, reviewer) := by
  let event : Event := .overrideReviewed id certificateId status.name reviewer success reason
  have about : text? "request_id" _ = some id := text?_record event (by decide) rfl
  have named : text? "status" _ = some status.name := text?_record event (by decide) rfl
  have who : text? "reviewed_by" _ = some reviewer := text?_record event (by decide) rfl
  change reviewed? (record [] event) = _
  simp only [reviewed?, about, named, who, Option.bind_some, ReviewStatus.ofName?_name]
  rfl

theorem follow_requested (standings : Keyed Standing) (id certificateId requestedBy reason : String) :
    follow standings (record [] (.overrideRequested id certificateId requestedBy reason)) =
      standings.put id
        { certificateId := certificateId, requestedBy := requestedBy, reason := reason } := by
  let event : Event := .overrideRequested id certificateId requestedBy reason
  have name : text? "event" _ = some "override_requested" := text?_record event (by decide) rfl
  rw [follow, if_pos name, requested?_record]

theorem follow_reviewed {standings : Keyed Standing} {id : String} {standing : Standing}
    (found : standings.find? id = some standing) (certificateId : String) (status : ReviewStatus)
    (reviewer : String) :
    follow standings
        (record [] (.overrideReviewed id certificateId status.name reviewer true none)) =
      standings.put id (standing.reviewed status reviewer) := by
  let event : Event := .overrideReviewed id certificateId status.name reviewer true none
  have name : text? "event" _ = some "override_reviewed" := text?_record event (by decide) rfl
  rw [follow, if_neg (by rw [name]; decide), if_pos name, reviewed?_record]
  simp only [found]

theorem follow_rejected (standings : Keyed Standing)
    (id certificateId status reviewer reason : String) :
    follow standings
        (record [] (.overrideReviewed id certificateId status reviewer false (some reason))) =
      standings := by
  have name : text? "event" (record [] (.overrideReviewed id certificateId status reviewer false
      (some reason))) = some "override_review_rejected" := by
    refine text?_record _ (by decide) ?_
    -- The reason stands before the name, unless it is empty.
    by_cases empty : reason.isEmpty <;>
      simp [Event.fields, Event.textField, Event.name, empty, Keyed.find?]
  rw [follow, if_neg (by rw [name]; decide), if_neg (by rw [name]; decide)]

end Trail

def standings (requests : List OverrideRequest) : Keyed Standing :=
  requests.map fun request => (request.id, .of request)

theorem standings_eq (requests : List OverrideRequest) :
    standings requests = Keyed.mapValues .of (Keyed.named OverrideRequest.id requests) := by
  simp [standings, Keyed.mapValues, Keyed.named]

theorem find?_standings (requests : List OverrideRequest) (id : String) :
    (standings requests).find? id = (requestIn? requests id).map .of := by
  rw [standings_eq, Keyed.find?_mapValues, Keyed.find?_named]
  rfl

def OverrideRequest.Entered (request : OverrideRequest) (requests requests' : List OverrideRequest) :
    Prop :=
  Keyed.named OverrideRequest.id requests' =
    Keyed.put request.id request (Keyed.named OverrideRequest.id requests)

namespace OverrideRequest.Entered

variable {request : OverrideRequest} {requests requests' : List OverrideRequest}

theorem of_new (new : request.id ∉ requests.map OverrideRequest.id) :
    request.Entered requests (requests ++ [request]) :=
  (Keyed.put_named_of_new OverrideRequest.id new).symm

theorem of_known (distinct : (requests.map OverrideRequest.id).Nodup)
    (known : request.id ∈ requests.map OverrideRequest.id) :
    request.Entered requests (Keyed.replaceNamed OverrideRequest.id request requests) :=
  (Keyed.put_named_of_known OverrideRequest.id distinct known).symm

theorem of_reviewed (distinct : (requests.map OverrideRequest.id).Nodup) {id : String}
    {known : OverrideRequest} (found : requestIn? requests id = some known) (status : ReviewStatus)
    (reviewer : String) (time : Instant) :
    let updated := known.reviewed status reviewer time
    updated.Entered requests (Keyed.replaceNamed OverrideRequest.id updated requests) := by
  apply of_known distinct
  rw [OverrideRequest.reviewed_id]
  exact List.mem_map_of_mem (requestIn?_eq_some found).1

theorem put_standings (entered : request.Entered requests requests') :
    standings requests' = (standings requests).put request.id (.of request) := by
  rw [standings_eq, standings_eq, entered, Keyed.put_mapValues]

theorem distinct (entered : request.Entered requests requests')
    (distinct : (requests.map OverrideRequest.id).Nodup) :
    (requests'.map OverrideRequest.id).Nodup := by
  have ids (some : List OverrideRequest) :
      (Keyed.named OverrideRequest.id some).keys = some.map OverrideRequest.id := by
    simp [Keyed.keys, Keyed.named]
  rw [← ids, entered, Keyed.keys_put, ids]
  split
  next => exact distinct
  next new => simpa using Keyed.nodup_names_concat OverrideRequest.id distinct new

theorem mem (entered : request.Entered requests requests') {known : OverrideRequest}
    (inside : known ∈ requests') : known = request ∨ known ∈ requests := by
  have named : (known.id, known) ∈ Keyed.named OverrideRequest.id requests' :=
    List.mem_map_of_mem inside
  rw [entered] at named
  rcases Keyed.mem_put named with first | old
  · exact .inl (Prod.mk.inj first).2
  · obtain ⟨other, member, same⟩ := List.mem_map.1 old
    exact .inr ((Prod.mk.inj same).2 ▸ member)

end OverrideRequest.Entered

end DuplicateGuard
