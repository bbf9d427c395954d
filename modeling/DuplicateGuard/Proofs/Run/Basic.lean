import DuplicateGuard.Service.Issuance
import DuplicateGuard.Service.Overrides
import DuplicateGuard.Service.Reporting

/-!
Runs of a service: any demands in any order. The clock and the numbers of new requests come from
outside, with every call.
-/

set_option autoImplicit false

namespace DuplicateGuard

inductive Demand where
  | create (certificateId reason requestedBy : Option String)
  | approve (id : String) (reviewer : Option String)
  | reject (id : String) (reviewer : Option String)
  | get (id : String)
  | list (certificateId : Option String) (status : Option ReviewStatus)
  | add (certificate : Certificate)
  | check (thresholds : Thresholds Double) (candidate policy : Json)
  | report (start stop : Timestamp)
  | issue (thresholds : Thresholds Double) (candidate policy : Json)
      (reason requestId : Option String)

inductive Answer where
  | request (request : OverrideRequest)
  | requests (requests : List OverrideRequest)
  | certificate (certificate : Certificate)
  | decision (decision : Decision Double)
  | report (report : Report)
  | issuance (outcome : Issuance Double)

namespace Demand

def work : Demand → Work Answer
  | .create certificateId reason requestedBy =>
    .request <$> Service.createRequest certificateId reason requestedBy
  | .approve id reviewer => .request <$> Service.approveRequest id reviewer
  | .reject id reviewer => .request <$> Service.rejectRequest id reviewer
  | .get id => .request <$> Service.getRequest id
  | .list certificateId status => .requests <$> Service.listRequests certificateId status
  | .add certificate => .certificate <$> Service.addCertificate certificate
  | .check thresholds candidate policy =>
    .decision <$> Service.checkInput thresholds candidate policy
  | .report start stop => .report <$> Service.report start stop
  | .issue thresholds candidate policy reason requestId =>
    .issuance <$> Service.issue thresholds candidate policy reason requestId

def review? : Demand → Option (String × ReviewStatus × Option String)
  | .approve id reviewer => some (id, .approved, reviewer)
  | .reject id reviewer => some (id, .rejected, reviewer)
  | _ => none

def sparesRequests : Demand → Bool
  | .create _ _ _ | .approve _ _ | .reject _ _ => false
  | _ => true

end Demand

structure Call where
  now : Timestamp
  number : Nat
  demand : Demand

def Call.newId? (call : Call) : Option String :=
  match call.demand with
  | .create _ _ _ => some (requestIdOf (call.number + 1))
  | _ => none

structure Exchange where
  call : Call
  answer : Except Failure Answer

namespace Service

def meeting (service : Service) (call : Call) : Service :=
  { service with clock := call.now, numbered := call.number }

def serve (service : Service) (call : Call) : Except Failure Answer × Service :=
  (service.meeting call).run call.demand.work

def after (service : Service) : List Call → Service
  | [] => service
  | call :: rest => (service.serve call).2.after rest

def exchanges (service : Service) : List Call → List Exchange
  | [] => []
  | call :: rest => ⟨call, (service.serve call).1⟩ :: (service.serve call).2.exchanges rest

theorem after_append (service : Service) (first second : List Call) :
    service.after (first ++ second) = (service.after first).after second := by
  induction first generalizing service with
  | nil => rfl
  | cons call rest ih => exact ih _

theorem exchanges_append (service : Service) (first second : List Call) :
    service.exchanges (first ++ second) =
      service.exchanges first ++ (service.after first).exchanges second := by
  induction first generalizing service with
  | nil => rfl
  | cons call rest ih => exact congrArg _ (ih _)

theorem exchanges_calls (service : Service) (calls : List Call) :
    (service.exchanges calls).map (·.call) = calls := by
  induction calls generalizing service with
  | nil => rfl
  | cons call rest ih => exact congrArg _ (ih _)

end Service

end DuplicateGuard
