import DuplicateGuard.Failure.Basic
import DuplicateGuard.Json.Display
import DuplicateGuard.Wire.Records

set_option autoImplicit false

namespace DuplicateGuard

namespace Policy

def refusal (rejection : Wire.Rejection) : DetectionError :=
  let location := Wire.pathText rejection.first.path
  { kind := .configuration (if location.isEmpty then none else some location) rejection.first.input
    message := location ++ ": " ++ rejection.first.problem.message
    cause := some (.rejected rejection)
    raisedFrom := some (Failure.rejected rejection).typeName }

def accept (input : Json) : Except Failure (Policy Double) :=
  match input with
  | .obj fields =>
    match Policy.read (.obj fields) with
    | .valid policy => .ok policy
    | .invalid first more =>
      .error (.detection (refusal { model := wireName, first := first, more := more }))
    | .overflow => .error (.foreign .dateRange)
  | other =>
    .error (.detection {
      kind := .configuration none .null
      message := "Detection config must be a mapping, got " ++ other.typeName })

end Policy

namespace Candidate

def pairOf (place : Nat) : Json → Except Foreign (Json × Json)
  | .arr [key, value] => .ok (key, value)
  | .arr items => .error (.pairLength place items.length)
  | .str text =>
    match text.toList with
    | [key, value] => .ok (.str (String.singleton key), .str (String.singleton value))
    | cs => .error (.pairLength place cs.length)
  | .obj [(key, _), (value, _)] => .ok (.str key, .str value)
  | .obj fields => .error (.pairLength place fields.length)
  | _ => .error (.notPair place)

def fieldsOfPairs (place : Nat) (known : Keyed Json) : List Json → Except Foreign (Keyed Json)
  | [] => .ok known
  | item :: rest =>
    match pairOf place item with
    | .error fault => .error fault
    | .ok (.str key, value) => fieldsOfPairs (place + 1) (Keyed.put key value known) rest
    | .ok (.arr _, _) => .error (.unhashable "list")
    | .ok (.obj _, _) => .error (.unhashable "dict")
    | .ok (_, _) => fieldsOfPairs (place + 1) known rest

def fieldsOf : Json → Except Foreign (Keyed Json)
  | .obj fields => .ok fields
  | .arr items => fieldsOfPairs 0 [] items
  | .str text => fieldsOfPairs 0 [] (text.toList.map fun c => .str (String.singleton c))
  | other => .error (.notIterable other.typeName)

def refusal (failure : Failure) : DetectionError :=
  { kind := .validation (some "candidate") .null
    message := "Invalid candidate certificate: " ++ failure.text
    raisedFrom := some failure.typeName }

def accept (input : Json) : Except Failure Candidate :=
  match fieldsOf input with
  | .error fault => .error (.detection (refusal (.foreign fault)))
  | .ok fields =>
    match Candidate.read (.obj fields) with
    | .valid candidate => .ok candidate
    | .invalid first more =>
      let rejection : Wire.Rejection := { model := wireName, first := first, more := more }
      .error (.detection (refusal (.rejected rejection)))
    | .overflow => .error (.foreign .dateRange)

end Candidate

end DuplicateGuard
