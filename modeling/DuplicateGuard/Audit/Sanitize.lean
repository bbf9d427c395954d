import DuplicateGuard.Json.Basic
import DuplicateGuard.Text.Lowercase
import DuplicateGuard.Text.Basic

set_option autoImplicit false

namespace DuplicateGuard.Audit

def sensitiveTerms : List String :=
  ["password", "api_key", "token", "secret", "credential", "private_key"]

def isSensitive (key : String) : Bool :=
  Text.hasAny sensitiveTerms (Text.lower key.toList)

def redacted : Json :=
  .str "***REDACTED***"

def masked (cs : List Char) : String :=
  String.ofList (cs.take 4) ++ "..." ++ String.ofList (cs.drop (cs.length - 4))

def hide : Json → Json
  | .str text => if 8 < text.toList.length then .str (masked text.toList) else redacted
  | _ => redacted

mutual

def sanitize : Json → Json
  | .arr items => .arr (sanitizeItems items)
  | .obj fields => .obj (sanitizeFields fields)
  | value => value

def sanitizeItems : List Json → List Json
  | [] => []
  | item :: rest => sanitize item :: sanitizeItems rest

def sanitizeFields : List (String × Json) → List (String × Json)
  | [] => []
  | (key, value) :: rest =>
    (key, if isSensitive key then hide value else sanitize value) :: sanitizeFields rest

end

theorem keys_sanitizeFields (fields : List (String × Json)) :
    (sanitizeFields fields).map Prod.fst = fields.map Prod.fst := by
  induction fields with
  | nil => simp [sanitizeFields]
  | cons head rest ih => simp [sanitizeFields, ih]

end DuplicateGuard.Audit
