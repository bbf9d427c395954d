import DuplicateGuard.Json.Basic

set_option autoImplicit false

namespace DuplicateGuard.Audit

abbrev Ambient := Keyed Json

abbrev Saved := List (String × Option Json)

namespace Ambient

/-- Sets the values of a block one after another, and keeps what they replace. Keys are names that a
block may set: the attributes that the store of the context has as an object, such as `__dict__` or
`__class__`, are not among them. -/
def enter (ambient : Ambient) : Keyed Json → Ambient × Saved
  | [] => (ambient, [])
  | (key, value) :: rest =>
    let inside := enter (Keyed.put key value ambient) rest
    (inside.1, (key, Keyed.find? key ambient) :: inside.2)

def restoreOne (ambient : Ambient) (saved : String × Option Json) : Ambient :=
  match saved.2 with
  | some value => Keyed.put saved.1 value ambient
  | none => Keyed.erase saved.1 ambient

def leave (ambient : Ambient) (saved : Saved) : Ambient :=
  saved.foldl restoreOne ambient

def shownKeys : List String :=
  ["user_id", "request_id", "issuer_id"]

def shown (ambient : Ambient) : Keyed Json :=
  shownKeys.filterMap fun key => (Keyed.find? key ambient).map fun value => (key, value)

end Ambient

end DuplicateGuard.Audit
