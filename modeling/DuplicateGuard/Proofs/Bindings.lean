import DuplicateGuard.Json.Basic
import DuplicateGuard.Proofs.Keyed

set_option autoImplicit false

namespace DuplicateGuard

structure Bindings where
  fields : Keyed Json
  distinct : fields.keys.Nodup

namespace Bindings

def value? (bindings : Bindings) (key : String) : Option Json :=
  Keyed.find? key bindings.fields

/-- What a name is bound to inside some blocks, of which the innermost comes first. -/
def inForce? (key : String) (blocks : List Bindings) : Option Json :=
  blocks.findSome? (·.value? key)

def within : List Bindings → Keyed Json
  | [] => []
  | block :: outer => (within outer).putAll block.fields

theorem inForce?_cons (key : String) (block : Bindings) (outer : List Bindings) :
    inForce? key (block :: outer) = (block.value? key).or (inForce? key outer) := by
  rw [inForce?, List.findSome?_cons]
  cases block.value? key <;> rfl

theorem find?_putAll_fields (key : String) (block : Bindings) (entries : Keyed Json) :
    Keyed.find? key (entries.putAll block.fields) =
      (block.value? key).or (Keyed.find? key entries) := by
  rw [Keyed.find?_putAll, Keyed.latest?_eq_find? block.distinct, value?]

theorem find?_within (key : String) (blocks : List Bindings) :
    Keyed.find? key (within blocks) = inForce? key blocks := by
  induction blocks with
  | nil => rfl
  | cons block outer ih => rw [within, find?_putAll_fields, ih, inForce?_cons]

theorem nodup_keys_within (blocks : List Bindings) : (within blocks).keys.Nodup := by
  induction blocks with
  | nil => exact .nil
  | cons block outer ih => exact Keyed.nodup_keys_putAll ih block.fields

end Bindings

end DuplicateGuard
