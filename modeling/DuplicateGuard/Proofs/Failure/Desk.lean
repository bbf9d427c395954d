import DuplicateGuard.Failure.Desk
import Mathlib.Algebra.GroupWithZero.Nat

set_option autoImplicit false

namespace DuplicateGuard

theorem sum_count_put (key : String) (counts : Keyed Nat) :
    ((Keyed.put key ((Keyed.find? key counts).getD 0 + 1) counts).map Prod.snd).sum =
      (counts.map Prod.snd).sum + 1 := by
  induction counts with
  | nil => simp [Keyed.put]
  | cons head rest ih =>
    obtain ⟨other, n⟩ := head
    -- A key that is not there yet counts as none, and is entered at the end.
    by_cases same : other = key
    next =>
      simp only [Keyed.put, Keyed.find?, same, if_true, Option.getD_some, List.map_cons,
        List.sum_cons]
      omega
    next =>
      simp only [Keyed.put, Keyed.find?, same, if_false, List.map_cons, List.sum_cons, ih]
      omega

namespace Desk

theorem stats_rename (desk : Desk) (operation : Option String) :
    (desk.rename operation).stats = desk.stats := by
  unfold rename
  split
  · split <;> rfl
  · rfl

variable (desk : Desk) (ambient : Audit.Ambient) (journal : Journal) (failure : Failure)
  (operation : Option String)

theorem total_handle :
    (desk.handle ambient journal failure operation).2.1.stats.total = desk.stats.total + 1 := by
  rw [← stats_rename desk operation]
  exact sum_count_put _ _

end Desk

end DuplicateGuard
