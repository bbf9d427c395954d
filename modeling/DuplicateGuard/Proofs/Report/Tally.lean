import DuplicateGuard.Proofs.Keyed
import DuplicateGuard.Service.Reporting
import Mathlib.Algebra.BigOperators.Group.List.Basic
import Mathlib.Algebra.Ring.Int.Defs

set_option autoImplicit false

namespace DuplicateGuard

theorem Keyed.sum_values_put (key : String) (value : Int) (entries : Keyed Int) :
    (put key value entries).values.sum + (find? key entries).getD 0 = entries.values.sum + value := by
  induction entries with
  | nil => simp [put, find?, values]
  | cons head rest ih =>
    simp only [values] at ih
    by_cases same : head.1 = key
    next =>
      simp only [put, find?, values, same, if_true, List.map_cons, List.sum_cons, Option.getD_some]
      omega
    next =>
      simp only [put, find?, values, same, if_false, List.map_cons, List.sum_cons]
      omega

namespace Report

structure Tallies (counts : Keyed Int) (keys : List String) : Prop where
  distinct : counts.keys.Nodup
  found : ∀ key, counts.find? key = if key ∈ keys then some (keys.count key : Int) else none
  filled : ∀ entry ∈ counts, 0 < entry.2
  sum : counts.values.sum = keys.length

namespace Tallies

variable {counts : Keyed Int} {keys : List String}

theorem getD (tallies : Tallies counts keys) (key : String) :
    (counts.find? key).getD 0 = keys.count key := by
  rw [tallies.found]
  split
  next => rfl
  next absent => rw [List.count_eq_zero_of_not_mem absent]; rfl

theorem count (tallies : Tallies counts keys) (key : String) :
    Tallies (counts.put key ((counts.find? key).getD 0 + 1)) (keys ++ [key]) := by
  constructor
  case distinct => exact Keyed.nodup_keys_put key _ tallies.distinct
  case found =>
    intro other
    by_cases same : other = key
    next =>
      subst same
      simp [tallies.getD, List.count_append]
    next => simp [Keyed.find?_put_of_ne same, tallies.found, List.count_append, same, Ne.symm same]
  case filled =>
    intro entry inside
    rcases Keyed.mem_put inside with rfl | known
    · rw [tallies.getD]
      omega
    · exact tallies.filled entry known
  case sum =>
    have sums := Keyed.sum_values_put key ((counts.find? key).getD 0 + 1) counts
    rw [tallies.sum] at sums
    rw [List.length_append, List.length_singleton]
    omega

end Tallies

end Report

end DuplicateGuard
