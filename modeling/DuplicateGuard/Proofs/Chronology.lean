import DuplicateGuard.Proofs.Time.ColumnOrder
import Mathlib.Data.List.Nodup

set_option autoImplicit false

namespace DuplicateGuard

variable {α : Type}

section Stable

variable {le : α → α → Bool}

theorem mergeSort_cons_eq (trans : ∀ a b c, le a b = true → le b c = true → le a c = true)
    (total : ∀ a b, (le a b || le b a) = true) (x : α) (rest : List α) :
    let smaller := (rest.mergeSort le).filter fun y => !le x y
    let others := (rest.mergeSort le).filter (le x)
    rest.mergeSort le = smaller ++ others ∧ (x :: rest).mergeSort le = smaller ++ x :: others := by
  -- The new head goes behind all that is smaller and before all that is not.
  obtain ⟨before, after, sorted, split, smaller⟩ := List.mergeSort_cons trans total x rest
  have order := List.pairwise_mergeSort trans total (x :: rest)
  rw [sorted, List.pairwise_append, List.pairwise_cons] at order
  have larger : ∀ y ∈ after, le x y = true := order.2.1.1
  have front : (before ++ after).filter (fun y => !le x y) = before := by
    rw [List.filter_append, List.filter_eq_self.2 smaller,
      List.filter_eq_nil_iff.2 fun y inside => by simp [larger y inside], List.append_nil]
  have back : (before ++ after).filter (le x) = after := by
    rw [List.filter_append, List.filter_eq_self.2 larger,
      List.filter_eq_nil_iff.2 fun y inside => by simpa using smaller y inside, List.nil_append]
  intro smaller others
  simp only [smaller, others, split, front, back, sorted, and_self]

theorem mergeSort_filter (trans : ∀ a b c, le a b = true → le b c = true → le a c = true)
    (total : ∀ a b, (le a b || le b a) = true) (p : α → Bool) (xs : List α) :
    (xs.filter p).mergeSort le = (xs.mergeSort le).filter p := by
  induction xs with
  | nil => simp
  | cons x rest ih =>
    obtain ⟨split, sorted⟩ := mergeSort_cons_eq trans total x rest
    rw [sorted, List.filter_append]
    by_cases kept : p x = true
    next =>
      have both (q : α → Bool) : ((rest.mergeSort le).filter p).filter q =
          ((rest.mergeSort le).filter q).filter p := by
        simp only [List.filter_filter, Bool.and_comm]
      rw [List.filter_cons_of_pos kept, List.filter_cons_of_pos kept,
        (mergeSort_cons_eq trans total x _).2, ih, both, both]
    next =>
      rw [List.filter_cons_of_neg kept, List.filter_cons_of_neg kept, ih, ← List.filter_append,
        ← split]

end Stable

theorem mergeSort_eq_of_perm {before : α → α → Bool} {xs ys : List α}
    (trans : ∀ a b c, before a b = true → before b c = true → before a c = true)
    (total : ∀ a b, (before a b || before b a) = true)
    (antisymm : ∀ a ∈ xs, ∀ b ∈ xs, before a b = true → before b a = true → a = b)
    (same : xs.Perm ys) : xs.mergeSort before = ys.mergeSort before := by
  have left := List.mergeSort_perm xs before
  have right := List.mergeSort_perm ys before
  -- No two of the items tie, so there is one order in which they can stand.
  refine List.Perm.eq_of_pairwise ?_ (List.pairwise_mergeSort trans total xs)
    (List.pairwise_mergeSort trans total ys) (left.trans (same.trans right.symm))
  intro a b inLeft inRight ab ba
  exact antisymm a (left.mem_iff.1 inLeft) b (same.mem_iff.2 (right.mem_iff.1 inRight)) ab ba

section Chronological

variable (time : α → Instant) (name : α → String)

def chronological (a b : α) : Bool :=
  decide ((time a).micros < (time b).micros) ||
    (decide (time a = time b) && decide (name a ≤ name b))

variable {time name}

theorem chronological_iff {a b : α} : chronological time name a b = true ↔
    (time a).micros < (time b).micros ∨ time a = time b ∧ name a ≤ name b := by
  simp [chronological]

theorem chronological_trans (a b c : α) (ab : chronological time name a b = true)
    (bc : chronological time name b c = true) : chronological time name a c = true := by
  rw [chronological_iff] at *
  rcases ab with before | ⟨same, before⟩ <;> rcases bc with after | ⟨same', after⟩
  · exact .inl (Nat.lt_trans before after)
  · exact .inl (same' ▸ before)
  · exact .inl (same ▸ after)
  · exact .inr ⟨same.trans same', String.le_trans before after⟩

theorem chronological_total (a b : α) :
    (chronological time name a b || chronological time name b a) = true := by
  rw [Bool.or_eq_true, chronological_iff, chronological_iff]
  rcases Nat.lt_trichotomy (time a).micros (time b).micros with before | same | after
  · exact .inl (.inl before)
  · have same := Instant.eq_of_micros same
    exact (String.le_total (name a) (name b)).imp (fun le => .inr ⟨same, le⟩)
      fun le => .inr ⟨same.symm, le⟩
  · exact .inr (.inl after)

theorem chronological_antisymm {a b : α} (ab : chronological time name a b = true)
    (ba : chronological time name b a = true) : name a = name b := by
  rw [chronological_iff] at ab ba
  rcases ab with before | ⟨same, before⟩ <;> rcases ba with after | ⟨same', after⟩
  · omega
  · rw [same'] at before
    omega
  · rw [same] at after
    omega
  · exact String.le_antisymm before after

variable (time)

theorem mergeSort_chronological_eq {xs ys : List α} (distinct : (xs.map name).Nodup)
    (same : xs.Perm ys) :
    xs.mergeSort (chronological time name) = ys.mergeSort (chronological time name) := by
  refine mergeSort_eq_of_perm chronological_trans chronological_total ?_ same
  intro a inA b inB ab ba
  exact List.inj_on_of_nodup_map distinct inA inB (chronological_antisymm ab ba)

theorem mergeSort_chronological_sorted {xs : List α} (distinct : (xs.map name).Nodup) :
    (xs.mergeSort (chronological time name)).Pairwise fun a b =>
      (time a).micros < (time b).micros ∨ time a = time b ∧ name a < name b := by
  have perm := List.mergeSort_perm xs (chronological time name)
  have apart : (xs.mergeSort (chronological time name)).Pairwise fun a b => name a ≠ name b :=
    List.pairwise_map.1 ((perm.map name).nodup_iff.2 distinct)
  refine ((List.pairwise_mergeSort chronological_trans chronological_total xs).and apart).imp ?_
  rintro a b ⟨before, differs⟩
  refine (chronological_iff.1 before).imp_right fun ⟨same, le⟩ => ⟨same, ?_⟩
  exact String.not_le.1 fun reversed => differs (String.le_antisymm le reversed)

end Chronological

end DuplicateGuard
