import DuplicateGuard.Proofs.Text.EditDistance
import DuplicateGuard.Text.Cluster
import DuplicateGuard.Text.EmailAddress

/-!
Addresses as texts: a mailbox and a domain around the only `@`. A reader perceives the `@` as a
unit of its own or as the end of one, so it is a unit's beginning unless the mailbox closes with a
mark that joins what follows it.
-/

set_option autoImplicit false

namespace DuplicateGuard.Text

section Pieces

variable {cut : Char → Bool}

theorem splitWhere_of_none {cs : List Char} (none : ∀ c ∈ cs, cut c = false) :
    splitWhere cut cs = [cs] := by
  induction cs with
  | nil => rfl
  | cons c rest ih =>
    have here : ¬cut c = true := by simp [none c (by simp)]
    rw [splitWhere, if_neg here, ih fun other inside => none other (by simp [inside])]

theorem splitWhere_append_cut {front : List Char} (none : ∀ c ∈ front, cut c = false) {c : Char}
    (here : cut c = true) (rest : List Char) :
    splitWhere cut (front ++ c :: rest) = front :: splitWhere cut rest := by
  induction front with
  | nil => rw [List.nil_append, splitWhere, if_pos here]
  | cons first front ih =>
    have apart : ¬cut first = true := by simp [none first (by simp)]
    rw [List.cons_append, splitWhere, if_neg apart,
      ih fun other inside => none other (by simp [inside])]

end Pieces

structure EmailAddress.Spells (address : EmailAddress) (cs : List Char) : Prop where
  text : cs = address.mailbox ++ '@' :: address.domain
  mailbox : '@' ∉ address.mailbox
  domain : '@' ∉ address.domain

theorem EmailAddress.ofChars?_eq_some_iff {address : EmailAddress} {cs : List Char} :
    EmailAddress.ofChars? cs = some address ↔ address.Spells cs := by
  have plain {part : List Char} (none : '@' ∉ part) : ∀ c ∈ part, decide (c = '@') = false :=
    fun c inside => decide_eq_false fun same => none (same ▸ inside)
  constructor
  next =>
    intro read
    have one := (EmailAddress.isSome_ofChars?_iff cs).1 (by rw [read]; rfl)
    have inside : '@' ∈ cs := by
      obtain ⟨c, inside, same⟩ := List.countP_pos_iff.1 (by omega : 0 < cs.countP (· = '@'))
      exact of_decide_eq_true same ▸ inside
    -- The first `@` is the only one, so what follows it has none.
    obtain ⟨front, rest, rfl, first⟩ := List.eq_append_cons_of_mem inside
    have last : '@' ∉ rest := by
      intro again
      have more : 0 < rest.countP (· = '@') :=
        List.countP_pos_iff.2 ⟨'@', again, decide_eq_true rfl⟩
      simp only [List.countP_append, List.countP_cons, decide_true, if_true] at one
      omega
    rw [EmailAddress.ofChars?, splitWhere_append_cut (plain first) (decide_eq_true rfl),
      splitWhere_of_none (plain last)] at read
    obtain rfl := Option.some.inj read
    exact ⟨rfl, first, last⟩
  next =>
    rintro ⟨rfl, first, last⟩
    rw [EmailAddress.ofChars?, splitWhere_append_cut (plain first) (decide_eq_true rfl),
      splitWhere_of_none (plain last)]

section Units

def ClusterState.after (state : ClusterState) (cs : List Char) : ClusterState :=
  cs.foldl ClusterState.next state

theorem ClusterState.marks_append (state : ClusterState) (front rest : List Char) :
    state.marks (front ++ rest) = state.marks front ++ (state.after front).marks rest := by
  induction front generalizing state with
  | nil => rfl
  | cons c front ih =>
    rw [List.cons_append, marks, marks, ih, List.cons_append]
    rfl

theorem gather_cons_open (first : Char × Bool) (c : Char) (rest : List (Char × Bool)) :
    gather (first :: (c, true) :: rest) = [first.1] :: gather ((c, true) :: rest) := rfl

theorem gather_cons_joined (first : Char × Bool) {c : Char} {rest : List (Char × Bool)}
    {unit : List Char} {units : List (List Char)} (same : gather ((c, false) :: rest) = unit :: units) :
    gather (first :: (c, false) :: rest) = (first.1 :: unit) :: units := by
  rw [gather]
  exact same

theorem gather_ne_nil (head : Char × Bool) (rest : List (Char × Bool)) :
    gather (head :: rest) ≠ [] := by
  intro none
  have whole := congrArg List.flatten none
  rw [flatten_gather] at whole
  simp at whole

/-- Where a unit opens, the units before it are those of what stands before it alone. -/
theorem gather_append_open (front : List (Char × Bool)) (c : Char) (rest : List (Char × Bool)) :
    gather (front ++ (c, true) :: rest) = gather front ++ gather ((c, true) :: rest) := by
  induction front with
  | nil => rfl
  | cons first front ih =>
    cases front with
    | nil => exact gather_cons_open first c rest
    | cons second front =>
      obtain ⟨next, opens⟩ := second
      obtain ⟨unit, units, same⟩ := List.exists_cons_of_ne_nil (gather_ne_nil (next, opens) front)
      cases opens with
      | true =>
        rw [List.cons_append, List.cons_append, gather_cons_open, gather_cons_open,
          ← List.cons_append, ih]
        rfl
      | false =>
        rw [same] at ih
        rw [gather_cons_joined first same, List.cons_append, List.cons_append]
        exact gather_cons_joined first ih

def Closes (cs : List Char) : Prop :=
  ∀ c, cs.getLast? = some c → clusterClass c ≠ .prepend

theorem clusterClass_at : clusterClass '@' = .other := by decide

def ClusterState.pastAt : ClusterState :=
  { last := some .other
    flagOpen := false
    pictographOpen := false
    joined := false
    conjunct := .none }

theorem ClusterState.next_at (state : ClusterState) : state.next '@' = .pastAt := by
  have none : state.conjunct.next '@' .other = .none := by
    cases state.conjunct <;> rfl
  simp [ClusterState.next, clusterClass_at, none, pastAt]

theorem ClusterState.last_after (state : ClusterState) (cs : List Char) (c : Char) :
    (state.after (cs ++ [c])).last = some (clusterClass c) := by
  simp [after, ClusterState.next]

theorem ClusterState.cutsBefore_at {state : ClusterState} (other : state.last ≠ some .prepend) :
    state.cutsBefore '@' = true := by
  have kind : conjunctConsonantRanges.has '@'.toNat = false := by decide
  unfold ClusterState.cutsBefore
  cases last : state.last with
  | none => rfl
  | some last' =>
    have apart : last'.sticks .other = false := by
      rw [last] at other
      cases last' <;> simp_all [ClusterClass.sticks]
    simp only [clusterClass_at, apart, kind]
    cases state.conjunct <;> simp

theorem clusters_address {mailbox : List Char} (closes : Closes mailbox) (domain : List Char) :
    clusters (mailbox ++ '@' :: domain) =
      clusters mailbox ++ gather (('@', true) :: ClusterState.pastAt.marks domain) := by
  have cuts : (ClusterState.start.after mailbox).cutsBefore '@' = true := by
    apply ClusterState.cutsBefore_at
    rcases List.eq_nil_or_concat mailbox with rfl | ⟨front, c, rfl⟩
    · simp [ClusterState.after, ClusterState.start]
    · rw [List.concat_eq_append, ClusterState.last_after]
      intro same
      exact closes c (by simp) (Option.some.inj same)
  rw [clusters, ClusterState.marks_append, ClusterState.marks, cuts, gather_append_open,
    ClusterState.next_at]
  rfl

end Units

end DuplicateGuard.Text
