import DuplicateGuard.Proofs.Failure.Desk
import DuplicateGuard.Proofs.Keyed
import Mathlib.Data.List.Count

set_option autoImplicit false

namespace DuplicateGuard

namespace ErrorContext

/-- A context without the name of its operation, which handling a failure may change. -/
def nameless (context : ErrorContext) : ErrorContext :=
  { context with operation := "" }

def under (operation : Option String) (context : ErrorContext) : ErrorContext :=
  match Desk.named? operation with
  | some name => { context with operation := name }
  | none => context

theorem nameless_under (operation : Option String) (context : ErrorContext) :
    (context.under operation).nameless = context.nameless := by
  unfold under
  split <;> rfl

theorem block_of_nameless {context other : ErrorContext}
    (same : context.nameless = other.nameless) : context.block = other.block := by
  have numbers : context.nameless.block = other.nameless.block := by rw [same]
  exact numbers

end ErrorContext

namespace Desk

theorem blocks_rename (desk : Desk) (operation : Option String) :
    (desk.rename operation).blocks =
      (desk.blocks.take 1).map (·.under operation) ++ desk.blocks.tail := by
  unfold rename ErrorContext.under named?
  cases operation with
  | none => cases desk.blocks <;> rfl
  | some name =>
    cases blocks : desk.blocks with
    | nil => simp [blocks]
    | cons context outer => by_cases unnamed : name.isEmpty = true <;> simp [unnamed, blocks]

theorem current?_rename (desk : Desk) (operation : Option String) :
    (desk.rename operation).current? = desk.current?.map (·.under operation) := by
  rw [current?, current?, blocks_rename]
  cases desk.blocks <;> rfl

theorem tail_rename (desk : Desk) (operation : Option String) :
    (desk.rename operation).blocks.tail = desk.blocks.tail := by
  rw [blocks_rename]
  cases desk.blocks <;> rfl

theorem nameless_rename (desk : Desk) (operation : Option String) :
    (desk.rename operation).blocks.map ErrorContext.nameless =
      desk.blocks.map ErrorContext.nameless := by
  rw [blocks_rename]
  cases desk.blocks with
  | nil => rfl
  | cons context outer => simp [ErrorContext.nameless_under]

theorem contextFor_none (desk : Desk) : desk.contextFor none = desk.current? := by
  unfold contextFor
  cases desk.current? <;> rfl

theorem contextFor_some (desk : Desk) (own : ErrorContext) :
    ∃ shown, desk.contextFor (some own) = some shown ∧ shown.block = own.block ∧
      (shown = own ∨ desk.current? = some shown) := by
  unfold contextFor
  cases current : desk.current? with
  | none => exact ⟨own, rfl, rfl, .inl rfl⟩
  | some context =>
    by_cases same : (own.block.isSome && own.block == context.block) = true
    next =>
      simp only [same, if_true]
      simp only [Bool.and_eq_true, beq_iff_eq] at same
      exact ⟨context, rfl, same.2.symm, .inr rfl⟩
    next =>
      simp only [same, Bool.false_eq_true, if_false]
      exact ⟨own, rfl, rfl, .inl rfl⟩

theorem kind_raise (failure : Failure) (error : DetectionError) :
    (raise failure error).kind = error.kind := by
  cases failure <;> rfl

theorem ofHistory_ofNat (size : Nat) : ofHistory size =
    if size < wordLimit then .ok { capacity := size } else .error (.foreign .longHistory) := by
  have above : ¬(size : Int) < -(wordLimit : Int) := by omega
  by_cases fits : size < wordLimit
  next =>
    have fits' : ¬(wordLimit : Int) ≤ size := by omega
    simp only [ofHistory, above, fits', fits, or_self, if_false, if_true]
  next =>
    have long : (wordLimit : Int) ≤ size := by omega
    simp only [ofHistory, long, fits, or_true, if_true, if_false]

structure Accounts (desk : Desk) (size : Nat) (kinds : List ErrorKind) : Prop where
  capacity : desk.capacity = size
  recent : desk.recent = kinds.reverse.take size
  distinct : desk.counts.keys.Nodup
  counts : ∀ name, (Keyed.find? name desk.counts).getD 0 =
    kinds.countP fun kind => kind.typeName = name
  total : (desk.counts.map Prod.snd).sum = kinds.length

namespace Accounts

variable {desk : Desk} {size : Nat} {kinds : List ErrorKind}

theorem ofBlocks (accounts : desk.Accounts size kinds) (blocks : List ErrorContext)
    (opened : Nat) : { desk with blocks := blocks, opened := opened }.Accounts size kinds :=
  ⟨accounts.capacity, accounts.recent, accounts.distinct, accounts.counts, accounts.total⟩

theorem rename (accounts : desk.Accounts size kinds) (operation : Option String) :
    (desk.rename operation).Accounts size kinds := by
  unfold Desk.rename
  split
  next =>
    split
    next => exact accounts
    next => exact accounts.ofBlocks _ _
  next => exact accounts

theorem count (accounts : desk.Accounts size kinds) (kind : ErrorKind) :
    (desk.count kind).Accounts size (kinds ++ [kind]) := by
  constructor
  case capacity => exact accounts.capacity
  case recent =>
    rw [Desk.count, accounts.capacity, accounts.recent, List.reverse_concat]
    -- A full memory drops the oldest error, and one without room forgets the new one at once.
    cases size with
    | zero => rfl
    | succ n => simp [List.take_take]
  case distinct => exact Keyed.nodup_keys_put _ _ accounts.distinct
  case counts =>
    intro name
    rw [Desk.count, List.countP_append, List.countP_singleton]
    by_cases same : kind.typeName = name
    next => simp [same, ← accounts.counts]
    next => simp [same, Keyed.find?_put_of_ne (Ne.symm same), accounts.counts]
  case total =>
    rw [Desk.count, sum_count_put, accounts.total, List.length_append, List.length_singleton]

end Accounts

/-- The errors that statistics tell more of: as many of the last ones as are remembered, and at most
a hundred. -/
def latest (size : Nat) (kinds : List ErrorKind) : List ErrorKind :=
  kinds.drop (kinds.length - min size 100)

theorem length_latest (size : Nat) (kinds : List ErrorKind) :
    (latest size kinds).length = min (min size 100) kinds.length := by
  rw [latest, List.length_drop]
  omega

structure Stats.Tells (stats : Stats) (size : Nat) (kinds : List ErrorKind) : Prop where
  total : stats.total = kinds.length
  distinct : stats.counts.keys.Nodup
  counts : ∀ name, (Keyed.find? name stats.counts).getD 0 =
    kinds.countP fun kind => kind.typeName = name
  counted : (stats.counts.map Prod.snd).sum = stats.total
  severities : stats.severities = Severity.all.map fun severity =>
    (severity, (latest size kinds).countP fun kind => kind.severity = severity)
  graded : (stats.severities.map Prod.snd).sum = min (min size 100) kinds.length
  retryable : stats.retryable = (latest size kinds).countP ErrorKind.retryable
  final : stats.final = (latest size kinds).countP fun kind => !kind.retryable
  parted : stats.retryable + stats.final = min (min size 100) kinds.length

theorem sum_severities (kinds : List ErrorKind) :
    (Severity.all.map fun severity =>
      kinds.countP fun kind => kind.severity = severity).sum = kinds.length := by
  induction kinds with
  | nil => rfl
  | cons kind rest ih =>
    simp only [Severity.all, List.map_cons, List.map_nil, List.sum_cons, List.sum_nil] at ih
    simp only [Severity.all, List.map_cons, List.map_nil, List.sum_cons, List.sum_nil,
      List.countP_cons, List.length_cons]
    cases kind.severity <;> simp <;> omega

namespace Accounts

variable {desk : Desk} {size : Nat} {kinds : List ErrorKind}

theorem examined (accounts : desk.Accounts size kinds) :
    desk.recent.take 100 = (latest size kinds).reverse := by
  rw [accounts.recent, List.take_take, latest, List.take_reverse, Nat.min_comm]

theorem length_filter (accounts : desk.Accounts size kinds) (p : ErrorKind → Bool) :
    ((desk.recent.take 100).filter p).length = (latest size kinds).countP p := by
  rw [accounts.examined, ← List.countP_eq_length_filter, List.countP_reverse]

theorem retryable_stats (accounts : desk.Accounts size kinds) :
    desk.stats.retryable = (latest size kinds).countP ErrorKind.retryable :=
  accounts.length_filter _

theorem final_stats (accounts : desk.Accounts size kinds) :
    desk.stats.final = (latest size kinds).countP fun kind => !kind.retryable := by
  have parts := List.length_eq_countP_add_countP ErrorKind.retryable (l := latest size kinds)
  simp only [Bool.not_eq_true, Bool.decide_eq_false] at parts
  have final : desk.stats.final = (desk.recent.take 100).length - desk.stats.retryable := rfl
  rw [final, accounts.retryable_stats, accounts.examined, List.length_reverse, parts]
  exact Nat.add_sub_cancel_left ..

theorem tells (accounts : desk.Accounts size kinds) : desk.stats.Tells size kinds := by
  constructor
  case total => exact accounts.total
  case distinct => exact accounts.distinct
  case counts => exact accounts.counts
  case counted => rfl
  case severities => simp only [stats, accounts.length_filter]
  case graded =>
    rw [← length_latest, ← sum_severities]
    simp only [stats, accounts.length_filter, List.map_map, Function.comp_def]
  case retryable => exact accounts.retryable_stats
  case final => exact accounts.final_stats
  case parted =>
    rw [accounts.retryable_stats, accounts.final_stats, ← length_latest]
    simpa using (List.length_eq_countP_add_countP ErrorKind.retryable).symm

end Accounts

end Desk

end DuplicateGuard
