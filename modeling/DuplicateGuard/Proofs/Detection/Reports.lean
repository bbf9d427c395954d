import DuplicateGuard.Proofs.Detection.Findings
import DuplicateGuard.Proofs.Store.Query

set_option autoImplicit false

namespace DuplicateGuard

def Timestamp.utcMicros (stamp : Timestamp) : Int :=
  (stamp.reading.micros : Int) - stamp.offset.getD 0

theorem CivilTime.shift?_micros {time shifted : CivilTime} {delta : Int}
    (returned : time.shift? delta = some shifted) : (shifted.micros : Int) = time.micros + delta := by
  unfold CivilTime.shift? CivilTime.ofMicros? at returned
  split at returned
  next n same =>
    split at returned
    next =>
      cases returned
      exact same.symm
    next => cases returned
  next => cases returned

theorem Timestamp.instant?_micros {stamp : Timestamp} {instant : Instant}
    (returned : stamp.instant? = some instant) : (instant.micros : Int) = stamp.utcMicros := by
  simp only [Timestamp.instant?, Option.map_eq_some_iff] at returned
  obtain ⟨utc, shifted, rfl⟩ := returned
  exact CivilTime.shift?_micros shifted

namespace Rule

variable {S : Type}

def windowEdge? (now : Timestamp) (rule : Rule S) : Option Int :=
  rule.timeWindowDays.map fun days => now.utcMicros - (days * microsPerDay : Nat)

def reaches (now : Timestamp) (rule : Rule S) (certificate : Certificate) : Bool :=
  (rule.windowEdge? now).all fun edge => decide (edge ≤ (certificate.issuedAt.micros : Int))

variable [Scale S]

def wants (thresholds : Thresholds S) (candidate : Particulars) (rule : Rule S)
    (certificate : Certificate) : Bool :=
  !decide (certificate.status = .revoked) &&
    decide (rule.threshold ≤ rule.score thresholds.emailDomainBoost candidate certificate.particulars)

def reported (thresholds : Thresholds S) (now : Timestamp) (candidate : Particulars)
    (stored : List Certificate) (rule : Rule S) : List (Match S) :=
  (stored.filter fun known => rule.wants thresholds candidate known && rule.reaches now known).map
    (rule.matchWith thresholds candidate)

end Rule

/-- Whether records tell correctly on which side of the beginning of a rule's window a certificate
was issued. Only the texts of a database can mislead. -/
def Records.TellsWindow {S : Type} (records : Records) (now : Timestamp) (rule : Rule S)
    (certificate : Certificate) : Prop :=
  match records with
  | .memory _ _ => True
  | .stored _ => ∀ edge : Instant, rule.windowEdge? now = some (edge.micros : Int) →
      (Column.write edge ≤ Column.write certificate.issuedAt ↔
        edge.micros ≤ certificate.issuedAt.micros)

theorem Records.tellsWindow_of_fourDigits {S : Type} (records : Records) {now : Timestamp}
    {rule : Rule S} {certificate : Certificate} (fourDigits : 1000 ≤ certificate.issuedAt.utc.year)
    (edges : ∀ edge : Instant, rule.windowEdge? now = some (edge.micros : Int) →
      1000 ≤ edge.utc.year) : records.TellsWindow now rule certificate := by
  cases records with
  | memory corpus ledger => trivial
  | stored database => exact fun edge same => Column.write_le_iff (edges edge same) fourDigits

section Scored

variable {S : Type} [Scale S]

theorem Match.make_returns {found made : Match S} (returned : found.make = .ok made) :
    made = found ∧ Scale.ofNat 0 ≤ found.score ∧ found.score ≤ Scale.ofNat 1 := by
  unfold Match.make at returned
  split at returned
  next => cases returned
  next notAbove =>
    split at returned
    next => cases returned
    next notBelow =>
      exact ⟨(Except.ok.inj returned).symm, Decidable.of_not_not notBelow,
        Decidable.of_not_not notAbove⟩

theorem Rule.matchesIn_returns {thresholds : Thresholds S} {rule : Rule S} {candidate : Particulars}
    {pool : List Certificate} {found : List (Match S)}
    (returned : rule.matchesIn thresholds candidate pool = .ok found) :
    found = (pool.filter fun known => decide (rule.threshold ≤
        rule.score thresholds.emailDomainBoost candidate known.particulars)).map
          (rule.matchWith thresholds candidate) ∧
      ∀ known ∈ found, Scale.ofNat 0 ≤ known.score ∧ known.score ≤ Scale.ofNat 1 := by
  obtain ⟨same, made⟩ := mapM_id_of_eq_ok (fun made => (Match.make_returns made).1) returned
  constructor
  next =>
    rw [same, ← List.filterMap_eq_map, List.filterMap_filter]
    congr 1
    funext known
    simp only [Rule.match?, Rule.matchWith, decide_eq_true_eq]
    rfl
  next => exact fun known inside => (Match.make_returns (made known (same ▸ inside))).2

end Scored

namespace Service

theorem windowStart_edge {now : Timestamp} {days : Option Nat} {issuedAfter : Option Timestamp}
    {cutoff : Option Instant} (returned : windowStart now days = .ok issuedAfter)
    (read : issuedAfter.mapM Records.instantOf = .ok cutoff) :
    cutoff.map (fun edge => (edge.micros : Int)) =
      days.map fun days => now.utcMicros - (days * microsPerDay : Nat) := by
  cases days with
  | none =>
    cases returned
    cases read
    rfl
  | some days =>
    simp only [windowStart] at returned
    -- A window that is returned is neither too long nor outside the calendar.
    split at returned
    next => cases returned
    split at returned
    next => cases returned
    split at returned
    next reading shifted =>
      cases returned
      cases instant : ({ now with reading := reading } : Timestamp).instant? with
      | none => simp [Records.instantOf, instant] at read
      | some edge =>
        simp only [Option.mapM_some, Records.instantOf, instant, Except.ok.injEq, Functor.map,
          Except.map] at read
        subst read
        have reading := CivilTime.shift?_micros shifted
        have edge := Timestamp.instant?_micros instant
        simp only [Timestamp.utcMicros] at edge
        simp only [Option.map_some, Timestamp.utcMicros, Option.some.injEq]
        omega
    next => cases returned

theorem windowStart_isSome {now : Timestamp} {days : Option Nat} {issuedAfter : Option Timestamp}
    {cutoff : Option Instant} (returned : windowStart now days = .ok issuedAfter)
    (read : issuedAfter.mapM Records.instantOf = .ok cutoff) : cutoff.isSome = days.isSome := by
  simpa using congrArg Option.isSome (windowStart_edge returned read)

theorem tells_iff {S : Type} (records : Records) {now : Timestamp} {rule : Rule S}
    {cutoff : Option Instant} (edge : cutoff.map (fun edge => (edge.micros : Int)) =
      rule.windowEdge? now) (known : Certificate) :
    (cutoff.all fun edge => records.issuedSince edge known) = rule.reaches now known ↔
      records.TellsWindow now rule known := by
  unfold Rule.reaches
  rw [← edge]
  cases records with
  | memory corpus ledger =>
    cases cutoff <;> simp [Records.TellsWindow, Records.issuedSince, Instant.le, CivilTime.le,
      Instant.micros]
  | stored database =>
    cases cutoff with
    | none => simp [Records.TellsWindow, ← edge]
    | some start =>
      simp only [Records.TellsWindow, Records.issuedSince, ← edge, Option.all_some,
        Option.map_some, Option.some.injEq, Int.ofNat_le, decide_eq_decide]
      constructor
      next =>
        -- An instant is known by its microseconds, so there is one to ask about.
        intro same other equal
        have equal : start = other := Instant.eq_of_micros (by omega)
        exact equal ▸ same
      next => exact fun all => all start rfl

section Order

variable {S : Type}

def storeOrder (service : Service) (rule : Rule S) (stored : List Certificate) : List Certificate :=
  service.records.arranged service.rowOrder
    (service.records.found rule.timeWindowDays.isSome stored)

theorem storeOrder_perm (service : Service) (rule : Rule S) (stored : List Certificate) :
    (service.storeOrder rule stored).Perm stored :=
  (service.records.arranged_perm service.rowOrder _).trans (service.records.found_perm _ stored)

end Order

variable {S : Type} [Scale S]

theorem findings?_reported {service : Service} {thresholds : Thresholds S} {candidate : Particulars}
    {rule : Rule S} {found : List (Match S)} {stored : List Certificate}
    (holds : service.records.Holds stored) (unblocked : service.blocking = false)
    (returned : service.findings? thresholds candidate rule = some found) :
    ∃ sees : Certificate → Bool,
      (∀ known, sees known = rule.reaches service.clock known ↔
        service.records.TellsWindow service.clock rule known) ∧
      found = ((service.storeOrder rule stored).filter fun known =>
        rule.wants thresholds candidate known && sees known).map
          (rule.matchWith thresholds candidate) ∧
      ∀ known ∈ found, Scale.ofNat 0 ≤ known.score ∧ known.score ≤ Scale.ofNat 1 := by
  simp only [findings?, unblocked, Bool.false_eq_true, if_false, Option.bind_eq_bind,
    Option.bind_eq_some_iff] at returned
  obtain ⟨pool, read, made⟩ := returned
  simp only [retrieved?, Option.bind_eq_bind, Option.bind_eq_some_iff] at read
  obtain ⟨issuedAfter, started, retrieved⟩ := read
  obtain ⟨chosen, queried, rfl⟩ := certificatesFor_returns (toOption_eq_some.1 retrieved)
  obtain ⟨cutoff, instant, rfl⟩ := Records.query_returns holds queried
  have edge := windowStart_edge (toOption_eq_some.1 started) instant
  obtain ⟨same, bounds⟩ := Rule.matchesIn_returns (toOption_eq_some.1 made)
  -- What a rule sees of its window is told by the records, which may be wrong about it.
  refine ⟨fun known => cutoff.all fun edge => service.records.issuedSince edge known, ?_, ?_,
    bounds⟩
  · intro known
    exact tells_iff service.records edge known
  · rw [same, windowStart_isSome (toOption_eq_some.1 started) instant, Records.arranged_filter,
      List.filter_filter]
    congr 2
    funext known
    simp only [Rule.wants, Bool.true_and]
    ac_rfl

end Service

end DuplicateGuard
