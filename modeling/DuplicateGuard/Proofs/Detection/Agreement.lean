import DuplicateGuard.Proofs.Chronology
import DuplicateGuard.Proofs.Detection.Exactness
import DuplicateGuard.Proofs.Detection.Scores
import DuplicateGuard.Proofs.Store.Agreement
import DuplicateGuard.Service.Reporting

set_option autoImplicit false

namespace DuplicateGuard

namespace Double

theorem eq_or_zeros {x y : Double} (below : x ≤ y) (above : y ≤ x) :
    x = y ∨ x = .finite 0 ∧ y = .negZero ∨ x = .negZero ∧ y = .finite 0 := by
  change x.le y = true at below
  change y.le x = true at above
  rcases x with a | _ | (_ | _) | _ <;> rcases y with b | _ | (_ | _) | _ <;>
    simp_all [le, toRat?]
  all_goals
    have below := of_decide_eq_true below
    have above := of_decide_eq_true above
    first
    | exact Rat.le_antisymm below above
    | exact Rat.le_antisymm above below

theorem sameValue_of_le {x y : Double} (below : x ≤ y) (above : y ≤ x) : x.sameValue y = true :=
  Bool.and_eq_true_iff.2 ⟨below, above⟩

end Double

theorem percent_eq {x y : Double} (below : x ≤ y) (above : y ≤ x) : percent x = percent y := by
  have zeros : percent (Double.finite 0) = percent Double.negZero := by decide +kernel
  rcases Double.eq_or_zeros below above with rfl | ⟨rfl, rfl⟩ | ⟨rfl, rfl⟩
  · rfl
  · exact zeros
  · exact zeros.symm

/-- Two verdicts that differ in the order of the matches of one rule at most. -/
structure Decision.Alike (one two : Decision Double) : Prop where
  isDuplicate : one.isDuplicate = two.isDuplicate
  confidence : one.confidence.sameValue two.confidence = true
  action : one.action = two.action
  message : one.message = two.message
  found : ∀ ruleId : Option String,
    (one.found.filter fun known => decide (known.ruleId = ruleId)).Perm
      (two.found.filter fun known => decide (known.ruleId = ruleId))

theorem Decision.Alike.refl {decision : Decision Double} (number : decision.confidence ≠ .nan) :
    decision.Alike decision :=
  have self := Double.le_self_iff.2 number
  ⟨rfl, Double.sameValue_of_le self self, rfl, rfl, fun _ => .refl _⟩

def Match.Reordered (found found' : List (Match Double)) : Prop :=
  found.Perm found' ∧ ∀ known ∈ found, known.score ≠ .nan

theorem Match.Reordered.symm {found found' : List (Match Double)}
    (same : Match.Reordered found found') : Match.Reordered found' found :=
  ⟨same.1.symm, fun known member => same.2 known (same.1.mem_iff.2 member)⟩

theorem Match.reordered_flatten {parts parts' : List (List (Match Double))}
    (each : List.Forall₂ Match.Reordered parts parts') :
    Match.Reordered parts.flatten parts'.flatten := by
  induction each with
  | nil => exact ⟨.refl _, by simp⟩
  | cons here _ ih =>
    rw [List.flatten_cons, List.flatten_cons]
    refine ⟨here.1.append ih.1, fun known member => ?_⟩
    exact (List.mem_append.1 member).elim (here.2 known) (ih.2 known)

section Reordered

variable {found found' : List (Match Double)}

theorem largest_of_reordered (default default' : Double) (some : found ≠ [])
    (same : Match.Reordered found found') :
    Scale.largest default (found.map (·.score)) ≤
      Scale.largest default' (found'.map (·.score)) := by
  have scores := same.1.map (·.score)
  have numbers : ∀ score ∈ found'.map (·.score), score ≠ .nan := by
    intro score member
    obtain ⟨known, inside, rfl⟩ := List.mem_map.1 member
    exact same.symm.2 known inside
  -- The largest score on one side is some score on the other.
  refine Scale.le_largest default' numbers _ (scores.mem_iff.1 ?_)
  exact Scale.largest_mem default (by simpa using some)

theorem verdictMessage_of_reordered (same : Match.Reordered found found') (action : Action) :
    verdictMessage found action = verdictMessage found' action := by
  cases found with
  | nil => rw [List.nil_perm.1 same.1]
  | cons first rest =>
    cases found' with
    | nil => exact absurd same.1.length_eq (by simp)
    | cons first' rest' =>
      have highest := percent_eq
        (largest_of_reordered first.score first'.score (List.cons_ne_nil _ _) same)
        (largest_of_reordered first'.score first.score (List.cons_ne_nil _ _) same.symm)
      cases action with
      | allow => rfl
      | block | warn =>
        unfold verdictMessage
        dsimp only
        rw [highest, same.1.length_eq]

theorem Decision.ofMatches_alike (thresholds : Thresholds Double) (rules : List (Rule Double))
    (same : Match.Reordered found found') :
    (Decision.ofMatches thresholds rules found).Alike (.ofMatches thresholds rules found') := by
  rcases Decidable.em (found = []) with rfl | some
  · rw [List.nil_perm.1 same.1]
    exact .refl (by decide +kernel : (Scale.ofNat 0 : Double) ≠ .nan)
  have some' : found' ≠ [] := fun none => some (List.perm_nil.1 (none ▸ same.1))
  -- Each list has a score as large as the largest of the other.
  have below := largest_of_reordered (Scale.ofNat 0) (Scale.ofNat 0) some same
  have above := largest_of_reordered (Scale.ofNat 0) (Scale.ofNat 0) some' same.symm
  have reached : thresholds.duplicate ≤ Scale.largest (Scale.ofNat 0) (found.map (·.score)) ↔
      thresholds.duplicate ≤ Scale.largest (Scale.ofNat 0) (found'.map (·.score)) :=
    ⟨fun reaches => Double.le_trans reaches below, fun reaches => Double.le_trans reaches above⟩
  have isDuplicate : (Decision.ofMatches thresholds rules found).isDuplicate =
      (Decision.ofMatches thresholds rules found').isDuplicate := by
    simp only [Decision.ofMatches, List.isEmpty_eq_false_iff.2 some,
      List.isEmpty_eq_false_iff.2 some', reached]
  have action : (Decision.ofMatches thresholds rules found).action =
      (Decision.ofMatches thresholds rules found').action := by
    simp only [Decision.ofMatches] at isDuplicate ⊢
    rw [isDuplicate]
  constructor
  case isDuplicate => exact isDuplicate
  case confidence => exact Double.sameValue_of_le below above
  case action => exact action
  case message =>
    simp only [Decision.ofMatches] at action ⊢
    rw [action]
    exact verdictMessage_of_reordered same _
  case found => exact fun ruleId => same.1.filter _

end Reordered

section Pools

variable {thresholds : Thresholds Double} {rule : Rule Double} {candidate : Particulars}
  {pool pool' : List Certificate}

theorem matchesIn_of_perm {found : List (Match Double)} (same : pool.Perm pool')
    (returned : rule.matchesIn thresholds candidate pool = .ok found) :
    ∃ found', rule.matchesIn thresholds candidate pool' = .ok found' ∧
      Match.Reordered found found' := by
  have numbers : ∀ known ∈ found, known.score ≠ .nan := fun known member =>
    (Double.ne_nan_of_le ((Rule.matchesIn_returns returned).2 known member).1).2
  obtain ⟨rfl, made⟩ := mapM_id_of_eq_ok (fun made => (Match.make_returns made).1) returned
  have perm := same.filterMap (rule.match? thresholds candidate)
  refine ⟨_, ?_, perm, numbers⟩
  rw [Rule.matchesIn, mapM_eq_ok_iff, List.forall₂_same]
  exact fun known inside => made known (perm.mem_iff.2 inside)

theorem matchesIn_rel (same : pool.Perm pool') :
    Option.Rel Match.Reordered (rule.matchesIn thresholds candidate pool).toOption
      (rule.matchesIn thresholds candidate pool').toOption := by
  cases left : rule.matchesIn thresholds candidate pool with
  | ok found =>
    obtain ⟨found', right, reordered⟩ := matchesIn_of_perm same left
    rw [right]
    exact .some reordered
  | error fault =>
    -- A match that is refused is refused in every order of the pool.
    cases right : rule.matchesIn thresholds candidate pool' with
    | ok found' =>
      obtain ⟨found, other, _⟩ := matchesIn_of_perm same.symm right
      rw [left] at other
      cases other
    | error fault' => exact .none

end Pools

def Rule.DatedWindow {S : Type} (now : Timestamp) (rule : Rule S) : Prop :=
  ∃ issuedAfter cutoff, windowStart now rule.timeWindowDays = .ok issuedAfter ∧
    issuedAfter.mapM Records.instantOf = .ok cutoff ∧ ∀ edge ∈ cutoff, 1000 ≤ edge.utc.year

section Related

variable {α β γ δ : Type} {related : α → β → Prop} {related' : γ → δ → Prop} {x : Option α}
  {y : Option β}

theorem rel_bind {f : α → Option γ} {g : β → Option δ} (first : Option.Rel related x y)
    (rest : ∀ a b, related a b → Option.Rel related' (f a) (g b)) :
    Option.Rel related' (x.bind f) (y.bind g) := by
  cases first with
  | some ab => exact rest _ _ ab
  | none => exact .none

theorem rel_map {f : α → γ} {g : β → δ} (first : Option.Rel related x y)
    (rest : ∀ a b, related a b → related' (f a) (g b)) :
    Option.Rel related' (x.map f) (y.map g) := by
  cases first with
  | some ab => exact .some (rest _ _ ab)
  | none => exact .none

theorem rel_map_eq {f : α → γ} {g : β → γ} (first : Option.Rel related x y)
    (rest : ∀ a b, related a b → f a = g b) : x.map f = y.map g := by
  cases first with
  | some ab => exact congrArg some (rest _ _ ab)
  | none => rfl

theorem rel_elim_eq {f : α → γ} {g : β → γ} (default : γ) (first : Option.Rel related x y)
    (rest : ∀ a b, related a b → f a = g b) : x.elim default f = y.elim default g := by
  cases first with
  | some ab => exact rest _ _ ab
  | none => rfl

theorem mapM_rel {f : γ → Option α} {g : γ → Option β} {items : List γ}
    (each : ∀ item ∈ items, Option.Rel related (f item) (g item)) :
    Option.Rel (List.Forall₂ related) (items.mapM f) (items.mapM g) := by
  induction items with
  | nil => exact .some .nil
  | cons item rest ih =>
    have later := ih fun other member => each other (by simp [member])
    simp only [List.mapM_cons, Option.bind_eq_bind, Option.pure_def]
    exact rel_bind (each item (by simp)) fun a b ab =>
      rel_bind later fun as bs all => .some (.cons ab all)

theorem mapM_some {f : γ → Option α} {items : List γ}
    (each : ∀ item ∈ items, ∃ value, f item = some value) :
    ∃ values, items.mapM f = some values := by
  induction items with
  | nil => exact ⟨[], rfl⟩
  | cons item rest ih =>
    obtain ⟨value, here⟩ := each item (by simp)
    obtain ⟨values, later⟩ := ih fun other member => each other (by simp [member])
    exact ⟨value :: values, by simp [here, later]⟩

end Related

namespace Service

def Reliable (service : Service) : Prop :=
  service.outage = none ∧ ∀ context, service.lapse context = none

def withRecords (service : Service) (records : Records) : Service :=
  { service with records := records }

theorem Reliable.queryCertificates {service : Service} (reliable : service.Reliable)
    (notRevoked : Bool) (issuedAfter : Option Timestamp) :
    service.queryCertificates notRevoked issuedAfter =
      (service.records.query notRevoked issuedAfter).map
        (service.records.arranged service.rowOrder) := by
  simp [Service.queryCertificates, reliable.1]

theorem Reliable.certificatesFor {S : Type} {service : Service} (reliable : service.Reliable)
    (rule : Rule S) (issuedAfter : Option Timestamp) :
    service.certificatesFor rule issuedAfter =
      (service.records.query true issuedAfter).map
        (service.records.arranged service.rowOrder) := by
  simp [Service.certificatesFor, attempt, reliable.2, reliable.queryCertificates]

theorem Reliable.retrieved?_eq {S : Type} {service : Service} {stored : List Certificate}
    (reliable : service.Reliable) (holds : service.records.Holds stored)
    (dated : Certificate.Dated stored) {rule : Rule S} {issuedAfter : Option Timestamp}
    {cutoff : Option Instant}
    (started : windowStart service.clock rule.timeWindowDays = .ok issuedAfter)
    (read : issuedAfter.mapM Records.instantOf = .ok cutoff)
    (fourDigits : ∀ edge ∈ cutoff, 1000 ≤ edge.utc.year) :
    service.retrieved? rule =
      some ((service.storeOrder rule stored).filter (Certificate.answers true cutoff)) := by
  have query : service.records.query true issuedAfter = _ := holds.query dated read fourDigits
  simp only [retrieved?, started, reliable.certificatesFor, Except.toOption, Option.bind_eq_bind,
    Option.bind_some, query, Except.map, Records.arranged_filter, windowStart_isSome started read,
    storeOrder]

section Checks

variable {service : Service} {records records' : Records} {stored stored' : List Certificate}

theorem Reliable.findings?_agree (reliable : service.Reliable)
    (holds : records.Holds stored) (holds' : records'.Holds stored') (same : stored.Perm stored')
    (dated : Certificate.Dated stored) (thresholds : Thresholds Double) (candidate : Particulars)
    {rule : Rule Double} (window : rule.DatedWindow service.clock) :
    Option.Rel Match.Reordered ((service.withRecords records).findings? thresholds candidate rule)
      ((service.withRecords records').findings? thresholds candidate rule) := by
  obtain ⟨issuedAfter, cutoff, started, read, fourDigits⟩ := window
  have dated' : Certificate.Dated stored' := fun known inside => dated known (same.mem_iff.2 inside)
  have one : (service.withRecords records).Reliable := reliable
  have two : (service.withRecords records').Reliable := reliable
  simp only [findings?, one.retrieved?_eq holds dated started read fourDigits,
    two.retrieved?_eq holds' dated' started read fourDigits, Option.bind_eq_bind, Option.bind_some]
  have listed := ((service.withRecords records).storeOrder_perm rule stored).trans
    (same.trans ((service.withRecords records').storeOrder_perm rule stored').symm)
  have pools := listed.filter (Certificate.answers true cutoff)
  cases blocking : service.blocking with
  | false => simpa [withRecords, blocking] using matchesIn_rel pools
  | true =>
    have blocked : (rule.blocked candidate _).Perm (rule.blocked candidate _) := pools.filter _
    simpa [withRecords, blocking] using matchesIn_rel blocked

theorem Reliable.decision?_agree (reliable : service.Reliable) (holds : records.Holds stored)
    (holds' : records'.Holds stored') (same : stored.Perm stored')
    (dated : Certificate.Dated stored) (thresholds : Thresholds Double) (candidate : Particulars)
    {policy : Policy Double}
    (windows : ∀ rule ∈ policy.enabledRules, rule.DatedWindow service.clock) :
    Option.Rel Decision.Alike ((service.withRecords records).decision? thresholds candidate policy)
      ((service.withRecords records').decision? thresholds candidate policy) := by
  unfold decision?
  split
  next enabled =>
    have parts := mapM_rel fun rule inside =>
      reliable.findings?_agree holds holds' same dated thresholds candidate (windows rule inside)
    exact rel_map parts fun _ _ each =>
      Decision.ofMatches_alike thresholds policy.enabledRules (Match.reordered_flatten each)
  next => exact .some (.refl (by decide +kernel : (Scale.ofNat 0 : Double) ≠ .nan))

theorem Reliable.decision?_standard (reliable : service.Reliable)
    (holds : service.records.Holds stored) (dated : Certificate.Dated stored)
    (candidate : Particulars) {policy : Policy Double}
    (windows : ∀ rule ∈ policy.enabledRules, rule.DatedWindow service.clock) :
    ∃ decision, service.decision? .standard candidate policy = some decision := by
  unfold decision?
  split
  next enabled =>
    have each : ∀ rule ∈ policy.enabledRules, ∃ found,
        service.findings? .standard candidate rule = some found := by
      intro rule inside
      obtain ⟨issuedAfter, cutoff, started, read, fourDigits⟩ := windows rule inside
      simp only [findings?, reliable.retrieved?_eq holds dated started read fourDigits,
        Rule.matchesIn_standard]
      exact ⟨_, rfl⟩
    obtain ⟨parts, evaluated⟩ := mapM_some each
    rw [evaluated]
    exact ⟨_, rfl⟩
  next => exact ⟨_, rfl⟩

end Checks

section Reports

variable {service : Service} {stored : List Certificate}

theorem ofFlagged_eq_of_perm (id : String) (first last : Instant) (now : Timestamp)
    {flagged flagged' : List Certificate} (distinct : (flagged.map (·.id)).Nodup)
    (same : flagged.Perm flagged') :
    Report.ofFlagged id first last now flagged = .ofFlagged id first last now flagged' := by
  have listed : flagged.mergeSort Report.listedBefore = flagged'.mergeSort Report.listedBefore :=
    mergeSort_chronological_eq Certificate.issuedAt distinct same
  simp only [Report.ofFlagged, listed]

theorem Reliable.run_report_of_answer (reliable : service.Reliable) {start stop : Timestamp}
    {first last : Instant} {flagged : List Certificate}
    (begins : Records.instantOf start = .ok first) (ends : Records.instantOf stop = .ok last)
    (ordered : ¬last.micros < first.micros)
    (answer : service.records.flaggedWithin (.ofInstant first) (.ofInstant last) = .ok flagged) :
    (service.run (report start stop)).1 =
      ((reportIdAt service.clock).mapError Failure.foreign).map fun id =>
        .ofFlagged id first last service.clock
          (service.records.arranged service.rowOrder flagged) := by
  have read (desk : Desk) (context : ErrorContext) : ({ service with desk := desk } : Service).attempt
      context (fun service => service.flaggedWithin (.ofInstant first) (.ofInstant last)) =
        .ok (service.records.arranged service.rowOrder flagged) := by
    simp [attempt, reliable.2, Service.flaggedWithin, reliable.1, answer, Except.map]
  simp only [report, begins, ends, run_bind, run_ofExcept, ordered, if_false, run_readInBlock, read,
    run_get]
  cases reportIdAt service.clock <;> rfl

theorem Reliable.run_report (reliable : service.Reliable) (holds : service.records.Holds stored)
    (dated : Certificate.Dated stored) {start stop : Timestamp} {first last : Instant}
    (begins : Records.instantOf start = .ok first) (ends : Records.instantOf stop = .ok last)
    (ordered : ¬last.micros < first.micros) (firstDigits : 1000 ≤ first.utc.year)
    (lastDigits : 1000 ≤ last.utc.year) :
    (service.run (report start stop)).1 =
      ((reportIdAt service.clock).mapError Failure.foreign).map fun id =>
        .ofFlagged id first last service.clock
          (stored.filter (Certificate.flaggedWithin first last)) := by
  have instant (time : Instant) : Records.instantOf (.ofInstant time) = .ok time := by
    simp [Records.instantOf]
  have perm : (service.records.arranged service.rowOrder ((service.records.found true stored).filter
      (Certificate.flaggedWithin first last))).Perm
        (stored.filter (Certificate.flaggedWithin first last)) :=
    (service.records.arranged_perm service.rowOrder _).trans
      ((service.records.found_perm true stored).filter _)
  have distinct := ((List.filter_sublist (p := Certificate.flaggedWithin first last)).map
    Certificate.id).nodup holds.distinct
  rw [reliable.run_report_of_answer begins ends ordered
    (holds.flaggedWithin dated (instant first) (instant last) firstDigits lastDigits)]
  simp only [ofFlagged_eq_of_perm _ first last service.clock
    ((perm.map Certificate.id).nodup_iff.2 distinct) perm]

theorem Reliable.report_agree {records records' : Records} {stored' : List Certificate}
    (reliable : service.Reliable) (holds : records.Holds stored) (holds' : records'.Holds stored')
    (same : stored.Perm stored') (dated : Certificate.Dated stored) {start stop : Timestamp}
    (bounds : ∀ stamp ∈ [start, stop], ∀ bound, Records.instantOf stamp = .ok bound →
      1000 ≤ bound.utc.year) :
    ((service.withRecords records).run (report start stop)).1 =
      ((service.withRecords records').run (report start stop)).1 := by
  have dated' : Certificate.Dated stored' := fun known inside => dated known (same.mem_iff.2 inside)
  cases begins : Records.instantOf start with
  | error failure => simp only [report, begins, run_bind, run_ofExcept]
  | ok first =>
    cases ends : Records.instantOf stop with
    | error failure => simp only [report, begins, ends, run_bind, run_ofExcept]
    | ok last =>
      by_cases reversed : last.micros < first.micros
      next => simp only [report, begins, ends, run_bind, run_ofExcept, reversed, if_true]; rfl
      next =>
        have firstDigits := bounds start (by simp) first begins
        have lastDigits := bounds stop (by simp) last ends
        have one : (service.withRecords records).Reliable := reliable
        have two : (service.withRecords records').Reliable := reliable
        rw [one.run_report holds dated begins ends reversed firstDigits lastDigits,
          two.run_report holds' dated' begins ends reversed firstDigits lastDigits]
        simp only [ofFlagged_eq_of_perm _ first last _
          (((List.filter_sublist).map _).nodup holds.distinct)
          (same.filter (Certificate.flaggedWithin first last)), withRecords]

end Reports

end Service

structure Certificate.SameAnswer (wanted : Certificate → Prop) (one two : List Certificate) :
    Prop where
  sorted : RowOrder.inIdOrder one = RowOrder.inIdOrder two
  distinct : (one.map (·.id)).Nodup
  exact : ∀ known, known ∈ one ↔ wanted known

/-- What nobody can tell apart: two records to which the same certificates were added, as long as
all that is asked is about years of four digits. -/
structure Records.Agree (added : List Certificate) (one two : Records) : Prop where
  query : ∀ notRevoked issuedAfter cutoff, issuedAfter.mapM Records.instantOf = .ok cutoff →
    (∀ edge ∈ cutoff, 1000 ≤ edge.utc.year) →
    ∃ found found', one.query notRevoked issuedAfter = .ok found ∧
      two.query notRevoked issuedAfter = .ok found' ∧
      Certificate.SameAnswer (fun known => known.Last added ∧ known.answers notRevoked cutoff)
        found found'
  flaggedWithin : ∀ start stop first last, Records.instantOf start = .ok first →
    Records.instantOf stop = .ok last → 1000 ≤ first.utc.year → 1000 ≤ last.utc.year →
    ∃ found found', one.flaggedWithin start stop = .ok found ∧
      two.flaggedWithin start stop = .ok found' ∧
      Certificate.SameAnswer (fun known => known.Last added ∧ known.flaggedWithin first last)
        found found'
  check : ∀ (service : Service) (thresholds : Thresholds Double) (candidate : Candidate)
    (policy : Policy Double), service.Reliable →
    (∀ rule ∈ policy.enabledRules, rule.DatedWindow service.clock) →
    Option.Rel Decision.Alike
      ((service.withRecords one).result? (Service.check thresholds candidate policy))
      ((service.withRecords two).result? (Service.check thresholds candidate policy)) ∧
    (thresholds = .standard → ∃ decision,
      (service.withRecords one).result? (Service.check thresholds candidate policy) = some decision)
  report : ∀ (service : Service) (start stop : Timestamp), service.Reliable →
    (∀ stamp ∈ [start, stop], ∀ bound, Records.instantOf stamp = .ok bound →
      1000 ≤ bound.utc.year) →
    ((service.withRecords one).run (Service.report start stop)).1 =
      ((service.withRecords two).run (Service.report start stop)).1

theorem Certificate.sameAnswer_filter {stored one two : List Certificate}
    {wanted : Certificate → Prop} (distinct : (stored.map (·.id)).Nodup)
    (here : one.Perm stored) (there : two.Perm stored)
    (members : ∀ known, known ∈ stored ↔ wanted known) (p : Certificate → Bool) :
    Certificate.SameAnswer (fun known => wanted known ∧ p known) (one.filter p) (two.filter p) := by
  have apart : ((one.filter p).map (·.id)).Nodup :=
    ((List.filter_sublist).map _).nodup ((here.map _).nodup_iff.2 distinct)
  constructor
  case sorted => exact RowOrder.inIdOrder_eq_of_perm apart ((here.trans there.symm).filter p)
  case distinct => exact apart
  case exact =>
    intro known
    rw [List.mem_filter, here.mem_iff, members]

/-- Records in memory and in a database agree on all certificates that were added to both. -/
theorem Records.stores_agree {added : List Certificate} (dated : Certificate.Dated added)
    (ledger : Ledger) (requests : Option RequestTable) :
    ∃ memory database,
      added.foldlM Records.addCertificate (.memory [] ledger) = .ok memory ∧
      added.foldlM Records.addCertificate (.stored (.sound (some []) requests)) = .ok database ∧
      Records.Agree added memory database := by
  have empty : (Records.memory [] ledger).Holds [] := ⟨rfl, .nil⟩
  obtain ⟨memory, stored, inMemory, holds, members⟩ := empty.addAll added
  obtain ⟨database, stored', inDatabase, holds', members'⟩ :=
    (Records.holds_empty requests).2.addAll added
  -- Both hold the certificates that were added last under their ids, each once.
  have same : stored.Perm stored' :=
    (List.perm_ext_iff_of_nodup holds.distinct.of_map holds'.distinct.of_map).2 fun known =>
      (members known).trans (members' known).symm
  have inYears : Certificate.Dated stored := by
    intro known inside
    obtain ⟨before, after, rfl, _⟩ := (members known).1 inside
    exact dated known (by simp)
  have inYears' : Certificate.Dated stored' :=
    fun known inside => inYears known (same.mem_iff.2 inside)
  refine ⟨memory, database, inMemory, inDatabase, ?_⟩
  constructor
  case query =>
    intro notRevoked issuedAfter cutoff read fourDigits
    exact ⟨_, _, holds.query inYears read fourDigits, holds'.query inYears' read fourDigits,
      Certificate.sameAnswer_filter holds.distinct (memory.found_perm _ stored)
        ((database.found_perm _ stored').trans same.symm) members _⟩
  case flaggedWithin =>
    intro start stop first last begins ends firstDigits lastDigits
    exact ⟨_, _, holds.flaggedWithin inYears begins ends firstDigits lastDigits,
      holds'.flaggedWithin inYears' begins ends firstDigits lastDigits,
      Certificate.sameAnswer_filter holds.distinct (memory.found_perm _ stored)
        ((database.found_perm _ stored').trans same.symm) members _⟩
  case check =>
    intro service thresholds candidate policy reliable windows
    rw [Service.result?_check, Service.result?_check]
    refine ⟨reliable.decision?_agree holds holds' same inYears thresholds _ windows, ?_⟩
    rintro rfl
    have same : (service.withRecords memory).Reliable := reliable
    exact same.decision?_standard holds inYears _ windows
  case report =>
    intro service start stop reliable bounds
    exact reliable.report_agree holds holds' same inYears bounds

theorem Records.stores_agree_replaced :
    let revoked := { Service.sampleCertificate with status := .revoked }
    ∃ memory database,
      [Service.sampleCertificate, revoked].foldlM Records.addCertificate .emptyMemory = .ok memory ∧
      [Service.sampleCertificate, revoked].foldlM Records.addCertificate
        (.stored (.sound (some []) none)) = .ok database ∧
      Records.Agree [Service.sampleCertificate, revoked] memory database ∧
      memory.query false none = .ok [revoked] ∧ database.query false none = .ok [revoked] := by
  intro revoked
  have dated : Certificate.Dated [Service.sampleCertificate, revoked] := by
    have year : 1000 ≤ Service.sampleCertificate.issuedAt.utc.year := by decide +kernel
    simpa [Certificate.Dated, revoked] using year
  obtain ⟨memory, database, inMemory, inDatabase, agree⟩ := Records.stores_agree dated [] none
  obtain ⟨found, found', here, there, answer⟩ := agree.query false none none rfl nofun
  have one : found = [revoked] := by
    have same : Records.query memory false none = .ok [revoked] := by
      rw [← Except.ok.inj inMemory]
      rfl
    exact Except.ok.inj (here.symm.trans same)
  subst one
  have two : found' = [revoked] := by
    have perm := (RowOrder.inIdOrder_perm found').symm.trans
      (answer.sorted ▸ RowOrder.inIdOrder_perm [revoked])
    exact List.perm_singleton.1 perm
  subst two
  exact ⟨memory, database, inMemory, inDatabase, agree, here, there⟩

end DuplicateGuard
