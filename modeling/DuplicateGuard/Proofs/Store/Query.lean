import DuplicateGuard.Proofs.Chronology
import DuplicateGuard.Proofs.Keyed
import DuplicateGuard.Proofs.Result
import DuplicateGuard.Store.Records

set_option autoImplicit false

namespace DuplicateGuard

namespace RowOrder

variable {certificates found : List Certificate}

theorem le_trans_id (a b c : Certificate) (ab : decide (a.id ≤ b.id) = true)
    (bc : decide (b.id ≤ c.id) = true) : decide (a.id ≤ c.id) = true :=
  decide_eq_true (String.le_trans (of_decide_eq_true ab) (of_decide_eq_true bc))

theorem le_total_id (a b : Certificate) : (decide (a.id ≤ b.id) || decide (b.id ≤ a.id)) = true := by
  simpa using String.le_total a.id b.id

theorem inIdOrder_perm (certificates : List Certificate) :
    (inIdOrder certificates).Perm certificates :=
  List.mergeSort_perm _ _

theorem inIdOrder_filter (certificates : List Certificate) (p : Certificate → Bool) :
    inIdOrder (certificates.filter p) = (inIdOrder certificates).filter p :=
  mergeSort_filter le_trans_id le_total_id p certificates

theorem inIdOrder_eq_of_perm (distinct : (certificates.map (·.id)).Nodup)
    (same : certificates.Perm found) : inIdOrder certificates = inIdOrder found := by
  refine mergeSort_eq_of_perm le_trans_id le_total_id ?_ same
  intro a inA b inB ab ba
  exact List.inj_on_of_nodup_map distinct inA inB
    (String.le_antisymm (of_decide_eq_true ab) (of_decide_eq_true ba))

theorem arrange_perm (order : RowOrder) (certificates : List Certificate) :
    (order.arrange certificates).Perm certificates := by
  cases order with
  | found => exact .refl _
  | ids => exact inIdOrder_perm certificates

theorem arrange_filter (order : RowOrder) (certificates : List Certificate)
    (p : Certificate → Bool) :
    order.arrange (certificates.filter p) = (order.arrange certificates).filter p := by
  cases order with
  | found => rfl
  | ids => exact inIdOrder_filter certificates p

end RowOrder

namespace CertificateTable

def byTime (certificates : List Certificate) : List Certificate :=
  certificates.mergeSort fun a b => decide (Column.write a.issuedAt ≤ Column.write b.issuedAt)

theorem byTime_perm (certificates : List Certificate) : (byTime certificates).Perm certificates :=
  List.mergeSort_perm _ _

theorem byTime_filter (certificates : List Certificate) (p : Certificate → Bool) :
    byTime (certificates.filter p) = (byTime certificates).filter p := by
  refine mergeSort_filter (fun a b c ab bc => ?_) (fun a b => ?_) p certificates
  · exact decide_eq_true (String.le_trans (of_decide_eq_true ab) (of_decide_eq_true bc))
  · simpa using String.le_total (Column.write a.issuedAt) (Column.write b.issuedAt)

theorem inTimeOrder_of (certificates : List Certificate) :
    inTimeOrder (certificates.map .of) = (byTime certificates).map .of := by
  refine (List.map_mergeSort ?_).symm
  intro a _ b _
  rfl

theorem certificate_of {certificate read : Certificate}
    (returned : (CertificateRow.of certificate).certificate = .ok read) : read = certificate := by
  unfold CertificateRow.certificate at returned
  split at returned
  next => simp at returned
  next issuedAt known =>
    have same := Column.eq_of_read?_write known
    subst same
    exact (Except.ok.inj returned).symm

theorem certificates_of {chosen answer : List Certificate}
    (returned : certificates (chosen.map .of) = .ok answer) : answer = chosen := by
  simp only [certificates, List.mapM_map, Function.comp_def] at returned
  exact (mapM_id_of_eq_ok certificate_of returned).1

theorem filter_of (p : CertificateRow → Bool) (certificates : List Certificate) :
    (certificates.map CertificateRow.of).filter p =
      (certificates.filter fun known => p (.of known)).map .of :=
  List.filter_map

theorem query_of {certificates answer : List Certificate} {notRevoked : Bool}
    {cutoff : Option Instant}
    (returned : query (certificates.map .of) notRevoked cutoff = .ok answer) :
    answer = (if cutoff.isSome then byTime certificates else certificates).filter fun known =>
      !(notRevoked && decide (known.status = .revoked)) &&
        cutoff.all fun edge => decide (Column.write edge ≤ Column.write known.issuedAt) := by
  cases cutoff with
  | none =>
    simp only [query, filter_of] at returned
    rw [certificates_of returned]
    simp only [Option.isSome_none, Bool.false_eq_true, if_false, Option.all_none, Bool.and_true]
    rfl
  | some edge =>
    simp only [query, filter_of, inTimeOrder_of, byTime_filter, List.filter_filter] at returned
    rw [certificates_of returned, Option.isSome_some, if_pos rfl]
    apply List.filter_congr
    intro known _
    rw [Bool.and_comm, Option.all_some]
    rfl

end CertificateTable

namespace Records

def Holds (records : Records) (stored : List Certificate) : Prop :=
  (match records with
    | .memory corpus _ => corpus = Keyed.named (·.id) stored
    | .stored database => database.certificates = .ok (stored.map .of)) ∧
  (stored.map (·.id)).Nodup

theorem Holds.distinct {records : Records} {stored : List Certificate}
    (holds : records.Holds stored) : (stored.map (·.id)).Nodup :=
  holds.2

def found (records : Records) (byTime : Bool) (stored : List Certificate) : List Certificate :=
  match records with
  | .memory _ _ => stored
  | .stored _ => if byTime then CertificateTable.byTime stored else stored

theorem found_perm (records : Records) (byTime : Bool) (stored : List Certificate) :
    (records.found byTime stored).Perm stored := by
  unfold found
  split
  · exact .refl _
  · split
    · exact CertificateTable.byTime_perm stored
    · exact .refl _

theorem arranged_perm (records : Records) (order : RowOrder) (found : List Certificate) :
    (records.arranged order found).Perm found := by
  cases records with
  | memory corpus ledger => exact .refl _
  | stored database => exact order.arrange_perm found

theorem arranged_filter (records : Records) (order : RowOrder) (found : List Certificate)
    (p : Certificate → Bool) :
    records.arranged order (found.filter p) = (records.arranged order found).filter p := by
  cases records with
  | memory corpus ledger => rfl
  | stored database => exact order.arrange_filter found p

theorem holds_empty (requests : Option RequestTable) :
    emptyMemory.Holds [] ∧ (Records.stored (.sound (some []) requests)).Holds [] :=
  ⟨⟨rfl, .nil⟩, rfl, .nil⟩

section Memory

variable {corpus : Corpus} {ledger : Ledger} {stored : List Certificate} {certificate : Certificate}

theorem Holds.concat (holds : (memory corpus ledger).Holds stored)
    (new : certificate.id ∉ stored.map (·.id)) :
    (memory (corpus.add certificate) ledger).Holds (stored ++ [certificate]) := by
  obtain ⟨rfl, distinct⟩ := holds
  exact ⟨Keyed.put_named_of_new _ new, Keyed.nodup_names_concat Certificate.id distinct new⟩

theorem Holds.replaced (holds : (memory corpus ledger).Holds stored)
    (known : certificate.id ∈ stored.map (·.id)) :
    (memory (corpus.add certificate) ledger).Holds
      (Keyed.replaceNamed Certificate.id certificate stored) := by
  obtain ⟨rfl, distinct⟩ := holds
  refine ⟨Keyed.put_named_of_known Certificate.id distinct known, ?_⟩
  exact (Keyed.names_replaceNamed Certificate.id certificate stored).symm ▸ distinct

end Memory

theorem Holds.add {records larger : Records} {stored : List Certificate} {certificate : Certificate}
    (holds : records.Holds stored) (added : records.addCertificate certificate = .ok larger) :
    ∃ stored', larger.Holds stored' ∧ ∀ known, known ∈ stored' ↔
      known = certificate ∨ known ∈ stored ∧ known.id ≠ certificate.id := by
  cases records with
  | memory corpus ledger =>
    cases added
    by_cases known : certificate.id ∈ stored.map (·.id)
    next => exact ⟨_, holds.replaced known, Keyed.mem_replaceNamed Certificate.id known⟩
    next =>
      refine ⟨stored ++ [certificate], holds.concat known, ?_⟩
      intro other
      have apart (inside : other ∈ stored) : other.id ≠ certificate.id :=
        fun same => known (same ▸ List.mem_map_of_mem inside)
      rw [List.mem_append, List.mem_singleton, or_comm]
      exact or_congr_right ⟨fun inside => ⟨inside, apart inside⟩, And.left⟩
  | stored database =>
    obtain ⟨table, distinct⟩ := holds
    simp only [addCertificate, Database.addCertificate, Database.statement, table,
      Except.mapError, bind, Except.bind, pure, Except.pure, Except.map,
      Except.ok.injEq] at added
    subst added
    -- The row with the id goes, and the new one comes last.
    let others := stored.filter fun known => known.id ≠ certificate.id
    have new : certificate.id ∉ others.map (·.id) := by
      intro inside
      obtain ⟨known, kept, same⟩ := List.mem_map.1 inside
      simpa [same] using List.of_mem_filter kept
    have apart : ((others ++ [certificate]).map (·.id)).Nodup :=
      Keyed.nodup_names_concat Certificate.id (((List.filter_sublist).map _).nodup distinct) new
    refine ⟨others ++ [certificate], ⟨?_, apart⟩, ?_⟩
    · cases database with
      | garbage => simp [Database.certificates] at table
      | sound certificateTable requests =>
        simp only [Database.setCertificates, Database.certificates, CertificateTable.replace,
          CertificateTable.filter_of, List.map_append]
        rfl
    · intro known
      simp only [List.mem_append, List.mem_singleton, others, List.mem_filter, decide_eq_true_eq]
      exact or_comm

def issuedSince (records : Records) (edge : Instant) (certificate : Certificate) : Bool :=
  match records with
  | .memory _ _ => edge.le certificate.issuedAt
  | .stored _ => decide (Column.write edge ≤ Column.write certificate.issuedAt)

theorem query_returns {records : Records} {stored answer : List Certificate} {notRevoked : Bool}
    {issuedAfter : Option Timestamp} (holds : records.Holds stored)
    (returned : records.query notRevoked issuedAfter = .ok answer) :
    ∃ cutoff, issuedAfter.mapM instantOf = .ok cutoff ∧
      answer = (records.found cutoff.isSome stored).filter fun known =>
        !(notRevoked && decide (known.status = .revoked)) &&
          cutoff.all fun edge => records.issuedSince edge known := by
  unfold query at returned
  cases edge : issuedAfter.mapM instantOf with
  | error failure => simp [edge, bind, Except.bind] at returned
  | ok cutoff =>
    refine ⟨cutoff, rfl, ?_⟩
    simp only [edge, bind, Except.bind] at returned
    -- Memory compares the instants, a table their texts.
    cases records with
    | memory corpus ledger =>
      obtain ⟨rfl, _⟩ := holds
      rw [← Except.ok.inj returned]
      simp only [Corpus.query, Keyed.values_named]
      rfl
    | stored database =>
      simp only [Database.query, Database.statement, holds.1, Except.mapError, bind,
        Except.bind] at returned
      cases found : CertificateTable.query (stored.map .of) notRevoked cutoff with
      | error text => simp [found] at returned
      | ok known =>
        rw [found] at returned
        rw [← Except.ok.inj returned]
        exact CertificateTable.query_of found

end Records

end DuplicateGuard
