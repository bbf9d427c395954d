import DuplicateGuard.Proofs.Store.Agreement

set_option autoImplicit false

namespace DuplicateGuard.CertificateTable

def replaceAll (table : CertificateTable) (certificates : List Certificate) : CertificateTable :=
  certificates.foldl (fun table certificate => table.replace (.of certificate)) table

@[simp] theorem replaceAll_nil (table : CertificateTable) : table.replaceAll [] = table := rfl

@[simp] theorem replaceAll_cons (table : CertificateTable) (certificate : Certificate)
    (rest : List Certificate) : table.replaceAll (certificate :: rest) =
      (table.replace (.of certificate)).replaceAll rest := rfl

theorem replaceAll_concat (table : CertificateTable) (certificates : List Certificate)
    (certificate : Certificate) : table.replaceAll (certificates ++ [certificate]) =
      (table.replaceAll certificates).replace (.of certificate) :=
  List.foldl_concat ..

def rowsOf (table : CertificateTable) (id : String) : List CertificateRow :=
  table.filter fun row => row.id = id

theorem rowsOf_replace (table : CertificateTable) (row : CertificateRow) (id : String) :
    (table.replace row).rowsOf id = if row.id = id then [row] else table.rowsOf id := by
  rw [rowsOf, replace, List.filter_append, List.filter_filter]
  split
  next same =>
    subst same
    simp
  next apart =>
    have kept (known : CertificateRow) :
        (decide (known.id = id) && decide (known.id ≠ row.id)) = decide (known.id = id) := by
      by_cases same : known.id = id
      next => simp [same, Ne.symm apart]
      next => simp [same]
    simp only [kept, List.filter_singleton, apart, decide_false, cond_false, List.append_nil]
    rfl

theorem rowsOf_replaceAll_last {certificates : List Certificate} {known : Certificate}
    (last : known.Last certificates) (table : CertificateTable) :
    (table.replaceAll certificates).rowsOf known.id = [.of known] := by
  induction certificates using List.reverseRecOn with
  | nil => exact absurd last (Certificate.not_last_nil known)
  | append_singleton earlier certificate ih =>
    rw [replaceAll_concat, rowsOf_replace]
    rcases Certificate.last_concat.1 last with rfl | ⟨before, apart⟩
    · exact if_pos rfl
    · exact (if_neg (Ne.symm apart)).trans (ih before)

theorem rowsOf_replaceAll_other {certificates : List Certificate} {id : String}
    (new : id ∉ certificates.map (·.id)) (table : CertificateTable) :
    (table.replaceAll certificates).rowsOf id = table.rowsOf id := by
  induction certificates generalizing table with
  | nil => rfl
  | cons certificate rest ih =>
    simp only [List.map_cons, List.mem_cons, not_or] at new
    rw [replaceAll_cons, ih new.2, rowsOf_replace]
    exact if_neg (Ne.symm new.1)

theorem replaceAll_eq (table : CertificateTable) (certificates : List Certificate) :
    table.replaceAll certificates =
      table.filter (fun row => row.id ∉ certificates.map (·.id)) ++ replaceAll [] certificates := by
  induction certificates generalizing table with
  | nil => simp
  | cons certificate rest ih =>
    -- The induction is used twice: on the table, and on the one row that the first step makes.
    have own := ih [.of certificate]
    rw [replaceAll_cons, replaceAll_cons, ih, replace, replace, List.filter_nil, List.nil_append,
      own, List.filter_append, List.filter_filter, List.append_assoc]
    congr 2
    funext row
    have id : (CertificateRow.of certificate).id = certificate.id := rfl
    rw [Bool.eq_iff_iff]
    simp [id, and_comm]

theorem ids_replaceAll (certificates : List Certificate) :
    ∀ row ∈ replaceAll [] certificates, row.id ∈ certificates.map (·.id) := by
  induction certificates using List.reverseRecOn with
  | nil => simp
  | append_singleton earlier certificate ih =>
    intro row inside
    rw [replaceAll_concat, replace] at inside
    rw [List.map_append, List.mem_append]
    rcases List.mem_append.1 inside with known | new
    · exact .inl (ih row (List.mem_of_mem_filter known))
    · obtain rfl := List.mem_singleton.1 new
      exact .inr (.head [])

theorem replaceAll_again {first all : List Certificate} (again : first <+: all)
    (table : CertificateTable) : (table.replaceAll first).replaceAll all = table.replaceAll all := by
  have covered : ∀ row ∈ replaceAll [] first, row.id ∈ all.map (·.id) := fun row inside =>
    (again.sublist.map _).mem (ids_replaceAll first row inside)
  have ids (id : String) (inside : id ∈ first.map (·.id)) : id ∈ all.map (·.id) :=
    (again.sublist.map _).mem inside
  rw [replaceAll_eq (table.replaceAll first), replaceAll_eq table first, replaceAll_eq table all,
    List.filter_append, List.filter_filter]
  have gone : (replaceAll [] first).filter (fun row => row.id ∉ all.map (·.id)) = [] :=
    List.filter_eq_nil_iff.2 fun row inside => by simpa using covered row inside
  rw [gone, List.append_nil]
  congr 1
  apply List.filter_congr
  intro row _
  by_cases known : row.id ∈ all.map (·.id)
  next => simp only [known, not_true_eq_false, decide_false, Bool.false_and]
  next =>
    have new : row.id ∉ first.map (·.id) := fun inside => known (ids _ inside)
    simp only [known, new, not_false_eq_true, decide_true, Bool.and_self]

end DuplicateGuard.CertificateTable
