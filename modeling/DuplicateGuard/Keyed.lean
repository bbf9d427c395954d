set_option autoImplicit false

namespace DuplicateGuard

abbrev Keyed (β : Type) := List (String × β)

namespace Keyed

variable {β : Type}

def find? (key : String) : Keyed β → Option β
  | [] => none
  | (k, v) :: rest => if k = key then some v else find? key rest

def put (key : String) (value : β) : Keyed β → Keyed β
  | [] => [(key, value)]
  | (k, v) :: rest => if k = key then (key, value) :: rest else (k, v) :: put key value rest

def erase (key : String) : Keyed β → Keyed β
  | [] => []
  | (k, v) :: rest => if k = key then erase key rest else (k, v) :: erase key rest

def keys (entries : Keyed β) : List String :=
  entries.map Prod.fst

def values (entries : Keyed β) : List β :=
  entries.map Prod.snd

def has (key : String) (entries : Keyed β) : Bool :=
  (entries.find? key).isSome

def putAll (entries update : Keyed β) : Keyed β :=
  update.foldl (fun known entry => known.put entry.1 entry.2) entries

@[simp] theorem find?_nil (key : String) : find? key ([] : Keyed β) = none := rfl

@[simp] theorem find?_put_self (key : String) (value : β) (entries : Keyed β) :
    (entries.put key value).find? key = some value := by
  induction entries with
  | nil => simp [put, find?]
  | cons head rest ih =>
    obtain ⟨k, v⟩ := head
    by_cases same : k = key <;> simp [put, find?, same, ih]

theorem find?_put_of_ne {key other : String} (differs : other ≠ key) (value : β)
    (entries : Keyed β) : (entries.put key value).find? other = entries.find? other := by
  induction entries with
  | nil => simp [put, find?, differs.symm]
  | cons head rest ih =>
    obtain ⟨k, v⟩ := head
    by_cases same : k = key
    next => simp [put, find?, same, differs.symm]
    next => simp [put, find?, same, ih]

theorem find?_erase (key other : String) (entries : Keyed β) :
    (entries.erase key).find? other = if other = key then none else entries.find? other := by
  induction entries with
  | nil => simp [erase]
  | cons head rest ih =>
    obtain ⟨k, v⟩ := head
    by_cases same : k = key
    next =>
      by_cases wanted : other = key
      next => simp_all [erase]
      next =>
        have apart : ¬key = other := fun h => wanted h.symm
        simp [erase, find?, same, wanted, apart, ih]
    next =>
      by_cases here : k = other
      next => simp [erase, find?, here ▸ same, here]
      next => simp [erase, find?, same, here, ih]

theorem keys_put (key : String) (value : β) (entries : Keyed β) :
    (entries.put key value).keys =
      if key ∈ entries.keys then entries.keys else entries.keys ++ [key] := by
  induction entries with
  | nil => simp [put, keys]
  | cons head rest ih =>
    obtain ⟨k, v⟩ := head
    simp only [keys] at ih
    by_cases same : k = key
    next => simp [put, keys, same]
    next =>
      have apart : ¬key = k := fun h => same h.symm
      simp only [put, same, if_false, keys, List.map_cons, ih, List.mem_cons, apart, false_or]
      by_cases known : key ∈ List.map Prod.fst rest <;> simp [known]

end Keyed

end DuplicateGuard
