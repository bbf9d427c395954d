import DuplicateGuard.Keyed

set_option autoImplicit false

namespace DuplicateGuard.Keyed

section Values

variable {β γ : Type} (f : β → γ)

def mapValues (entries : Keyed β) : Keyed γ :=
  entries.map fun entry => (entry.1, f entry.2)

theorem find?_mapValues (key : String) (entries : Keyed β) :
    find? key (mapValues f entries) = (find? key entries).map f := by
  induction entries with
  | nil => rfl
  | cons head rest ih =>
    simp only [mapValues] at ih
    by_cases same : head.1 = key <;> simp [mapValues, find?, same, ih]

theorem put_mapValues (key : String) (value : β) (entries : Keyed β) :
    put key (f value) (mapValues f entries) = mapValues f (put key value entries) := by
  induction entries with
  | nil => rfl
  | cons head rest ih =>
    simp only [mapValues] at ih
    by_cases same : head.1 = key <;> simp [mapValues, put, same, ih]

theorem mem_put {key : String} {value : β} {entries : Keyed β} {entry : String × β}
    (inside : entry ∈ put key value entries) : entry = (key, value) ∨ entry ∈ entries := by
  induction entries with
  | nil => exact .inl (List.mem_singleton.1 inside)
  | cons head rest ih =>
    by_cases same : head.1 = key
    next =>
      simp only [put, same, if_true, List.mem_cons] at inside
      exact inside.imp_right (List.mem_cons_of_mem _)
    next =>
      simp only [put, same, if_false, List.mem_cons] at inside
      rcases inside with first | later
      · exact .inr (first ▸ List.mem_cons_self)
      · exact (ih later).imp_right (List.mem_cons_of_mem _)

theorem find?_eq_none {key : String} {entries : Keyed β} (absent : key ∉ entries.keys) :
    find? key entries = none := by
  induction entries with
  | nil => rfl
  | cons head rest ih =>
    simp only [keys, List.map_cons, List.mem_cons, not_or] at absent
    simp [find?, Ne.symm absent.1, ih absent.2]

theorem mem_of_find? {key : String} {value : β} {entries : Keyed β}
    (found : find? key entries = some value) : (key, value) ∈ entries := by
  induction entries with
  | nil => cases found
  | cons head rest ih =>
    obtain ⟨known, stored⟩ := head
    by_cases same : known = key
    next =>
      simp only [find?, same, if_true, Option.some.injEq] at found
      simp [same, found]
    next =>
      simp only [find?, same, if_false] at found
      exact List.mem_cons_of_mem _ (ih found)

theorem find?_of_mem {entries : Keyed β} (distinct : entries.keys.Nodup) {entry : String × β}
    (inside : entry ∈ entries) : find? entry.1 entries = some entry.2 := by
  induction entries with
  | nil => cases inside
  | cons head rest ih =>
    simp only [keys, List.map_cons, List.nodup_cons] at distinct
    rcases List.mem_cons.1 inside with rfl | later
    next => simp [find?]
    next =>
      have apart : head.1 ≠ entry.1 := fun same =>
        distinct.1 (same ▸ List.mem_map_of_mem later)
      simp [find?, apart, ih distinct.2 later]

theorem nodup_keys_put (key : String) (value : β) {entries : Keyed β}
    (distinct : entries.keys.Nodup) : (put key value entries).keys.Nodup := by
  rw [keys_put]
  split
  next => exact distinct
  next new =>
    rw [List.nodup_append]
    refine ⟨distinct, by simp, ?_⟩
    rintro known inside _ last rfl
    exact new (List.mem_singleton.1 last ▸ inside)

end Values

section Updates

variable {β : Type}

theorem put_put (key : String) (first second : β) (entries : Keyed β) :
    put key second (put key first entries) = put key second entries := by
  induction entries with
  | nil => simp [put]
  | cons head rest ih =>
    by_cases same : head.1 = key <;> simp [put, same, ih]

theorem put_of_find? {key : String} {value : β} {entries : Keyed β}
    (found : find? key entries = some value) : put key value entries = entries := by
  induction entries with
  | nil => cases found
  | cons head rest ih =>
    obtain ⟨known, stored⟩ := head
    by_cases same : known = key
    next =>
      simp only [find?, same, if_true, Option.some.injEq] at found
      simp [put, same, found]
    next =>
      simp only [find?, same, if_false] at found
      simp [put, same, ih found]

theorem put_of_new {key : String} {value : β} {entries : Keyed β}
    (new : find? key entries = none) : put key value entries = entries ++ [(key, value)] := by
  induction entries with
  | nil => rfl
  | cons head rest ih =>
    by_cases same : head.1 = key
    next => simp [find?, same] at new
    next =>
      simp only [find?, same, if_false] at new
      simp [put, same, ih new]

theorem erase_of_find? {key : String} {entries : Keyed β} (absent : find? key entries = none) :
    erase key entries = entries := by
  induction entries with
  | nil => rfl
  | cons head rest ih =>
    by_cases same : head.1 = key
    next => simp [find?, same] at absent
    next =>
      simp only [find?, same, if_false] at absent
      simp [erase, same, ih absent]

theorem erase_put_self (key : String) (value : β) (entries : Keyed β) :
    erase key (put key value entries) = erase key entries := by
  induction entries with
  | nil => simp [put, erase]
  | cons head rest ih =>
    by_cases same : head.1 = key <;> simp [put, erase, same, ih]

theorem erase_put {key other : String} (apart : key ≠ other) (value : β) (entries : Keyed β) :
    erase key (put other value entries) = put other value (erase key entries) := by
  induction entries with
  | nil => simp [put, erase, apart.symm]
  | cons head rest ih =>
    obtain ⟨known, stored⟩ := head
    by_cases same : known = other
    next => simp [put, erase, same, apart.symm]
    next => by_cases wanted : known = key <;> simp [put, erase, same, wanted, apart, ih]

theorem erase_erase (key other : String) (entries : Keyed β) :
    erase key (erase other entries) = erase other (erase key entries) := by
  induction entries with
  | nil => rfl
  | cons head rest ih =>
    obtain ⟨name, value⟩ := head
    by_cases same : name = key <;> by_cases wanted : name = other <;> grind [erase]

theorem put_comm {key other : String} (apart : key ≠ other) {entries : Keyed β}
    (known : key ∈ entries.keys) (first second : β) :
    put key first (put other second entries) = put other second (put key first entries) := by
  induction entries with
  | nil => cases known
  | cons head rest ih =>
    obtain ⟨name, stored⟩ := head
    simp only [keys, List.map_cons, List.mem_cons] at known
    by_cases same : name = key
    next => simp [put, same, apart]
    next =>
      have later := ih (known.resolve_left (Ne.symm same))
      by_cases wanted : name = other <;> simp [put, same, wanted, apart.symm, later]

def latest? (key : String) (entries : Keyed β) : Option β :=
  find? key entries.reverse

theorem find?_append (key : String) (first second : Keyed β) :
    find? key (first ++ second) = (find? key first).or (find? key second) := by
  induction first with
  | nil => rfl
  | cons head rest ih => by_cases same : head.1 = key <;> simp [find?, same, ih]

theorem find?_putAll (key : String) (entries update : Keyed β) :
    find? key (putAll entries update) = (latest? key update).or (find? key entries) := by
  induction update generalizing entries with
  | nil => rfl
  | cons head rest ih =>
    obtain ⟨name, value⟩ := head
    have later := ih (put name value entries)
    simp only [putAll] at later
    rw [putAll, List.foldl_cons, later, latest?, latest?, List.reverse_cons, find?_append,
      Option.or_assoc]
    by_cases same : name = key
    next => simp [find?, same]
    next => simp [find?, same, find?_put_of_ne (Ne.symm same)]

theorem latest?_eq_find? {entries : Keyed β} (distinct : entries.keys.Nodup) (key : String) :
    latest? key entries = find? key entries := by
  induction entries with
  | nil => rfl
  | cons head rest ih =>
    simp only [keys, List.map_cons, List.nodup_cons] at distinct
    have later := ih distinct.2
    simp only [latest?] at later
    rw [latest?, List.reverse_cons, find?_append, later]
    by_cases same : head.1 = key
    next =>
      have absent : find? key rest = none := find?_eq_none (same ▸ distinct.1)
      simp [find?, same, absent]
    next => simp [find?, same]

theorem find?_isSome_iff (key : String) (entries : Keyed β) :
    (find? key entries).isSome = true ↔ key ∈ entries.keys := by
  induction entries with
  | nil => simp [keys]
  | cons head rest ih =>
    simp only [keys] at ih
    by_cases same : head.1 = key <;> simp [find?, keys, same, ih, eq_comm (a := key)]

theorem latest?_eq_none_iff (key : String) (entries : Keyed β) :
    latest? key entries = none ↔ key ∉ entries.keys := by
  have found := find?_isSome_iff key entries.reverse
  rw [keys, List.map_reverse, List.mem_reverse] at found
  rw [latest?, ← Option.isNone_iff_eq_none, ← Option.not_isSome, keys]
  simp only [Bool.not_eq_true', ← Bool.not_eq_true, found]

theorem nodup_keys_putAll {entries : Keyed β} (distinct : entries.keys.Nodup) (update : Keyed β) :
    (putAll entries update).keys.Nodup := by
  induction update generalizing entries with
  | nil => exact distinct
  | cons head rest ih => exact ih (nodup_keys_put head.1 head.2 distinct)

theorem keys_putAll_congr {entries others update updates : Keyed β}
    (same : entries.keys = others.keys) (names : update.keys = updates.keys) :
    (putAll entries update).keys = (putAll others updates).keys := by
  induction update generalizing entries others updates with
  | nil =>
    cases updates with
    | nil => exact same
    | cons => cases names
  | cons head rest ih =>
    cases updates with
    | nil => cases names
    | cons first more =>
      simp only [keys, List.map_cons, List.cons.injEq] at names
      apply ih _ names.2
      rw [keys_put, keys_put, same, names.1]

theorem eq_of_find? {entries others : Keyed β} (distinct : entries.keys.Nodup)
    (names : entries.keys = others.keys) (same : ∀ key, find? key entries = find? key others) :
    entries = others := by
  induction entries generalizing others with
  | nil => exact (List.map_eq_nil_iff.1 names.symm).symm
  | cons head rest ih =>
    cases others with
    | nil => cases names
    | cons first more =>
      obtain ⟨name, value⟩ := head
      obtain ⟨other, stored⟩ := first
      simp only [keys, List.map_cons, List.cons.injEq] at names
      obtain ⟨rfl, names⟩ := names
      simp only [keys, List.map_cons, List.nodup_cons] at distinct
      have here := same name
      simp only [find?, if_true, Option.some.injEq] at here
      congr 1
      next => rw [here]
      next =>
        apply ih distinct.2 names
        intro key
        by_cases wanted : name = key
        next =>
          -- The first key stands in neither of the rests.
          subst wanted
          have absent : name ∉ keys more := fun inside => distinct.1 (names ▸ inside)
          rw [find?_eq_none distinct.1, find?_eq_none absent]
        next => simpa [find?, wanted] using same key

end Updates

variable {β : Type} (name : β → String)

def named (items : List β) : Keyed β :=
  items.map fun item => (name item, item)

def replaceNamed (item : β) (items : List β) : List β :=
  items.map fun known => if name known = name item then item else known

@[simp] theorem values_named (items : List β) : values (named name items) = items := by
  simp [values, named, Function.comp_def]

theorem find?_named (key : String) (items : List β) :
    find? key (named name items) = items.find? fun item => decide (name item = key) := by
  induction items with
  | nil => rfl
  | cons item rest ih =>
    simp only [named] at ih
    by_cases same : name item = key <;> simp [named, find?, same, ih]

theorem put_named_of_new {item : β} {items : List β} (new : name item ∉ items.map name) :
    put (name item) item (named name items) = named name (items ++ [item]) := by
  have absent : name item ∉ (named name items).keys := by
    simpa [keys, named, Function.comp_def] using new
  rw [put_of_new (find?_eq_none absent)]
  simp [named]

theorem nodup_names_concat {item : β} {items : List β} (distinct : (items.map name).Nodup)
    (new : name item ∉ items.map name) : ((items ++ [item]).map name).Nodup := by
  rw [List.map_append, List.nodup_append]
  refine ⟨distinct, by simp, ?_⟩
  intro known inside other last same
  rw [List.map_singleton, List.mem_singleton] at last
  exact new (last ▸ same ▸ inside)

theorem replaceNamed_of_new {item : β} {items : List β} (new : name item ∉ items.map name) :
    replaceNamed name item items = items := by
  conv => rhs; rw [← List.map_id items]
  apply List.map_congr_left
  intro known inside
  have apart : name known ≠ name item := fun same => new (same ▸ List.mem_map_of_mem inside)
  simp [apart]

theorem put_named_of_known {item : β} {items : List β} (distinct : (items.map name).Nodup)
    (known : name item ∈ items.map name) :
    put (name item) item (named name items) = named name (replaceNamed name item items) := by
  induction items with
  | nil => simp at known
  | cons head rest ih =>
    rw [List.map_cons, List.nodup_cons] at distinct
    by_cases same : name head = name item
    next =>
      have rest := replaceNamed_of_new name (same ▸ distinct.1)
      simp only [replaceNamed] at rest
      simp [named, put, replaceNamed, same, rest]
    next =>
      have inside : name item ∈ rest.map name := by simpa [Ne.symm same] using known
      have rest := ih distinct.2 inside
      simp only [named, replaceNamed] at rest
      simp [named, put, replaceNamed, same, rest]

theorem names_replaceNamed (item : β) (items : List β) :
    (replaceNamed name item items).map name = items.map name := by
  rw [replaceNamed, List.map_map]
  apply List.map_congr_left
  intro known _
  by_cases same : name known = name item <;> simp [same]

theorem mem_replaceNamed {item : β} {items : List β} (known : name item ∈ items.map name)
    (other : β) : other ∈ replaceNamed name item items ↔
      other = item ∨ other ∈ items ∧ name other ≠ name item := by
  rw [replaceNamed, List.mem_map]
  constructor
  next =>
    rintro ⟨source, inside, rfl⟩
    by_cases same : name source = name item
    next => simp [same]
    next => simp [same, inside]
  next =>
    rintro (rfl | ⟨inside, apart⟩)
    · obtain ⟨source, inside, same⟩ := List.mem_map.1 known
      exact ⟨source, inside, by simp [same]⟩
    · exact ⟨other, inside, by simp [apart]⟩

end DuplicateGuard.Keyed
