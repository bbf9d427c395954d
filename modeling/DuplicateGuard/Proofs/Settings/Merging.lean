import DuplicateGuard.Proofs.Json.Paths
import DuplicateGuard.Settings.Layers

set_option autoImplicit false

namespace DuplicateGuard.Settings

open Json

def fieldsOf (old : Option Json) : Keyed Json :=
  (old.bind Json.fields?).getD []

@[simp] theorem fieldsOf_obj (fields : Keyed Json) : fieldsOf (some (.obj fields)) = fields := rfl

theorem overlay_of_no_object {old : Option Json} (plain : ∀ fields, old ≠ some (.obj fields))
    (value : Json) : overlay old value = value := by
  cases value with
  | obj changes =>
    unfold overlay
    split
    next fields => exact absurd rfl (plain fields)
    next => rfl
  | _ => simp [overlay]

theorem overlay_plain {value : Json} (plain : ∀ fields, value ≠ .obj fields) (old : Option Json) :
    overlay old value = value := by
  cases value with
  | obj changes => exact absurd rfl (plain changes)
  | null | bool | int | float | str | arr => simp [overlay]

section Members

theorem find?_merge {base update : Keyed Json} (distinct : update.keys.Nodup) (key : String) :
    Keyed.find? key (merge base update) =
      ((Keyed.find? key update).map (overlay (Keyed.find? key base))).or
        (Keyed.find? key base) := by
  induction update generalizing base with
  | nil => simp [merge]
  | cons head rest ih =>
    obtain ⟨name, value⟩ := head
    simp only [Keyed.keys, List.map_cons, List.nodup_cons] at distinct
    rw [merge, ih distinct.2]
    by_cases same : name = key
    next =>
      -- No later member has this key, so the value entered here stays.
      subst same
      have absent : Keyed.find? name rest = none := Keyed.find?_eq_none distinct.1
      simp [Keyed.find?, absent]
    next => simp [Keyed.find?, same, Keyed.find?_put_of_ne (Ne.symm same)]

theorem merge_of_new {base update : Keyed Json} (distinct : (base ++ update).keys.Nodup) :
    merge base update = base ++ update := by
  induction update generalizing base with
  | nil => simp [merge]
  | cons head rest ih =>
    obtain ⟨name, value⟩ := head
    have new : Keyed.find? name base = none := by
      apply Keyed.find?_eq_none
      intro inside
      simp only [Keyed.keys, List.map_append, List.nodup_append] at distinct
      exact distinct.2.2 name inside name List.mem_cons_self rfl
    have taken : overlay none value = value := overlay_of_no_object (by simp) value
    -- The new member goes to the end, and the members so far and the rest are distinct as before.
    rw [merge, new, taken, Keyed.put_of_new new, ih (by simpa using distinct)]
    simp

theorem merge_nil_left {update : Keyed Json} (distinct : update.keys.Nodup) :
    merge [] update = update :=
  merge_of_new distinct

theorem merge_of_settled {fields changes : Keyed Json} (settled : ∀ entry ∈ changes, ∃ value,
    Keyed.find? entry.1 fields = some value ∧ overlay (some value) entry.2 = value) :
    merge fields changes = fields := by
  induction changes with
  | nil => rw [merge]
  | cons head rest ih =>
    obtain ⟨value, found, same⟩ := settled head List.mem_cons_self
    rw [merge, found, same, Keyed.put_of_find? found]
    exact ih fun entry later => settled entry (List.mem_cons_of_mem _ later)

theorem overlay_obj {changes : Keyed Json} (distinct : changes.keys.Nodup) (old : Option Json) :
    overlay old (.obj changes) = .obj (merge (fieldsOf old) changes) := by
  have bare : Json.obj changes = .obj (merge [] changes) :=
    congrArg Json.obj (merge_nil_left distinct).symm
  rcases old with _ | value
  next => exact (overlay_of_no_object (by simp) _).trans bare
  next =>
    cases value with
    | obj fields => rw [overlay, fieldsOf_obj]
    | null | bool | int | float | str | arr => exact (overlay_of_no_object (by simp) _).trans bare

end Members

section Paths

theorem along_fieldsOf (old : Option Json) (key : String) (rest : List String) :
    old.bind (along (key :: rest)) = (Keyed.find? key (fieldsOf old)).bind (along rest) := by
  rcases old with _ | value
  next => rfl
  next => cases value <;> rfl

theorem along_overlay {path : List String} {value found : Json} (proper : value.wellFormed = true)
    (reached : value.along path = some found) (old : Option Json) :
    (overlay old value).along path = some (overlay (old.bind (along path)) found) := by
  induction path generalizing value old with
  | nil =>
    cases reached
    have whole : old.bind (along []) = old := Option.bind_fun_some old
    rw [along_nil, whole]
  | cons key rest ih =>
    obtain ⟨changes, inner, rfl, here, later⟩ := along_cons reached
    obtain ⟨distinct, inside⟩ := wellFormed_obj.1 proper
    have below := ih (inside _ (Keyed.mem_of_find? here)) later (Keyed.find? key (fieldsOf old))
    rw [overlay_obj distinct, along_obj, find?_merge distinct, here, Option.map_some,
      Option.some_or, Option.bind_some, below, along_fieldsOf]

theorem along_overlay_of_lacks {path : List String} {value : Json}
    (proper : value.wellFormed = true) (lacks : value.Lacks path) (old : Option Json) :
    (overlay old value).along path = old.bind (along path) := by
  -- Down to the object that lacks the key this is a path that can be followed; from there on only
  -- what was there before counts.
  obtain ⟨before, key, rest, fields, rfl, reached, absent⟩ := lacks
  have distinct := (wellFormed_obj.1 (along_wellFormed proper reached)).1
  have parts : old.bind (along (before ++ key :: rest)) =
      (old.bind (along before)).bind (along (key :: rest)) := by
    rw [Option.bind_assoc, funext (along_append before (key :: rest))]
  rw [along_append, along_overlay proper reached, Option.bind_some, overlay_obj distinct,
    along_obj, find?_merge distinct, absent, Option.map_none, Option.none_or, parts,
    along_fieldsOf]

end Paths

section Repetition

mutual

theorem overlay_again : ∀ value : Json, value.wellFormed = true → ∀ old : Option Json,
    overlay (some (overlay old value)) value = overlay old value
  | .obj changes, proper, old => by
    obtain ⟨distinct, inside⟩ := wellFormed_obj.1 proper
    rw [overlay_obj distinct old, overlay, merge_of_settled]
    -- Every change is in force after the first time, so it is left to the values of the members.
    intro entry change
    refine ⟨overlay (Keyed.find? entry.1 (fieldsOf old)) entry.2, ?_,
      overlays_again changes inside entry change _⟩
    rw [find?_merge distinct, Keyed.find?_of_mem distinct change]
    rfl
  | .null, _, _ | .bool _, _, _ | .int _, _, _ | .float _, _, _ | .str _, _, _ | .arr _, _, _ => by
    simp [overlay]

theorem overlays_again : ∀ changes : Keyed Json,
    (∀ entry ∈ changes, entry.2.wellFormed = true) → ∀ entry ∈ changes, ∀ old : Option Json,
      overlay (some (overlay old entry.2)) entry.2 = overlay old entry.2
  | [], _, _, change, _ => by cases change
  | (key, value) :: rest, proper, entry, change, old => by
    rcases List.mem_cons.1 change with rfl | later
    · exact overlay_again value (proper _ List.mem_cons_self) old
    · exact overlays_again rest (fun entry later => proper entry (List.mem_cons_of_mem _ later))
        entry later old

end

theorem merge_again {update : Keyed Json} (proper : (Json.obj update).wellFormed = true)
    (base : Keyed Json) : merge (merge base update) update = merge base update := by
  have again := overlay_again _ proper (some (.obj base))
  simpa only [overlay, Json.obj.injEq] using again

theorem merge_self {fields : Keyed Json} (proper : (Json.obj fields).wellFormed = true) :
    merge fields fields = fields := by
  -- Laid over nothing the members are themselves, so this is the second time.
  have again := merge_again proper []
  rwa [merge_nil_left (wellFormed_obj.1 proper).1] at again

end Repetition

theorem fileFields_wellFormed {path : String} {source : Source} {file : Keyed Json}
    (read : fileFields path source = .ok file) : (Json.obj file).wellFormed = true := by
  unfold fileFields at read
  split at read
  next => cases read
  next => cases read
  next =>
    split at read
    next => cases read
    next fields parsed =>
      cases read
      exact parse_wellFormed parsed
    next => cases read

/-- Followed along any path, an object laid over another shows its own value where that is no object,
nothing below such a value, and what was there before wherever it lacks a key. Laid over once more it
changes nothing, which holds of whatever is read from a file. -/
theorem merge_by_paths {base update : Keyed Json} (proper : (Json.obj base).wellFormed = true)
    (proper' : (Json.obj update).wellFormed = true) :
    (∀ path value, (Json.obj update).along path = some value → (∀ fields, value ≠ .obj fields) →
      (Json.obj (merge base update)).along path = some value ∧
      ∀ rest, rest ≠ [] → (Json.obj (merge base update)).along (path ++ rest) = none) ∧
    (∀ path, (Json.obj update).Lacks path →
      (Json.obj (merge base update)).along path = (Json.obj base).along path) ∧
    merge base [] = base ∧ merge [] update = update ∧ merge base base = base ∧
    merge (merge base update) update = merge base update ∧
    ∀ name source file, fileFields name source = .ok file →
      merge (merge base file) file = merge base file := by
  have whole : Json.obj (merge base update) = overlay (some (.obj base)) (.obj update) := by
    rw [overlay]
  refine ⟨fun path value reached plain => ?_, fun path lacks => ?_, by rw [merge],
    merge_nil_left (wellFormed_obj.1 proper').1, merge_self proper, merge_again proper' base,
    fun name source file read => merge_again (fileFields_wellFormed read) base⟩
  · have shown : (Json.obj (merge base update)).along path = some value := by
      rw [whole, along_overlay proper' reached, overlay_plain plain]
    refine ⟨shown, fun rest longer => ?_⟩
    rw [along_append, shown, Option.bind_some, along_eq_none plain longer]
  · rw [whole, along_overlay_of_lacks proper' lacks, Option.bind_some]

def standing : Keyed Json := [
  ("limits", .obj [("daily", .int 5), ("weekly", .obj [("soft", .int 20), ("hard", .int 30)])]),
  ("mode", .str "warn")]

def revised : Keyed Json := [
  ("limits", .obj [("daily", .obj [("soft", .int 4)]), ("weekly", .int 25)])]

def revisedText : String :=
  "\x7b\"limits\": \x7b\"daily\": \x7b\"soft\": 4\x7d, \"weekly\": 25\x7d\x7d"

theorem merge_by_paths_of_clashes :
    (Json.obj standing).wellFormed = true ∧ (Json.obj revised).wellFormed = true ∧
    (Json.obj (merge standing revised)).along ["limits", "weekly"] = some (.int 25) ∧
    (Json.obj (merge standing revised)).along ["limits", "weekly", "hard"] = none ∧
    (Json.obj (merge standing revised)).along ["limits", "daily", "soft"] = some (.int 4) ∧
    (Json.obj revised).Lacks ["mode"] ∧
    (Json.obj (merge standing revised)).along ["mode"] = some (.str "warn") ∧
    ∃ file, fileFields "config.json" (.text revisedText) = .ok file ∧
      merge (merge standing file) file = merge standing file := by
  have proper : (Json.obj standing).wellFormed = true := by decide
  have proper' : (Json.obj revised).wellFormed = true := by decide
  obtain ⟨shown, kept, -, -, -, -, again⟩ := merge_by_paths proper proper'
  obtain ⟨weekly, below⟩ := shown ["limits", "weekly"] (.int 25) rfl nofun
  have mode : (Json.obj revised).Lacks ["mode"] := ⟨[], "mode", [], revised, rfl, rfl, rfl⟩
  have legible : (fileFields "config.json" (.text revisedText)).toOption.isSome = true := by
    decide +kernel
  obtain ⟨file, found⟩ := Option.isSome_iff_exists.1 legible
  have read := toOption_eq_some.1 found
  exact ⟨proper, proper', weekly, below ["hard"] (by simp),
    (shown ["limits", "daily", "soft"] (.int 4) rfl nofun).1, mode, kept _ mode, file, read,
    again _ _ file read⟩

end DuplicateGuard.Settings
