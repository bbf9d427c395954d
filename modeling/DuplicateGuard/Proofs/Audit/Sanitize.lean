import DuplicateGuard.Audit.Sanitize
import DuplicateGuard.Proofs.Json.Paths

set_option autoImplicit false

namespace DuplicateGuard

namespace Json

/-- A value without what is inside it: the keys of an object and the length of a list stay. -/
def outline : Json → Json
  | .obj fields => .obj (fields.map fun field => (field.1, .null))
  | .arr items => .arr (items.map fun _ => .null)
  | value => value

end Json

namespace Audit

open Json

def ends? : Json → Option (List Char × List Char)
  | .str text =>
    if 8 < text.toList.length then
      some (text.toList.take 4, text.toList.drop (text.toList.length - 4))
    else none
  | _ => none

def cover : Option (List Char × List Char) → String
  | some (first, last) => String.ofList (first ++ ['.', '.', '.'] ++ last)
  | none => "***REDACTED***"

theorem ends?_str (text : String) : ends? (.str text) =
    if 8 < text.toList.length then
      some (text.toList.take 4, text.toList.drop (text.toList.length - 4))
    else none := rfl

theorem length_ends {value : Json} {first last : List Char} (long : ends? value = some (first, last)) :
    first.length = 4 ∧ last.length = 4 := by
  cases value with
  | str text =>
    rw [ends?_str] at long
    split at long
    next more =>
      cases long
      rw [List.length_take, List.length_drop]
      omega
    next => cases long
  | null | bool | int | float | arr | obj => cases long

theorem hide_eq (value : Json) : hide value = .str (cover (ends? value)) := by
  cases value with
  | str text =>
    rw [ends?_str, hide]
    split
    next =>
      rw [cover, masked]
      congr 1
      apply String.toList_inj.1
      simp
    next => rfl
  | null | bool | int | float | arr | obj => rfl

theorem length_cover_long {value : Json} {first last : List Char}
    (long : ends? value = some (first, last)) : (cover (ends? value)).toList.length = 11 := by
  obtain ⟨four, four'⟩ := length_ends long
  simp [long, cover, four, four']

theorem length_cover_short {value : Json} (short : ends? value = none) :
    (cover (ends? value)).toList.length = 14 := by
  rw [short]
  decide

theorem hide_eq_iff (a b : Json) : hide a = hide b ↔ ends? a = ends? b := by
  simp only [hide_eq, Json.str.injEq]
  refine ⟨fun same => ?_, congrArg cover⟩
  have lengths := congrArg (fun text => text.toList.length) same
  rcases left : ends? a with _ | ⟨first, last⟩ <;> rcases right : ends? b with _ | ⟨first', last'⟩
  next => rfl
  next =>
    simp only [length_cover_short left, length_cover_long right] at lengths
    omega
  next =>
    simp only [length_cover_long left, length_cover_short right] at lengths
    omega
  next =>
    rw [left, right, cover, cover, String.ofList_inj] at same
    have heads : (first ++ ['.', '.', '.']).length = (first' ++ ['.', '.', '.']).length := by
      simp [(length_ends left).1, (length_ends right).1]
    obtain ⟨firsts, rfl⟩ := List.append_inj same heads
    rw [List.append_cancel_right firsts]

theorem find?_sanitizeFields (key : String) (fields : Keyed Json) :
    Keyed.find? key (sanitizeFields fields) =
      (Keyed.find? key fields).map (if isSensitive key then hide else sanitize) := by
  induction fields with
  | nil => rfl
  | cons head rest ih =>
    obtain ⟨known, value⟩ := head
    by_cases same : known = key
    next =>
      subst same
      by_cases sensitive : isSensitive known <;> simp [sanitizeFields, Keyed.find?, sensitive]
    next => simp [sanitizeFields, Keyed.find?, same, ih]

theorem sanitizeItems_eq_map (items : List Json) : sanitizeItems items = items.map sanitize := by
  induction items with
  | nil => simp [sanitizeItems]
  | cons item rest ih => simp [sanitizeItems, ih]

theorem outline_sanitize (value : Json) : (sanitize value).outline = value.outline := by
  cases value with
  | arr items =>
    simp only [sanitize, outline, sanitizeItems_eq_map, List.map_map]
    rfl
  | obj fields =>
    have keys := congrArg (List.map fun key => (key, Json.null)) (keys_sanitizeFields fields)
    simp only [List.map_map] at keys
    simp only [sanitize, outline]
    exact congrArg Json.obj keys
  | null | bool | int | float | str => simp [sanitize]

theorem isSensitive_iff (key : String) :
    isSensitive key = true ↔ ∃ term ∈ sensitiveTerms, term.toList <:+: Text.lower key.toList := by
  simp [isSensitive, Text.hasAny, Text.occursIn_iff]

def Plain (path : List Wire.Step) : Prop :=
  ∀ name, .key name ∈ path → isSensitive name = false

theorem Plain.tail {step : Wire.Step} {rest : List Wire.Step} (plain : Plain (step :: rest)) :
    Plain rest :=
  fun name inside => plain name (.tail step inside)

theorem at?_sanitize {path : List Wire.Step} (plain : Plain path) (value : Json) :
    (sanitize value).at? path = (value.at? path).map sanitize := by
  induction path generalizing value with
  | nil => rfl
  | cons step rest ih =>
    have later := ih plain.tail
    cases step with
    | key name =>
      have harmless := plain name (.head rest)
      cases value with
      | obj fields =>
        -- The key on the way is harmless, so its value is sanitized and not covered.
        simp only [sanitize, at?, find?_sanitizeFields, harmless, Bool.false_eq_true, if_false]
        cases Keyed.find? name fields with
        | none => rfl
        | some inner => exact later inner
      | null | bool | int | float | str | arr => simp [sanitize, at?]
    | index place =>
      cases value with
      | arr items =>
        simp only [sanitize, at?, sanitizeItems_eq_map, List.getElem?_map]
        cases items[place]? with
        | none => rfl
        | some inner => exact later inner
      | null | bool | int | float | str | obj => simp [sanitize, at?]

theorem at?_sanitize_secret {path : List Wire.Step} (plain : Plain path) {key : String}
    (sensitive : isSensitive key = true) (value : Json) :
    (sanitize value).at? (path ++ [.key key]) = (value.at? (path ++ [.key key])).map hide := by
  rw [at?_append, at?_append, at?_sanitize plain]
  cases value.at? path with
  | none => rfl
  | some inner =>
    cases inner with
    | obj fields =>
      simp only [Option.map_some, Option.bind_some, sanitize, at?, find?_sanitizeFields, sensitive,
        if_true]
      cases Keyed.find? key fields <;> rfl
    | null | bool | int | float | str | arr => simp [sanitize, at?]

mutual

def Alike : Json → Json → Prop
  | .arr a, .arr b => AlikeItems a b
  | .obj a, .obj b => AlikeFields a b
  | a, b => a = b

def AlikeItems : List Json → List Json → Prop
  | [], [] => True
  | a :: as, b :: bs => Alike a b ∧ AlikeItems as bs
  | _, _ => False

def AlikeFields : List (String × Json) → List (String × Json) → Prop
  | [], [] => True
  | (key, a) :: as, (other, b) :: bs =>
    key = other ∧ (if isSensitive key then ends? a = ends? b else Alike a b) ∧ AlikeFields as bs
  | _, _ => False

end

mutual

theorem sanitize_eq_iff : ∀ a b : Json, sanitize a = sanitize b ↔ Alike a b
  | .arr a, b => by
    cases b with
    | arr b => simp [sanitize, Alike, sanitizeItems_eq_iff a b]
    | null | bool | int | float | str | obj => simp [sanitize, Alike]
  | .obj a, b => by
    cases b with
    | obj b => simp [sanitize, Alike, sanitizeFields_eq_iff a b]
    | null | bool | int | float | str | arr => simp [sanitize, Alike]
  | .null, b => by cases b <;> simp [sanitize, Alike]
  | .bool _, b => by cases b <;> simp [sanitize, Alike]
  | .int _, b => by cases b <;> simp [sanitize, Alike]
  | .float _, b => by cases b <;> simp [sanitize, Alike]
  | .str _, b => by cases b <;> simp [sanitize, Alike]

theorem sanitizeItems_eq_iff :
    ∀ as bs : List Json, sanitizeItems as = sanitizeItems bs ↔ AlikeItems as bs
  | [], bs => by cases bs <;> simp [sanitizeItems, AlikeItems]
  | a :: as, bs => by
    cases bs with
    | nil => simp [sanitizeItems, AlikeItems]
    | cons b bs => simp [sanitizeItems, AlikeItems, sanitize_eq_iff a b, sanitizeItems_eq_iff as bs]

theorem sanitizeFields_eq_iff :
    ∀ as bs : List (String × Json), sanitizeFields as = sanitizeFields bs ↔ AlikeFields as bs
  | [], bs => by cases bs <;> simp [sanitizeFields, AlikeFields]
  | (key, a) :: as, bs => by
    cases bs with
    | nil => simp [sanitizeFields, AlikeFields]
    | cons head bs =>
      obtain ⟨other, b⟩ := head
      have rest := sanitizeFields_eq_iff as bs
      simp only [sanitizeFields, AlikeFields, List.cons.injEq, Prod.mk.injEq, rest, and_assoc]
      refine and_congr_right fun same => and_congr_left fun _ => ?_
      subst same
      -- A secret is compared by what is shown of it, any other value by itself.
      by_cases sensitive : isSensitive key
      next => simp only [sensitive, if_true, hide_eq_iff]
      next => simpa only [sensitive, if_false, Bool.false_eq_true] using sanitize_eq_iff a b

end

/-- An event keeps its keys, its lists and its values wherever no key is sensitive. At the first
sensitive key on the way the value is covered, whatever is inside it, except for the ends of a long
text. Two events are shown alike exactly if they are the same but for what is covered. -/
theorem sanitizeFields_exact (event : List (String × Json)) :
    (∀ key, isSensitive key = true ↔
      ∃ term ∈ sensitiveTerms, term.toList <:+: Text.lower key.toList) ∧
    (∀ path, Plain path →
      ((Json.obj (sanitizeFields event)).at? path).map outline =
        ((Json.obj event).at? path).map outline) ∧
    (∀ path key, Plain path → isSensitive key = true →
      (Json.obj (sanitizeFields event)).at? (path ++ [.key key]) =
        ((Json.obj event).at? (path ++ [.key key])).map fun value => .str (cover (ends? value))) ∧
    ∀ other, sanitizeFields event = sanitizeFields other ↔ AlikeFields event other := by
  have whole : Json.obj (sanitizeFields event) = sanitize (.obj event) := by rw [sanitize]
  refine ⟨isSensitive_iff, fun path plain => ?_, fun path key plain sensitive => ?_,
    sanitizeFields_eq_iff event⟩
  · rw [whole, at?_sanitize plain, Option.map_map]
    congr 1
    funext value
    exact outline_sanitize value
  · rw [whole, at?_sanitize_secret plain sensitive]
    congr 1
    funext value
    exact hide_eq value

def nestedEvent : List (String × Json) := [
  ("details", .arr [.obj [("API_Token", .str "abcdefghijkl"), ("note", .str "reissued")]])]

theorem sanitizeFields_exact_nested :
    Plain [.key "details", .index 0] ∧ isSensitive "API_Token" = true ∧
      (Json.obj (sanitizeFields nestedEvent)).at? [.key "details", .index 0, .key "API_Token"] =
        some (.str "abcd...ijkl") := by
  have plain : Plain [.key "details", .index 0] := by
    have harmless : isSensitive "details" = false := by decide +kernel
    simpa [Plain] using harmless
  have sensitive : isSensitive "API_Token" = true := by decide +kernel
  obtain ⟨_, _, covered, _⟩ := sanitizeFields_exact nestedEvent
  refine ⟨plain, sensitive, (covered _ _ plain sensitive).trans ?_⟩
  have told : (Json.obj nestedEvent).at? [.key "details", .index 0, .key "API_Token"] =
      some (.str "abcdefghijkl") := rfl
  have shown : cover (ends? (.str "abcdefghijkl")) = "abcd...ijkl" := by decide +kernel
  rw [List.cons_append, List.cons_append, List.nil_append, told, Option.map_some, shown]

end Audit

end DuplicateGuard
