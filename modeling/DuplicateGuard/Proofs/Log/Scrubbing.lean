import DuplicateGuard.Log.Structured
import DuplicateGuard.Proofs.Bindings
import DuplicateGuard.Proofs.Result
import Mathlib.Data.List.TakeWhile

set_option autoImplicit false

namespace DuplicateGuard

namespace Text

/-- Two texts that differ at most between the first character and the first `@`, or have none. -/
inductive Veil : List Char → List Char → Prop
  | same (text : List Char) : Veil text text
  | bare {a b : List Char} : '@' ∉ a → '@' ∉ b → Veil a b
  | between (first : Char) {hidden other : List Char} (domain : List Char) :
      '@' ∉ first :: hidden → '@' ∉ first :: other →
      Veil (first :: hidden ++ '@' :: domain) (first :: other ++ '@' :: domain)

theorem maskEmail_bare {text : String} (none : '@' ∉ text.toList) : maskEmail text = "***" := by
  have cut : text.toList.dropWhile (· ≠ '@') = [] :=
    List.dropWhile_eq_nil_iff.2 fun c inside => decide_eq_true fun same => none (same ▸ inside)
  simp only [maskEmail, cut]

theorem maskEmail_between {text : String} {mailbox domain : List Char} (none : '@' ∉ mailbox)
    (spelled : text.toList = mailbox ++ '@' :: domain) :
    (maskEmail text).toList = mailbox.take 1 ++ "***@".toList ++ domain := by
  have plain : ∀ c ∈ mailbox, decide (c ≠ '@') = true :=
    fun c inside => decide_eq_true fun same => none (same ▸ inside)
  have cut : text.toList.dropWhile (· ≠ '@') = '@' :: domain := by
    rw [spelled, List.dropWhile_append_of_pos plain, List.dropWhile_cons_of_neg (by decide)]
  have front : text.toList.takeWhile (· ≠ '@') = mailbox := by
    rw [spelled, List.takeWhile_append_of_pos plain, List.takeWhile_cons_of_neg (by decide),
      List.append_nil]
  simp only [maskEmail, cut, front, String.toList_ofList]

theorem mailbox_cases (text : List Char) : '@' ∉ text ∨
    ∃ mailbox domain, text = mailbox ++ '@' :: domain ∧ '@' ∉ mailbox := by
  by_cases inside : '@' ∈ text
  next => exact .inr (List.eq_append_cons_of_mem inside)
  next => exact .inl inside

theorem maskEmail_eq_iff (a b : String) : maskEmail a = maskEmail b ↔ Veil a.toList b.toList := by
  constructor
  next =>
    intro same
    have lists := congrArg String.toList same
    have stars : "***@".toList.length = 4 := rfl
    have bareStars : "***".toList.length = 3 := rfl
    rcases mailbox_cases a.toList with none | ⟨mailbox, domain, spelled, none⟩ <;>
      rcases mailbox_cases b.toList with none' | ⟨mailbox', domain', spelled', none'⟩
    next => exact .bare none none'
    next =>
      rw [maskEmail_bare none, maskEmail_between none' spelled'] at lists
      have longer := congrArg List.length lists
      simp only [List.length_append, stars, bareStars] at longer
      omega
    next =>
      rw [maskEmail_between none spelled, maskEmail_bare none'] at lists
      have longer := congrArg List.length lists
      simp only [List.length_append, stars, bareStars] at longer
      omega
    next =>
      rw [maskEmail_between none spelled, maskEmail_between none' spelled'] at lists
      rw [spelled, spelled']
      -- A mailbox without a character shows no star that could be another one's first character.
      cases mailbox <;> cases mailbox' <;> simp at lists
      next =>
        rw [lists]
        exact .same _
      next =>
        obtain ⟨rfl, rfl⟩ := lists
        exact .between _ _ none none'
  next =>
    intro veil
    generalize left : a.toList = s at veil
    generalize right : b.toList = t at veil
    cases veil with
    | same => rw [String.toList_inj.1 (left.trans right.symm)]
    | bare none none' => rw [maskEmail_bare (left ▸ none), maskEmail_bare (right ▸ none')]
    | between first domain none none' =>
      apply String.toList_inj.1
      rw [maskEmail_between none left, maskEmail_between none' right]
      rfl

end Text

namespace Structured

open Keyed (find? latest?)

inductive Alike (key : String) : Json → Json → Prop
  | same (value : Json) : Alike key value value
  | secret (a b : Json) : isSecret key = true → Alike key a b
  | email {a b : String} : isEmail key = true → Text.Veil a.toList b.toList →
      Alike key (.str a) (.str b)

def AlikeFields : Keyed Json → Keyed Json → Prop :=
  List.Forall₂ fun a b => a.1 = b.1 ∧ Alike a.1 a.2 b.2

/-- What a line may show of a field: a secret is replaced, and an email address is masked. -/
structure Veiled (key : String) (given shown : Json) : Prop where
  secret : isSecret key = true → shown = redacted
  email : isSecret key = false → isEmail key = true →
    ∀ text, given = .str text → shown = .str (Text.maskEmail text)

theorem isSecret_iff (key : String) : isSecret key = true ↔
    ∃ marker ∈ secretMarkers, marker.toList <:+: Text.lower key.toList := by
  simp [isSecret, Text.hasAny, Text.occursIn_iff]

theorem scrub_secret {key : String} (secret : isSecret key = true) (value : Json) :
    scrub key value = redacted := by
  unfold scrub
  exact if_pos secret

theorem scrub_str {key : String} (harmless : isSecret key = false) (text : String) :
    scrub key (.str text) = .str (if isEmail key then Text.maskEmail text else text) := by
  by_cases email : isEmail key = true <;> simp [scrub, harmless, email]

theorem scrub_other {key : String} (harmless : isSecret key = false) {value : Json}
    (other : ¬∃ text, value = .str text) : scrub key value = value := by
  cases value with
  | str text => exact absurd ⟨text, rfl⟩ other
  | null | bool | int | float | arr | obj => simp [scrub, harmless]

theorem veiled_scrub (key : String) (value : Json) : Veiled key value (scrub key value) := by
  constructor
  case secret => exact fun secret => scrub_secret secret value
  case email =>
    rintro harmless email text rfl
    rw [scrub_str harmless, if_pos email]

theorem veiled_self_iff (key : String) (value : Json) :
    Veiled key value value ↔ scrub key value = value := by
  constructor
  next =>
    intro veiled
    by_cases secret : isSecret key = true
    next => rw [scrub_secret secret, ← veiled.secret secret]
    next =>
      have harmless : isSecret key = false := by simpa using secret
      by_cases told : ∃ text, value = .str text
      next =>
        obtain ⟨text, rfl⟩ := told
        rw [scrub_str harmless]
        split
        next email => exact (veiled.email harmless email text rfl).symm
        next => rfl
      next => exact scrub_other harmless told
  next =>
    intro kept
    have veiled := veiled_scrub key value
    rwa [kept] at veiled

theorem Alike.eq_of_harmless {key : String} {a b : Json} (alike : Alike key a b)
    (unhidden : isSecret key = false) (plain : isEmail key = false) : a = b := by
  cases alike with
  | same => rfl
  | secret _ _ secret => simp [unhidden] at secret
  | email email => simp [plain] at email

theorem scrub_eq_iff (key : String) (a b : Json) : scrub key a = scrub key b ↔ Alike key a b := by
  by_cases secret : isSecret key = true
  next =>
    rw [scrub_secret secret, scrub_secret secret]
    exact ⟨fun _ => .secret a b secret, fun _ => rfl⟩
  next =>
    have harmless : isSecret key = false := by simpa using secret
    constructor
    next =>
      intro same
      by_cases told : ∃ text, a = .str text <;> by_cases told' : ∃ text, b = .str text
      next =>
        obtain ⟨text, rfl⟩ := told
        obtain ⟨other, rfl⟩ := told'
        rw [scrub_str harmless, scrub_str harmless, Json.str.injEq] at same
        split at same
        next email => exact .email email ((Text.maskEmail_eq_iff text other).1 same)
        next => exact same ▸ .same _
      next =>
        -- What is shown of a text is a text.
        obtain ⟨text, rfl⟩ := told
        rw [scrub_str harmless, scrub_other harmless told'] at same
        exact absurd ⟨_, same.symm⟩ told'
      next =>
        obtain ⟨other, rfl⟩ := told'
        rw [scrub_str harmless, scrub_other harmless told] at same
        exact absurd ⟨_, same⟩ told
      next =>
        rw [scrub_other harmless told, scrub_other harmless told'] at same
        exact same ▸ .same _
    next =>
      intro alike
      cases alike with
      | same => rfl
      | secret _ _ named => exact absurd named secret
      | @email text other email veil =>
        rw [scrub_str harmless, scrub_str harmless, if_pos email, if_pos email,
          (Text.maskEmail_eq_iff text other).2 veil]

theorem scrubFields_eq_iff (fields others : Keyed Json) :
    scrubFields fields = scrubFields others ↔ AlikeFields fields others := by
  rw [AlikeFields]
  induction fields generalizing others with
  | nil => cases others <;> simp [scrubFields]
  | cons head rest ih =>
    cases others with
    | nil => simp [scrubFields]
    | cons first more =>
      simp only [scrubFields] at ih
      simp only [scrubFields, List.map_cons, List.cons.injEq, Prod.mk.injEq, ih,
        List.forall₂_cons, and_congr_left_iff]
      intro _
      apply and_congr_right
      intro same
      rw [← same, scrub_eq_iff]

theorem latest?_scrubFields (key : String) (fields : Keyed Json) :
    latest? key (scrubFields fields) = (latest? key fields).map (scrub key) := by
  have mapped (entries : Keyed Json) :
      find? key (scrubFields entries) = (find? key entries).map (scrub key) := by
    induction entries with
    | nil => rfl
    | cons head rest ih =>
      simp only [scrubFields] at ih
      by_cases same : head.1 = key <;> simp [scrubFields, find?, same, ih]
  rw [latest?, latest?, ← mapped, scrubFields, scrubFields, List.map_reverse]

section Lines

open Bindings (inForce? within)

def contextOf : List Bindings → Context
  | [] => []
  | block :: outer => enter (contextOf outer) block.fields

theorem contextOf_eq (blocks : List Bindings) : contextOf blocks = within blocks := by
  induction blocks with
  | nil => rfl
  | cons block outer ih => rw [contextOf, ih, enter, within]

theorem latest?_contextOf (key : String) (blocks : List Bindings) :
    latest? key (contextOf blocks) = inForce? key blocks := by
  rw [contextOf_eq, Keyed.latest?_eq_find? (Bindings.nodup_keys_within blocks),
    Bindings.find?_within]

variable {record : LogRecord} {context : Context} {blocks others : List Bindings}
  {fixed shown : Keyed Json}

theorem keys_fixedFields (told : fixedFields record = .ok fixed) :
    fixed.keys = ["timestamp", "level", "logger", "message", "location"] := by
  rw [fixedFields, bind_eq_ok] at told
  obtain ⟨instant, _, told⟩ := told
  rw [bind_eq_ok] at told
  obtain ⟨message, _, told⟩ := told
  cases told
  rfl

theorem key_of_exceptionFields {key : String} {value : Json}
    (found : latest? key (exceptionFields record) = some value) : key = "exception" := by
  unfold exceptionFields at found
  split at found
  next failure given =>
    by_cases same : "exception" = key
    next => exact same.symm
    next => simp [latest?, find?, same] at found
  next => cases found

theorem find?_fields (rendered : fields context record = .ok shown) :
    ∃ fixed, fixedFields record = .ok fixed ∧ ∀ key, find? key shown =
      (latest? key (exceptionFields record)).or (((latest? key record.extra).map (scrub key)).or
        ((latest? key context).or (find? key fixed))) := by
  obtain ⟨fixed, told, rfl⟩ := map_eq_ok.1 rendered
  refine ⟨fixed, told, ?_⟩
  intro key
  rw [Keyed.find?_putAll, Keyed.find?_putAll, Keyed.find?_putAll, latest?_scrubFields]

theorem told_extra (rendered : fields context record = .ok shown) {key : String} {value : Json}
    (given : latest? key record.extra = some value) :
    ∃ told, find? key shown = some told ∧ (told = scrub key value ∨ key = "exception") := by
  obtain ⟨fixed, _, found⟩ := find?_fields rendered
  rw [found, given]
  cases failed : latest? key (exceptionFields record) with
  | none => exact ⟨_, rfl, .inl rfl⟩
  | some told => exact ⟨told, rfl, .inr (key_of_exceptionFields failed)⟩

theorem told_context (rendered : fields (contextOf blocks) record = .ok shown) {key : String}
    {value : Json} (free : key ∉ record.extra.keys) (given : inForce? key blocks = some value) :
    ∃ told, find? key shown = some told ∧ (told = value ∨ key = "exception") := by
  obtain ⟨fixed, _, found⟩ := find?_fields rendered
  rw [found, (Keyed.latest?_eq_none_iff key record.extra).2 free, latest?_contextOf, given]
  cases failed : latest? key (exceptionFields record) with
  | none => exact ⟨_, rfl, .inl rfl⟩
  | some told => exact ⟨told, rfl, .inr (key_of_exceptionFields failed)⟩

theorem harmless_exception : isSecret "exception" = false ∧ isEmail "exception" = false := by
  decide +kernel

theorem veiled_exception (given told : Json) : Veiled "exception" given told := by
  constructor
  case secret => simp [harmless_exception.1]
  case email => simp [harmless_exception.2]

/-- Whether a line keeps what is promised of every field, given with the record or by a block. -/
def Discreet (record : LogRecord) (blocks : List Bindings) (shown : Keyed Json) : Prop :=
  ∀ key value, (latest? key record.extra).or (inForce? key blocks) = some value →
    ∃ told, find? key shown = some told ∧ Veiled key value told

theorem discreet_iff (rendered : fields (contextOf blocks) record = .ok shown) :
    Discreet record blocks shown ↔ ∀ key value, key ∉ record.extra.keys →
      inForce? key blocks = some value → scrub key value = value := by
  constructor
  next =>
    intro discreet key value free given
    obtain ⟨told, found, veiled⟩ := discreet key value (by
      rw [(Keyed.latest?_eq_none_iff key record.extra).2 free, Option.none_or, given])
    obtain ⟨told', found', same | rfl⟩ := told_context rendered free given
    next =>
      rw [found, Option.some.injEq] at found'
      subst found' same
      exact (veiled_self_iff key told).1 veiled
    next => exact (veiled_self_iff _ value).1 (veiled_exception value value)
  next =>
    intro harmless key value given
    -- A field of the record hides one of a block, and is always veiled.
    cases own : latest? key record.extra with
    | some extra =>
      rw [own, Option.some_or, Option.some.injEq] at given
      subst given
      obtain ⟨told, found, rfl | rfl⟩ := told_extra rendered own
      · exact ⟨_, found, veiled_scrub key extra⟩
      · exact ⟨told, found, veiled_exception extra told⟩
    | none =>
      rw [own, Option.none_or] at given
      have free := (Keyed.latest?_eq_none_iff key record.extra).1 own
      obtain ⟨told, found, rfl | rfl⟩ := told_context rendered free given
      · exact ⟨told, found, (veiled_self_iff key told).2 (harmless key told free given)⟩
      · exact ⟨told, found, veiled_exception value told⟩

def AlikeBlocks : List Bindings → List Bindings → Prop :=
  List.Forall₂ fun a b => AlikeFields a.fields b.fields

theorem AlikeFields.keys {fields other : Keyed Json} (alike : AlikeFields fields other) :
    fields.keys = other.keys := by
  rw [AlikeFields] at alike
  induction alike with
  | nil => rfl
  | cons head _ ih =>
    simp only [Keyed.keys] at ih
    simp only [Keyed.keys, List.map_cons, head.1, ih]

theorem AlikeFields.find? {fields other : Keyed Json} (alike : AlikeFields fields other)
    (key : String) : Option.Rel (Alike key) (Keyed.find? key fields) (Keyed.find? key other) := by
  rw [AlikeFields] at alike
  induction alike with
  | nil => exact .none
  | @cons a b _ _ head _ ih =>
    obtain ⟨name, value⟩ := a
    obtain ⟨other, stored⟩ := b
    obtain ⟨rfl, alike⟩ := head
    by_cases same : name = key
    next =>
      subst same
      simpa [Keyed.find?] using Option.Rel.some alike
    next => simpa [Keyed.find?, same] using ih

theorem AlikeBlocks.inForce? (alike : AlikeBlocks blocks others) (key : String) :
    Option.Rel (Alike key) (Bindings.inForce? key blocks) (Bindings.inForce? key others) := by
  rw [AlikeBlocks] at alike
  induction alike with
  | nil => exact .none
  | @cons block other _ _ head _ ih =>
    rw [Bindings.inForce?_cons, Bindings.inForce?_cons, Bindings.value?, Bindings.value?]
    generalize left : Keyed.find? key block.fields = a
    generalize right : Keyed.find? key other.fields = b
    have here := head.find? key
    rw [left, right] at here
    cases here with
    | none => exact ih
    | some alike => exact .some alike

theorem AlikeBlocks.keys_contextOf (alike : AlikeBlocks blocks others) :
    (contextOf blocks).keys = (contextOf others).keys := by
  rw [AlikeBlocks] at alike
  induction alike with
  | nil => rfl
  | cons head _ ih => exact Keyed.keys_putAll_congr ih head.keys

theorem fields_eq_iff (rendered : fields (contextOf blocks) record = .ok shown)
    (alike : AlikeBlocks blocks others) :
    fields (contextOf others) record = fields (contextOf blocks) record ↔
      ∀ key ∉ record.extra.keys, inForce? key others = inForce? key blocks := by
  obtain ⟨fixed, told, same⟩ := map_eq_ok.1 rendered
  have rendered' : fields (contextOf others) record = .ok (((fixed.putAll (contextOf others)).putAll
      (scrubFields record.extra)).putAll (exceptionFields record)) := by
    rw [fields, told]
    rfl
  constructor
  next =>
    intro equal key free
    have alike := alike.inForce? key
    generalize here : inForce? key blocks = a at alike ⊢
    generalize there : inForce? key others = b at alike ⊢
    by_cases failure : key = "exception"
    next =>
      -- The text of a failure may stand there, but the blocks agree: nothing of it is hidden.
      subst failure
      cases alike with
      | none => rfl
      | some alike =>
        rw [alike.eq_of_harmless harmless_exception.1 harmless_exception.2]
    next =>
      cases alike with
      | none => rfl
      | some =>
        obtain ⟨told, found, same⟩ := told_context rendered free here
        obtain ⟨told', found', same'⟩ := told_context (equal.trans rendered) free there
        rw [← same.resolve_right failure, ← same'.resolve_right failure, ← found, ← found']
  next =>
    intro agree
    rw [rendered, rendered', Except.ok.injEq]
    have distinct : fixed.keys.Nodup := by
      rw [keys_fixedFields told]
      decide
    apply Keyed.eq_of_find?
    case distinct =>
      exact Keyed.nodup_keys_putAll (Keyed.nodup_keys_putAll (Keyed.nodup_keys_putAll distinct _) _) _
    case names =>
      rw [← same]
      have names := Keyed.keys_putAll_congr (rfl : fixed.keys = fixed.keys) alike.keys_contextOf
      exact (Keyed.keys_putAll_congr (Keyed.keys_putAll_congr names rfl) rfl).symm
    case same =>
      intro key
      rw [← same]
      simp only [Keyed.find?_putAll, latest?_scrubFields, latest?_contextOf]
      by_cases free : key ∈ record.extra.keys
      next =>
        have own : latest? key record.extra ≠ none :=
          fun none => (Keyed.latest?_eq_none_iff key record.extra).1 none free
        obtain ⟨value, own⟩ := Option.ne_none_iff_exists'.1 own
        simp [own]
      next => rw [agree key free]

theorem fields_extra {extra : Keyed Json} (alike : AlikeFields record.extra extra)
    (context : Context) :
    fields context { record with extra := extra } = fields context record := by
  have same := (scrubFields_eq_iff record.extra extra).2 alike
  have fixed : fixedFields { record with extra := extra } = fixedFields record := rfl
  have failed : exceptionFields { record with extra := extra } = exceptionFields record := rfl
  simp only [fields, fixed, failed, same]

/-- Extra fields are veiled in a line, and what is hidden of them leaves no trace. A field that a
block gives is told as it is, so lines keep a secret of a block exactly if an extra field has its
name. -/
theorem fields_veiled (rendered : fields (contextOf blocks) record = .ok shown) :
    (∀ key, isSecret key = true ↔
      ∃ marker ∈ secretMarkers, marker.toList <:+: Text.lower key.toList) ∧
    (∀ key value, latest? key record.extra = some value →
      ∃ told, find? key shown = some told ∧ Veiled key value told) ∧
    (∀ key value, key ∉ record.extra.keys → key ≠ "exception" →
      inForce? key blocks = some value → find? key shown = some value) ∧
    (Discreet record blocks shown ↔ ∀ key value, key ∉ record.extra.keys →
      inForce? key blocks = some value → scrub key value = value) ∧
    (∀ extra, AlikeFields record.extra extra →
      line (contextOf blocks) { record with extra := extra } = line (contextOf blocks) record) ∧
    ∀ extra others, AlikeFields record.extra extra → AlikeBlocks blocks others →
      (fields (contextOf others) { record with extra := extra } =
          fields (contextOf blocks) record ↔
        ∀ key ∉ record.extra.keys, inForce? key others = inForce? key blocks) := by
  refine ⟨isSecret_iff, ?_, ?_, discreet_iff rendered, ?_, ?_⟩
  next =>
    intro key value given
    obtain ⟨told, found, rfl | rfl⟩ := told_extra rendered given
    · exact ⟨_, found, veiled_scrub key value⟩
    · exact ⟨told, found, veiled_exception value told⟩
  next =>
    intro key value free apart given
    obtain ⟨told, found, rfl | same⟩ := told_context rendered free given
    · exact found
    · exact absurd same apart
  next =>
    intro extra alike
    rw [line, line, fields_extra alike]
  next =>
    intro extra others alike blocksAlike
    rw [fields_extra alike]
    exact fields_eq_iff rendered blocksAlike

def plainRecord : LogRecord :=
  { logger := "certdedupe.test"
    level := .info
    path := "/app/mod.py"
    line := 10
    function := none
    message := .str "hello"
    arguments := []
    created := .ofNat 0
    extra := []
    failure := none }

def keyRecord : LogRecord :=
  { plainRecord with extra := [("api_key", .str "hunter2")] }

def keyBlock : Bindings :=
  ⟨[("API_Key", .str "hunter2"), ("api_key", .str "hunter2")], by decide⟩

theorem isOk_fields_plainRecord (extra : Keyed Json) (context : Context) :
    ∃ shown, fields context { plainRecord with extra := extra } = .ok shown := by
  have told : (fixedFields plainRecord).toOption.isSome = true := by decide +kernel
  obtain ⟨fixed, told⟩ := Option.isSome_iff_exists.1 told
  have told : fixedFields { plainRecord with extra := extra } = .ok fixed := toOption_eq_some.1 told
  rw [fields, told]
  exact ⟨_, rfl⟩

theorem isSecret_apiKey : isSecret "api_key" = true ∧ isSecret "API_Key" = true := by
  decide +kernel

theorem fields_veiled_key : ∃ shown, fields (contextOf [keyBlock]) keyRecord = .ok shown ∧
    find? "api_key" shown = some redacted ∧ find? "API_Key" shown = some (.str "hunter2") ∧
    line (contextOf [keyBlock]) { keyRecord with extra := [("api_key", .str "swordfish")] } =
      line (contextOf [keyBlock]) keyRecord := by
  have renders : ∃ shown, fields (contextOf [keyBlock]) keyRecord = .ok shown :=
    isOk_fields_plainRecord keyRecord.extra _
  obtain ⟨shown, rendered⟩ := renders
  obtain ⟨_, veiled, told, _, same, _⟩ := fields_veiled rendered
  obtain ⟨value, found, hidden⟩ := veiled "api_key" (.str "hunter2") rfl
  rw [hidden.secret isSecret_apiKey.1] at found
  have alike : AlikeFields keyRecord.extra [("api_key", .str "swordfish")] :=
    .cons ⟨rfl, .secret _ _ isSecret_apiKey.1⟩ .nil
  exact ⟨shown, rendered, found, told _ _ (by decide) (by decide) rfl, same _ alike⟩

theorem block_secret_told : ∃ shown, fields (contextOf [keyBlock]) plainRecord = .ok shown ∧
    find? "api_key" shown = some (.str "hunter2") ∧ ¬Discreet plainRecord [keyBlock] shown := by
  have renders : ∃ shown, fields (contextOf [keyBlock]) plainRecord = .ok shown :=
    isOk_fields_plainRecord [] _
  obtain ⟨shown, rendered⟩ := renders
  have free : "api_key" ∉ plainRecord.extra.keys := by decide
  have given : inForce? "api_key" [keyBlock] = some (.str "hunter2") := rfl
  obtain ⟨told, found, rfl | same⟩ := told_context rendered free given
  next =>
    refine ⟨shown, rendered, found, ?_⟩
    intro discreet
    have kept := (discreet_iff rendered).1 discreet "api_key" _ free given
    rw [scrub_secret isSecret_apiKey.1, redacted, Json.str.injEq] at kept
    revert kept
    decide
  next => exact absurd same (by decide)

end Lines

end Structured

end DuplicateGuard
