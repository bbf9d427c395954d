import DuplicateGuard.Proofs.Settings.Merging
import DuplicateGuard.Proofs.Wire.Valid

set_option autoImplicit false

namespace DuplicateGuard.Settings

open Wire Wire.Read

section Switches

variable {environment : Environment} {fields switched : Keyed Json}

def switchValue? (environment : Environment) (switch : String × String) : Option Json :=
  (setting? environment switch.1).bind fun raw =>
    (Keyed.find? (Text.normalize (some raw)) switchWords).map .bool

theorem find?_applySwitch {switch : String × String}
    (applied : applySwitch environment fields switch = .ok switched) (key : String) :
    Keyed.find? key switched =
      if key = switch.2 then (switchValue? environment switch).or (Keyed.find? key fields)
      else Keyed.find? key fields := by
  unfold applySwitch at applied
  unfold switchValue?
  split at applied
  next unset =>
    cases applied
    simp [unset]
  next raw set =>
    split at applied
    next value meant =>
      cases applied
      by_cases same : key = switch.2
      next => simp [same, set, meant]
      next => simp [same, Keyed.find?_put_of_ne same]
    next => cases applied

theorem applySwitch_isSome {switch : String × String}
    (applied : applySwitch environment fields switch = .ok switched) :
    (switchValue? environment switch).isSome = (setting? environment switch.1).isSome := by
  unfold applySwitch at applied
  unfold switchValue?
  split at applied
  next unset => rw [unset]; rfl
  next raw set =>
    split at applied
    next value meant => rw [set, Option.bind_some, meant]; rfl
    next => cases applied

theorem find?_applySwitches {switches : List (String × String)}
    (distinct : (switches.map Prod.snd).Nodup)
    (applied : switches.foldlM (applySwitch environment) fields = .ok switched) :
    (∀ switch ∈ switches, Keyed.find? switch.2 switched =
        (switchValue? environment switch).or (Keyed.find? switch.2 fields) ∧
      (switchValue? environment switch).isSome = (setting? environment switch.1).isSome) ∧
    ∀ key ∉ switches.map Prod.snd, Keyed.find? key switched = Keyed.find? key fields := by
  induction switches generalizing fields with
  | nil =>
    cases applied
    simp
  | cons first rest ih =>
    rw [List.map_cons, List.nodup_cons] at distinct
    rw [List.foldlM_cons, bind_eq_ok] at applied
    obtain ⟨middle, here, later⟩ := applied
    obtain ⟨set, kept⟩ := ih distinct.2 later
    have entered := find?_applySwitch here
    constructor
    next =>
      intro switch inside
      rcases List.mem_cons.1 inside with rfl | inside
      next =>
        rw [kept _ distinct.1, entered, if_pos rfl]
        exact ⟨rfl, applySwitch_isSome here⟩
      next =>
        -- A switch further down is entered under a key of its own.
        have apart : switch.2 ≠ first.2 := fun same =>
          distinct.1 (same ▸ List.mem_map_of_mem inside)
        obtain ⟨found, isSome⟩ := set switch inside
        rw [found, entered, if_neg apart]
        exact ⟨rfl, isSome⟩
    next =>
      intro key outside
      rw [List.map_cons, List.mem_cons, not_or] at outside
      rw [kept key outside.2, entered, if_neg outside.1]

end Switches

inductive Setting where
  | enabled
  | defaultAction
  | allowOverride
  | requireAdminApproval
  | logDuplicates
  | rules
deriving DecidableEq

namespace Setting

def all : List Setting :=
  [.enabled, .defaultAction, .allowOverride, .requireAdminApproval, .logDuplicates, .rules]

theorem mem_all (setting : Setting) : setting ∈ all := by
  cases setting <;> decide

def keys : Setting → List String
  | .enabled => ["enabled"]
  | .defaultAction => ["defaultAction", "default_action"]
  | .allowOverride => ["allowOverride", "allow_override"]
  | .requireAdminApproval => ["requireAdminApproval", "require_admin_approval"]
  | .logDuplicates => ["logDuplicates", "log_duplicates"]
  | .rules => ["rules"]

def key (setting : Setting) : String :=
  setting.keys.headD ""

def variableName? : Setting → Option String
  | .enabled => some "CERTDEDUPE_ENABLED"
  | .defaultAction => some actionVariable
  | .allowOverride => some "CERTDEDUPE_ALLOW_OVERRIDE"
  | .requireAdminApproval => some "CERTDEDUPE_REQUIRE_ADMIN_APPROVAL"
  | .logDuplicates => some "CERTDEDUPE_LOG_DUPLICATES"
  | .rules => none

def meaning? (setting : Setting) (raw : String) : Option Json :=
  match setting with
  | .defaultAction => some (.str (Text.normalize (some raw)))
  | _ => (Keyed.find? (Text.normalize (some raw)) switchWords).map .bool

def raw? (environment : Environment) (setting : Setting) : Option String :=
  setting.variableName?.bind (setting? environment)

def Reads (policy : Policy Double) : Setting → Json → Prop
  | .enabled, value => truth value = .valid policy.enabled
  | .defaultAction, value => choice Action.all Action.name value = .valid policy.defaultAction
  | .allowOverride, value => truth value = .valid policy.allowOverride
  | .requireAdminApproval, value => truth value = .valid policy.requireAdminApproval
  | .logDuplicates, value => truth value = .valid policy.logDuplicates
  | .rules, value => items .notSequence Rule.read value = .valid policy.rules

def given? (file : Keyed Json) (setting : Setting) : Option Json :=
  (member? setting.keys file).map Prod.snd

/-- The value that precedence calls for: that of the environment, else of the file, else of the
preset. -/
def due? (preset : Preset) (file : Keyed Json) (environment : Environment) (setting : Setting) :
    Option Json :=
  match setting.raw? environment with
  | some raw => setting.meaning? raw
  | none => (setting.given? file).or (Keyed.find? setting.key preset.fields)

def inForce? (preset : Preset) (file : Keyed Json) (environment : Environment)
    (setting : Setting) : Option Json :=
  match setting.raw? environment with
  | some raw => setting.meaning? raw
  | none => (Keyed.find? setting.key file).or (Keyed.find? setting.key preset.fields)

/-- The value that the file gives a setting under its second key alone, while the environment
leaves the setting alone. -/
def sidelined? (file : Keyed Json) (environment : Environment) (setting : Setting) : Option Json :=
  match setting.raw? environment, Keyed.find? setting.key file with
  | none, none => setting.given? file
  | _, _ => none

theorem preset_value (preset : Preset) (setting : Setting) :
    ∃ value, Keyed.find? setting.key preset.fields = some value ∧ ∀ fields, value ≠ .obj fields := by
  cases setting <;> exact ⟨_, rfl, nofun⟩

theorem given?_of_find? {file : Keyed Json} {setting : Setting} {value : Json}
    (found : Keyed.find? setting.key file = some value) : setting.given? file = some value := by
  cases setting <;> exact congrArg (Option.map Prod.snd) (member?_of_find? found)

theorem due?_of_sidelined {preset : Preset} {file : Keyed Json} {environment : Environment}
    {setting : Setting} {value : Json} (sidelined : setting.sidelined? file environment = some value) :
    setting.due? preset file environment = some value := by
  unfold sidelined? at sidelined
  split at sidelined
  next raw _ => simp only [due?, raw, sidelined, Option.some_or]
  next => cases sidelined

theorem due?_eq_inForce? {preset : Preset} {file : Keyed Json} {environment : Environment}
    {setting : Setting} (prominent : setting.sidelined? file environment = none) :
    setting.due? preset file environment = setting.inForce? preset file environment := by
  unfold due? inForce?
  cases raw : setting.raw? environment with
  | some text => rfl
  | none =>
    cases found : Keyed.find? setting.key file with
    | some value => simp [given?_of_find? found]
    | none =>
      simp only [sidelined?, raw, found] at prominent
      rw [prominent]

theorem reads_of_accept {fields : Keyed Json} {policy : Policy Double}
    (accepted : Policy.accept (.obj fields) = .ok policy) {setting : Setting} {value : Json}
    (found : Keyed.find? setting.key fields = some value) : setting.Reads policy value := by
  obtain ⟨enabled, action, rules, override, approval, logs⟩ := Policy.settings_of_accept accepted
  cases setting with
  | enabled => exact reader_of_withDefault enabled (member?_of_find? found)
  | defaultAction => exact reader_of_withDefault action (member?_of_find? found)
  | allowOverride => exact reader_of_withDefault override (member?_of_find? found)
  | requireAdminApproval => exact reader_of_withDefault approval (member?_of_find? found)
  | logDuplicates => exact reader_of_withDefault logs (member?_of_find? found)
  | rules => exact reader_of_withDefault rules (member?_of_find? found)

def Respected (preset : Preset) (file : Keyed Json) (environment : Environment)
    (policy : Policy Double) (setting : Setting) : Prop :=
  ∃ value, setting.due? preset file environment = some value ∧ setting.Reads policy value

theorem respected_iff {preset : Preset} {file : Keyed Json} {environment : Environment}
    {policy : Policy Double} {setting : Setting} (top : ∃ value,
      setting.inForce? preset file environment = some value ∧ setting.Reads policy value) :
    setting.Respected preset file environment policy ↔
      ∀ value, setting.sidelined? file environment = some value → setting.Reads policy value := by
  unfold Respected
  cases sidelined : setting.sidelined? file environment with
  | some value =>
    -- The value on the side is the one that precedence calls for.
    rw [due?_of_sidelined sidelined]
    simp
  | none =>
    rw [due?_eq_inForce? sidelined]
    simpa using top

theorem mem_switches {setting : Setting} {name : String} (named : setting.variableName? = some name)
    (apart : setting ≠ .defaultAction) : (name, setting.key) ∈ switches := by
  cases setting with
  | defaultAction => exact absurd rfl apart
  | rules => cases named
  | enabled | allowOverride | requireAdminApproval | logDuplicates =>
    cases named
    decide

theorem key_ne {setting : Setting} (apart : setting ≠ .defaultAction) :
    setting.key ≠ "defaultAction" := by
  cases setting with
  | defaultAction => exact absurd rfl apart
  | enabled | allowOverride | requireAdminApproval | logDuplicates | rules => decide

theorem eq_rules {setting : Setting} (unnamed : setting.variableName? = none) :
    setting = .rules := by
  cases setting with
  | rules => rfl
  | enabled | defaultAction | allowOverride | requireAdminApproval | logDuplicates => cases unnamed

theorem switchValue?_eq {environment : Environment} {setting : Setting} {name : String}
    (named : setting.variableName? = some name) (apart : setting ≠ .defaultAction) :
    switchValue? environment (name, setting.key) =
      (setting.raw? environment).bind setting.meaning? := by
  rw [raw?, named]
  cases setting with
  | defaultAction => exact absurd rfl apart
  | enabled | allowOverride | requireAdminApproval | logDuplicates | rules => rfl

end Setting

section Environment

variable {environment : Environment} {fields complete : Keyed Json}

theorem applyEnvironment_steps (applied : applyEnvironment environment fields = .ok complete) :
    ∃ switched, switches.foldlM (applySwitch environment) fields = .ok switched ∧
      complete = match setting? environment actionVariable with
        | some raw => Keyed.put "defaultAction" (.str (Text.normalize (some raw))) switched
        | none => switched := by
  unfold applyEnvironment at applied
  split at applied
  next => cases applied
  next switched folded =>
    refine ⟨switched, folded, ?_⟩
    cases raw : setting? environment actionVariable <;> simp_all

theorem find?_applyEnvironment (applied : applyEnvironment environment fields = .ok complete)
    (setting : Setting) :
    (∀ raw, setting.raw? environment = some raw → ∃ value, setting.meaning? raw = some value ∧
      Keyed.find? setting.key complete = some value) ∧
    (setting.raw? environment = none →
      Keyed.find? setting.key complete = Keyed.find? setting.key fields) := by
  obtain ⟨switched, folded, rfl⟩ := applyEnvironment_steps applied
  obtain ⟨set, kept⟩ := find?_applySwitches (by decide) folded
  by_cases action : setting = .defaultAction
  next =>
    -- No switch is entered under this key, and the action comes last.
    subst action
    have switched := kept "defaultAction" (by decide)
    have raw : Setting.raw? environment .defaultAction = setting? environment actionVariable := rfl
    rw [raw]
    constructor
    next =>
      intro text given
      rw [given]
      exact ⟨_, rfl, Keyed.find?_put_self ..⟩
    next =>
      intro unset
      rw [unset]
      exact switched
  next =>
    have untouched : Keyed.find? setting.key (match setting? environment actionVariable with
        | some raw => Keyed.put "defaultAction" (.str (Text.normalize (some raw))) switched
        | none => switched) = Keyed.find? setting.key switched := by
      split
      next => exact Keyed.find?_put_of_ne (Setting.key_ne action) _ _
      next => rfl
    rw [untouched]
    cases named : setting.variableName? with
    | none =>
      obtain rfl := Setting.eq_rules named
      exact ⟨nofun, fun _ => kept "rules" (by decide)⟩
    | some name =>
      obtain ⟨found, isSome⟩ := set _ (Setting.mem_switches named action)
      have raw : setting? environment name = setting.raw? environment := by
        rw [Setting.raw?, named]
        rfl
      rw [Setting.switchValue?_eq named action, raw] at isSome
      rw [Setting.switchValue?_eq named action] at found
      constructor
      next =>
        intro text given
        rw [given, Option.bind_some] at found isSome
        obtain ⟨value, meant⟩ := Option.isSome_iff_exists.1 isSome
        exact ⟨value, meant, by rw [found, meant, Option.some_or]⟩
      next =>
        intro unset
        rw [found, unset]
        rfl

end Environment

section Files

variable {preset : Preset} {path : Option String} {source : String → Source} {file : Keyed Json}

def fileAt (path : Option String) (source : String → Source) : Except Failure (Keyed Json) :=
  match path with
  | none | some "" => .ok []
  | some path => fileFields (plainPath path) (source (plainPath path))

theorem withFile_eq (preset : Preset) (path : Option String) (source : String → Source) :
    withFile preset path source = (fileAt path source).map (merge preset.fields) := by
  cases path with
  | none => simp [withFile, fileAt, Except.map, merge]
  | some path =>
    by_cases empty : path = ""
    next => simp [withFile, fileAt, Except.map, merge, empty]
    next => simp [withFile, fileAt]

theorem fileAt_distinct (read : fileAt path source = .ok file) : file.keys.Nodup := by
  unfold fileAt at read
  split at read
  next => cases read; exact .nil
  next => cases read; exact .nil
  next => exact (Json.wellFormed_obj.1 (fileFields_wellFormed read)).1

theorem find?_laid (distinct : file.keys.Nodup) (setting : Setting) :
    Keyed.find? setting.key (merge preset.fields file) =
      (Keyed.find? setting.key file).or (Keyed.find? setting.key preset.fields) := by
  obtain ⟨value, known, plain⟩ := setting.preset_value preset
  -- The preset has no object under this key, so the file's value is taken as it is.
  have taken : overlay (some value) = id :=
    funext fun new => overlay_of_no_object (fun fields same => plain fields (Option.some.inj same)) new
  rw [find?_merge distinct, known, taken, Option.map_id, id]

theorem inForce?_reads {environment : Environment} {complete : Keyed Json} {policy : Policy Double}
    (distinct : file.keys.Nodup)
    (applied : applyEnvironment environment (merge preset.fields file) = .ok complete)
    (accepted : Policy.accept (.obj complete) = .ok policy) (setting : Setting) :
    ∃ value, setting.inForce? preset file environment = some value ∧
      setting.Reads policy value := by
  obtain ⟨set, kept⟩ := find?_applyEnvironment applied setting
  unfold Setting.inForce?
  cases raw : setting.raw? environment with
  | some text =>
    obtain ⟨value, meant, found⟩ := set text raw
    exact ⟨value, meant, Setting.reads_of_accept accepted found⟩
  | none =>
    obtain ⟨old, known, _⟩ := setting.preset_value preset
    have found := (kept raw).trans (find?_laid distinct setting)
    cases given : Keyed.find? setting.key file with
    | some value =>
      rw [given, Option.some_or] at found
      exact ⟨value, rfl, Setting.reads_of_accept accepted found⟩
    | none =>
      rw [given, Option.none_or, known] at found
      exact ⟨old, known, Setting.reads_of_accept accepted found⟩

end Files

/-- The policy that is loaded has, for every setting, the value on top. That is the one which
precedence calls for, unless the setting is sidelined with a value that reads otherwise. -/
theorem load_layers {preset : Preset} {path : Option String} {source : String → Source}
    {environment : Environment} {policy : Policy Double}
    (loaded : load preset path source environment = .ok policy) :
    ∃ file, fileAt path source = .ok file ∧ ∀ setting : Setting,
      (setting.Respected preset file environment policy ↔
        ∀ value, setting.sidelined? file environment = some value → setting.Reads policy value) ∧
      ∃ value, setting.inForce? preset file environment = some value ∧
        setting.Reads policy value := by
  unfold load at loaded
  split at loaded
  next => cases loaded
  next fields laid =>
    split at loaded
    next => cases loaded
    next complete applied =>
      -- Without a file, nothing is laid over the preset.
      rw [withFile_eq] at laid
      cases read : fileAt path source with
      | error failure =>
        rw [read] at laid
        cases laid
      | ok file =>
        rw [read] at laid
        cases laid
        refine ⟨file, rfl, fun setting => ?_⟩
        have top := inForce?_reads (fileAt_distinct read) applied loaded setting
        exact ⟨Setting.respected_iff top, top⟩

def bothKeys (_ : String) : Source :=
  .text "\x7b\"default_action\": \"allow\", \"defaultAction\": \"block\", \"rules\": []\x7d"

def noOverrides : Environment :=
  [("CERTDEDUPE_ALLOW_OVERRIDE", " No ")]

theorem load_layers_first_key :
    ∃ policy file, load .standard (some "config.json") bothKeys noOverrides = .ok policy ∧
      fileAt (some "config.json") bothKeys = .ok file ∧
      (policy.defaultAction, policy.allowOverride, policy.rules.length) = (.block, false, 0) ∧
      ∀ setting : Setting, setting.Respected .standard file noOverrides policy := by
  have given : (load .standard (some "config.json") bothKeys noOverrides).toOption.map
      (fun policy => (policy.defaultAction, policy.allowOverride, policy.rules.length)) =
      some (.block, false, 0) := by
    decide +kernel
  have prominent : (fileAt (some "config.json") bothKeys).toOption.map (fun file =>
      Setting.all.all fun setting => (setting.sidelined? file noOverrides).isNone) = some true := by
    decide +kernel
  obtain ⟨policy, loaded, values⟩ := Option.map_eq_some_iff.1 given
  have loaded := toOption_eq_some.1 loaded
  obtain ⟨file, read, layered⟩ := load_layers loaded
  refine ⟨policy, file, loaded, read, values, fun setting => (layered setting).1.2 ?_⟩
  intro value sidelined
  simp only [read, Except.toOption, Option.map_some, Option.some.injEq, List.all_eq_true] at prominent
  have none := prominent setting setting.mem_all
  rw [sidelined] at none
  cases none

def secondKey (_ : String) : Source :=
  .text "\x7b\"allow_override\": false\x7d"

theorem load_sidelines_second_key :
    ∃ policy file, load .standard (some "config.json") secondKey [] = .ok policy ∧
      fileAt (some "config.json") secondKey = .ok file ∧
      ¬Setting.allowOverride.Respected .standard file [] policy := by
  have permitted : (load .standard (some "config.json") secondKey []).toOption.map
      (·.allowOverride) = some true := by
    decide +kernel
  have called : (fileAt (some "config.json") secondKey).toOption.map (fun file =>
      (Setting.allowOverride.due? .standard file []).bind Json.bool?) = some (some false) := by
    decide +kernel
  obtain ⟨policy, loaded, permits⟩ := Option.map_eq_some_iff.1 permitted
  obtain ⟨file, read, due⟩ := Option.map_eq_some_iff.1 called
  refine ⟨policy, file, toOption_eq_some.1 loaded, toOption_eq_some.1 read, ?_⟩
  rintro ⟨value, same, reads⟩
  rw [same, Option.bind_some] at due
  cases value with
  | bool forbids =>
    cases due
    rw [Setting.Reads, permits] at reads
    cases reads
  | _ => cases due

end DuplicateGuard.Settings
