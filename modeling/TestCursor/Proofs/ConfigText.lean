import TestCursor.Config.Json
import TestCursor.Proofs.JsonText

/-!
# Configurations as objects of settings

A configuration is read from an object that gives some of its settings, and written as an object
of all of them.

1. A setting fits a key when it is of the key's type. Settings that fit can be given one after the
   other (`exists_setAll?`), by induction on the keys.
2. An object of such settings is a configuration: the settings that it gives, the others at their
   defaults, whatever else it holds (`exists_ofJson?`).
3. Two configurations with the same settings are the same (`ext_get`), so one that is written as an
   object of all settings is read back from its text (`ofJsonText?_toJsonText`).
-/

namespace TestCursor

namespace ConfigKey

/-- The setting of a key is a switch, not a text. -/
def isSwitch : ConfigKey → Bool
  | .usePythonPath | .stripRootFolder | .djangoNose => true
  | .prefixCommand | .manageProgram | .flags | .pythonPath | .rootPackageName => false

theorem mem_all (key : ConfigKey) : key ∈ all := by cases key <;> decide

theorem name_injective {key other : ConfigKey} (h : key.name = other.name) : key = other := by
  cases key <;> cases other <;> first
    | rfl
    | exact absurd h (by decide)

end ConfigKey

namespace Setting

/-- A setting is of the type of a key. -/
def Fits : Setting → ConfigKey → Prop
  | .text _, key => key.isSwitch = false
  | .switch _, key => key.isSwitch = true

theorem ofJson?_toJson (setting : Setting) : ofJson? setting.toJson = some setting := by
  cases setting <;> rfl

theorem toJson_injective {setting other : Setting} (h : setting.toJson = other.toJson) :
    setting = other := by
  have hread := congrArg ofJson? h
  rwa [ofJson?_toJson, ofJson?_toJson, Option.some.injEq] at hread

theorem isPlain_toJson (setting : Setting) : setting.toJson.IsPlain := by
  cases setting with
  | text value => exact rfl
  | switch value => trivial

end Setting

/-! ## Settings given one after the other -/

section Settings

variable {α : Type} {read : α → Option Setting} {write : Setting → α}

/-- The values that were written for settings give them back. -/
theorem settingsOf?_map (hread : ∀ setting, read (write setting) = some setting)
    (given : ConfigKey → Option Setting) (keys : List ConfigKey) :
    settingsOf? read keys (keys.map fun key => (given key).map write) =
      some (keys.filterMap fun key => (given key).map fun setting => (key, setting)) := by
  induction keys with
  | nil => rfl
  | cons key keys ih =>
    rw [List.map_cons, List.filterMap_cons]
    cases given key with
    | none => exact ih
    | some setting => simp only [Option.map_some, settingsOf?, hread, ih]

end Settings

namespace Config

theorem fits_get (config : Config) (key : ConfigKey) : (config.get key).Fits key := by
  cases key <;> rfl

theorem ext_get {config other : Config} (h : ∀ key, config.get key = other.get key) :
    config = other := by
  cases config
  cases other
  simp only [mk.injEq]
  exact ⟨Setting.text.inj (h .prefixCommand), Setting.text.inj (h .manageProgram),
    Setting.text.inj (h .flags), Setting.switch.inj (h .usePythonPath),
    Setting.text.inj (h .pythonPath), Setting.switch.inj (h .stripRootFolder),
    Setting.text.inj (h .rootPackageName), Setting.switch.inj (h .djangoNose)⟩

/-- A setting that fits its key can be given, and changes no other. -/
theorem exists_set? (config : Config) {key : ConfigKey} {setting : Setting}
    (h : setting.Fits key) :
    ∃ changed, config.set? key setting = some changed ∧
      ∀ other, changed.get other = if other = key then setting else config.get other := by
  cases key <;> cases setting <;> first
    | exact Bool.noConfusion h
    | exact ⟨_, rfl, fun other => by cases other <;> rfl⟩

/-- Settings that fit their keys can be given one after the other, and change no others. -/
theorem exists_setAll? (config : Config) {given : ConfigKey → Option Setting}
    (hfits : ∀ key setting, given key = some setting → setting.Fits key) {keys : List ConfigKey}
    (hnodup : keys.Nodup) :
    ∃ changed, config.setAll? (keys.filterMap fun key =>
        (given key).map fun setting => (key, setting)) = some changed ∧
      ∀ key, changed.get key =
        if key ∈ keys then (given key).getD (config.get key) else config.get key := by
  induction keys generalizing config with
  | nil => exact ⟨config, rfl, fun key => rfl⟩
  | cons first keys ih =>
    obtain ⟨hfirst, hnodup⟩ := List.nodup_cons.mp hnodup
    rw [List.filterMap_cons]
    cases hgiven : given first with
    | none =>
      obtain ⟨changed, hset, hget⟩ := ih config hnodup
      refine ⟨changed, hset, fun key => ?_⟩
      rw [hget key]
      by_cases hkey : key = first
      · subst hkey
        simp [hfirst, hgiven]
      · simp [hkey]
    | some setting =>
      obtain ⟨next, hnext, hgetNext⟩ := config.exists_set? (hfits first setting hgiven)
      obtain ⟨changed, hset, hget⟩ := ih next hnodup
      refine ⟨changed, ?_, fun key => ?_⟩
      · rw [Option.map_some, setAll?, hnext, Option.bind_some, hset]
      · rw [hget key, hgetNext key]
        by_cases hkey : key = first
        · subst hkey
          simp [hfirst, hgiven]
        · simp [hkey]

end Config

/-! ## Objects of settings -/

/-- Members of an object that give settings: every key has a text, no key of a setting occurs
twice, and each such key has a value of its type. Other keys can have any values. -/
structure GiveSettings (members : List (Option String × Json)) : Prop where
  texts : ∀ member ∈ members, member.1.isSome = true
  once : ∀ key : ConfigKey, Json.keyCount key.name members ≤ 1
  typed : ∀ (key : ConfigKey) value, (some key.name, value) ∈ members →
    ∃ setting : Setting, setting.Fits key ∧ value = setting.toJson

def givenSetting? (members : List (Option String × Json)) (key : ConfigKey) : Option Setting :=
  (Json.member? key.name members).bind Setting.ofJson?

section GiveSettings

variable {members : List (Option String × Json)} {key : ConfigKey} {setting : Setting}

theorem GiveSettings.givenSetting?_of_mem (h : GiveSettings members)
    (hsetting : (some key.name, setting.toJson) ∈ members) :
    givenSetting? members key = some setting := by
  rw [givenSetting?, Json.member?_of_mem (h.once key) hsetting, Option.bind_some,
    Setting.ofJson?_toJson]

theorem GiveSettings.member?_eq (h : GiveSettings members) (key : ConfigKey) :
    Json.member? key.name members = (givenSetting? members key).map Setting.toJson := by
  cases hvalue : Json.member? key.name members with
  | none => simp [givenSetting?, hvalue]
  | some value =>
    have hmem := Json.mem_of_member? hvalue
    obtain ⟨setting, -, rfl⟩ := h.typed key value hmem
    rw [h.givenSetting?_of_mem hmem, Option.map_some]

theorem GiveSettings.fits (h : GiveSettings members)
    (hgiven : givenSetting? members key = some setting) : setting.Fits key := by
  have hvalue := h.member?_eq key
  rw [hgiven, Option.map_some] at hvalue
  obtain ⟨other, hother, heq⟩ := h.typed key _ (Json.mem_of_member? hvalue)
  rwa [Setting.toJson_injective heq]

end GiveSettings

namespace Config

/-- A configuration with the settings that members give, and the others at their defaults. -/
structure Overlays (config : Config) (members : List (Option String × Json)) : Prop where
  given : ∀ (key : ConfigKey) (setting : Setting), (some key.name, setting.toJson) ∈ members →
    config.get key = setting
  default : ∀ key : ConfigKey, (∀ value, (some key.name, value) ∉ members) →
    config.get key = Config.default.get key

section Overlays

variable {members : List (Option String × Json)}

/-- There is one such configuration only. -/
theorem Overlays.unique {config other : Config} (hmembers : GiveSettings members)
    (h : config.Overlays members) (hother : other.Overlays members) : config = other := by
  refine ext_get fun key => ?_
  by_cases hkey : ∃ value, (some key.name, value) ∈ members
  · obtain ⟨value, hvalue⟩ := hkey
    obtain ⟨setting, -, rfl⟩ := hmembers.typed key value hvalue
    rw [h.given key setting hvalue, hother.given key setting hvalue]
  · have hnone : ∀ value, (some key.name, value) ∉ members := not_exists.mp hkey
    rw [h.default key hnone, hother.default key hnone]

theorem ofJson?_object (h : GiveSettings members) :
    ofJson? (.object members) = default.setAll? (ConfigKey.all.filterMap fun key =>
      (givenSetting? members key).map fun setting => (key, setting)) := by
  have honce : ∀ name ∈ ConfigKey.names, Json.keyCount name members ≤ 1 := by
    intro name hname
    obtain ⟨key, -, rfl⟩ := List.mem_map.mp hname
    exact h.once key
  have hvalues : ConfigKey.names.map (fun name => Json.member? name members) =
      ConfigKey.all.map fun key => (givenSetting? members key).map Setting.toJson := by
    rw [ConfigKey.names, List.map_map]
    exact List.map_congr_left fun key _ => h.member?_eq key
  rw [ofJson?, Json.record?_object h.texts honce, hvalues]
  simp only [settingsOf?_map Setting.ofJson?_toJson, Option.bind_some]

/-- An object that gives settings is read as the defaults with these settings. -/
theorem exists_ofJson? (h : GiveSettings members) :
    ∃ config, ofJson? (.object members) = some config ∧ config.Overlays members := by
  have hnodup : ConfigKey.all.Nodup := by decide
  obtain ⟨config, hset, hget⟩ := default.exists_setAll? (fun _ _ => h.fits) hnodup
  refine ⟨config, (ofJson?_object h).trans hset, ?_, ?_⟩
  · intro key setting hsetting
    rw [hget key, if_pos key.mem_all, h.givenSetting?_of_mem hsetting, Option.getD_some]
  · intro key hnone
    have hgiven : givenSetting? members key = none := by
      cases hvalue : Json.member? key.name members with
      | none => simp [givenSetting?, hvalue]
      | some value => exact absurd (Json.mem_of_member? hvalue) (hnone value)
    rw [hget key, if_pos key.mem_all, hgiven, Option.getD_none]

end Overlays

/-! ## Written configurations -/

variable (config : Config)

/-- The members of the object that is written for a configuration. -/
def members : List (Option String × Json) :=
  ConfigKey.all.map fun key => (some key.name, (config.get key).toJson)

theorem toJson_eq : config.toJson = .object config.members := rfl

theorem isPlain_toJson : config.toJson.IsPlain := by
  have hmembers (keys : List ConfigKey) : Json.ArePlainMembers
      (keys.map fun key => (some key.name, (config.get key).toJson)) := by
    induction keys with
    | nil => trivial
    | cons key keys ih => exact ⟨rfl, Setting.isPlain_toJson _, ih⟩
  exact hmembers ConfigKey.all

theorem mem_members (key : ConfigKey) : (some key.name, (config.get key).toJson) ∈ config.members :=
  List.mem_map.mpr ⟨key, key.mem_all, rfl⟩

theorem giveSettings_members : GiveSettings config.members where
  texts := by simp [members]
  once key :=
    have hnodup : (ConfigKey.all.map ConfigKey.name).Nodup := by decide
    Json.keyCount_members_le ConfigKey.all hnodup key.name
  typed key value hvalue := by
    obtain ⟨other, -, heq⟩ := List.mem_map.mp hvalue
    obtain ⟨hname, rfl⟩ := Prod.mk.inj heq
    obtain rfl := ConfigKey.name_injective (Option.some.inj hname)
    exact ⟨_, config.fits_get other, rfl⟩

theorem ofJsonText?_toJsonText : ofJsonText? config.toJsonText = some config := by
  obtain ⟨read, hread, hoverlays⟩ := exists_ofJson? config.giveSettings_members
  have hsame : read = config :=
    ext_get fun key => hoverlays.given key _ (config.mem_members key)
  rw [ofJsonText?, toJsonText, Json.parse?_print config.isPlain_toJson, Option.bind_some, toJson_eq,
    hread, hsame]

end Config

end TestCursor
