import TestCursor.Proofs.ConfigText
import TestCursor.Proofs.FileWriting
import TestCursor.Workspace

/-!
# What a configuration file says

A configuration file is read for the settings that its object gives.

1. The bytes of a text that gives a configuration are loaded as that configuration
   (`readConfig_of_readBytes`).
2. So a configuration that was saved is loaded again, whatever the file held before
   (`readConfig_saveConfig`).
3. Any text of the grammar whose object gives settings is loaded as the defaults overlaid with
   them. Since only one configuration is that, the order of the keys, other keys and blanks make no
   difference (`readConfig_overlays`).
-/

namespace TestCursor

/-! ## Saving and loading -/

namespace Site

variable {site : Site} {config : Config} {path text : String}

theorem readConfig_of_readText (hread : site.readText path = .ok text)
    (hconfig : Config.ofJsonText? text = some config) : site.readConfig path = .ok config := by
  unfold readConfig
  simp only [hread, hconfig]

theorem readConfig_of_readBytes (hread : site.tree.readBytes site.cwd path = .ok text.toUTF8)
    (hconfig : Config.ofJsonText? text = some config) : site.readConfig path = .ok config :=
  readConfig_of_readText (readText_eq_ok_iff.mpr (FileTree.readText_of_readBytes hread)) hconfig

/-- A configuration that was saved is loaded again, unless the path names a device, which keeps
nothing. It can be saved wherever there is room for a file, whatever that file holds. -/
theorem readConfig_saveConfig (site : Site) (config : Config) (path : String) :
    (∀ tree, site.saveConfig config path = .ok tree →
        (∀ device, site.tree.node? site.cwd path ≠ some (.device device)) →
        Site.readConfig ⟨tree, site.cwd⟩ path = .ok config) ∧
      (site.tree.hasRoomAt site.cwd path = true →
        ∃ tree, site.saveConfig config path = .ok tree ∧
          Site.readConfig ⟨tree, site.cwd⟩ path = .ok config) := by
  have hload {tree : FileTree} (hsave : site.saveConfig config path = .ok tree)
      (hkeeps : ∀ device, site.tree.node? site.cwd path ≠ some (.device device)) :
      Site.readConfig ⟨tree, site.cwd⟩ path = .ok config := by
    rcases FileTree.readText_of_writeText (writeText_eq_ok_iff.mp hsave) with
      ⟨hread, -⟩ | ⟨-, device, hnode⟩
    · exact readConfig_of_readText (readText_eq_ok_iff.mpr hread) config.ofJsonText?_toJsonText
    · exact absurd hnode (hkeeps device)
  refine ⟨fun tree hsave hkeeps => hload hsave hkeeps, fun hroom => ?_⟩
  obtain ⟨tree, hwrite⟩ := FileTree.exists_writeText hroom config.toJsonText
  have hsave : site.saveConfig config path = .ok tree := writeText_eq_ok_iff.mpr hwrite
  exact ⟨tree, hsave, hload hsave (FileTree.not_device_of_hasRoomAt hroom)⟩

end Site

/-- A link to a file that is no configuration. -/
def spoiledSite : Site :=
  ⟨.dir [("work", .dir [(".django-runner.json", .link "../shared.json")]),
    ("shared.json", .file "not json".toUTF8 0o600)], ["work"]⟩

/-- Settings with quotes, backslashes, line breaks, control characters and an emoji. -/
def spelledConfig : Config :=
  { Config.default with
    prefixCommand := "sh -c \"cd \\\\srv\"", flags := "\t--tag\n\x00\x1f\x7f", pythonPath := "/😀/é"
    usePythonPath := false, djangoNose := true }

theorem readConfig_saveConfig_spoiledSite :
    spoiledSite.readConfig ".django-runner.json" =
        .error (.malformed ".django-runner.json" "not a configuration") ∧
      ∃ tree, spoiledSite.saveConfig spelledConfig ".django-runner.json" = .ok tree ∧
        Site.readConfig ⟨tree, ["work"]⟩ ".django-runner.json" = .ok spelledConfig := by
  have hroom : spoiledSite.tree.hasRoomAt ["work"] ".django-runner.json" = true := by
    decide +kernel
  refine ⟨by decide +kernel, ?_⟩
  exact (Site.readConfig_saveConfig spoiledSite spelledConfig _).2 hroom

/-! ## Loading what others wrote -/

/-- A text that spells an object whose members give settings. -/
structure IsConfigText (text : String) (members : List (Option String × Json)) : Prop where
  spells : Json.SpellsText text.toList (.object members)
  gives : GiveSettings members

/-- Members give the same settings. -/
def SameSettings (members others : List (Option String × Json)) : Prop :=
  ∀ (key : ConfigKey) value,
    (some key.name, value) ∈ members ↔ (some key.name, value) ∈ others

theorem Config.Overlays.of_sameSettings {config : Config}
    {members others : List (Option String × Json)} (h : config.Overlays members)
    (hsame : SameSettings members others) : config.Overlays others where
  given key setting hsetting := h.given key setting ((hsame key _).mpr hsetting)
  default key hnone := h.default key fun value hvalue => hnone value ((hsame key value).mp hvalue)

theorem IsConfigText.exists_ofJsonText? {text : String} {members : List (Option String × Json)}
    (h : IsConfigText text members) :
    ∃ config, Config.ofJsonText? text = some config ∧ config.Overlays members := by
  obtain ⟨config, hread, hoverlays⟩ := Config.exists_ofJson? h.gives
  refine ⟨config, ?_, hoverlays⟩
  rw [Config.ofJsonText?, Json.parse?_of_spellsText h.spells, Option.bind_some, hread]

/-- A file whose object gives settings is loaded as the defaults overlaid with them. So is every
other file that gives the same settings, in whatever order, among whatever other keys and with
whatever blanks. -/
theorem Site.readConfig_overlays {text : String} {members : List (Option String × Json)}
    (h : IsConfigText text members) :
    ∃ config : Config, config.Overlays members ∧
      (∀ (site : Site) (path : String),
        site.tree.readBytes site.cwd path = .ok text.toUTF8 → site.readConfig path = .ok config) ∧
      ∀ (text' : String) (members' : List (Option String × Json)), IsConfigText text' members' →
        SameSettings members members' → ∀ (site : Site) (path : String),
          site.tree.readBytes site.cwd path = .ok text'.toUTF8 →
          site.readConfig path = .ok config := by
  obtain ⟨config, hconfig, hoverlays⟩ := h.exists_ofJsonText?
  refine ⟨config, hoverlays, fun site path hread => readConfig_of_readBytes hread hconfig, ?_⟩
  intro text' members' h' hsame site path hread
  obtain ⟨other, hother, hoverlays'⟩ := h'.exists_ofJsonText?
  obtain rfl := hoverlays'.unique h'.gives (hoverlays.of_sameSettings hsame)
  exact readConfig_of_readBytes hread hother

/-- An object with an escape in a key, a surrogate pair in a text, values of many kinds under
another key and blanks of all kinds. -/
def blankedText : String :=
  "\t\x7b \"\\u0066lags\" :\"\\ud83D\\uDe00\",\n\"editor\":[-1.5e+3, " ++
    "\x7b\"tabs\":\"\\ud800\"\x7d]\r,\"django_nose\":true\x7d"

/-- The members of that object. -/
def blankedMembers : List (Option String × Json) :=
  [(some "flags", .text "😀"),
   (some "editor", .array [.number "-1.5e+3", .object [(some "tabs", .string none)]]),
   (some "django_nose", .bool true)]

theorem giveSettings_blankedMembers : GiveSettings blankedMembers where
  texts := by simp [blankedMembers]
  once key := by cases key <;> decide
  typed key value hvalue := by
    simp only [blankedMembers, List.mem_cons, Prod.mk.injEq, Option.some.injEq, List.not_mem_nil,
      or_false] at hvalue
    rcases hvalue with ⟨hkey, rfl⟩ | ⟨hkey, -⟩ | ⟨hkey, rfl⟩
    · obtain rfl : key = .flags := ConfigKey.name_injective hkey
      exact ⟨.text "😀", rfl, rfl⟩
    · cases key <;> exact absurd hkey (by decide)
    · obtain rfl : key = .djangoNose := ConfigKey.name_injective hkey
      exact ⟨.switch true, rfl, rfl⟩

open Json in
theorem spellsText_blankedText : SpellsText blankedText.toList (.object blankedMembers) := by
  have hflags : SpellsString "\"\\u0066lags\"".toList (some "flags") :=
    .text (.cons (.fourDigits (i := 0) (j := 0) (k := 6) (l := 6) (.inl rfl) (.inl rfl) (.inl rfl)
      (.inl rfl)) (spellsCodes_escaped "lags".toList)) (standFor_map_toNat "flags".toList)
  have hemoji : SpellsString "\"\\ud83D\\uDe00\"".toList (some "😀") :=
    .text (.cons (.fourDigits (i := 13) (j := 8) (k := 3) (l := 13) (.inl rfl) (.inl rfl) (.inl rfl)
        (.inr rfl))
      (.cons (.fourDigits (i := 13) (j := 14) (k := 0) (l := 0) (.inr rfl) (.inl rfl) (.inl rfl)
        (.inl rfl)) .nil))
      (.pair (c := '😀') (by decide) (by decide) (by decide) .nil)
  have hhalf : SpellsString "\"\\ud800\"".toList none :=
    .half (.cons (.fourDigits (i := 13) (j := 8) (k := 0) (l := 0) (.inl rfl) (.inl rfl) (.inl rfl)
      (.inl rfl)) .nil) fun text htext => by cases charsOfCodes?_of_standFor htext
  have hspelling : IsNumber (['-'] ++ (['1'] ++ ['.', '5'] ++ 'e' :: (['+'] ++ ['3']))) :=
    .mk (by decide) (.digits (by decide) (by decide)) (.digits (by decide))
      (.digits (by decide) (by decide) (by decide))
  have hnumber := Spells.number (show IsNumber "-1.5e+3".toList from hspelling)
  rw [String.ofList_toList] at hnumber
  -- From here on a value is spelled inside the next one, from the innermost outwards.
  have htabs := SpellsText.mk areBlanks_space
    (.object (.last (.mk areBlanks_nil (spellsString_quoted "tabs") areBlanks_nil
      (.mk areBlanks_nil (.string hhalf) areBlanks_nil)))) areBlanks_nil
  have heditor := SpellsText.mk areBlanks_nil
    (.array (.more (.mk areBlanks_nil hnumber areBlanks_nil) (.last htabs)))
    (by decide : AreBlanks ['\r'])
  have hmembers := SpellsMembers.more
    (.mk areBlanks_space hflags areBlanks_space (.mk areBlanks_nil (.string hemoji) areBlanks_nil))
    (.more (.mk (by decide : AreBlanks ['\n']) (spellsString_quoted "editor") areBlanks_nil heditor)
      (.last (.mk areBlanks_nil (spellsString_quoted "django_nose") areBlanks_nil
        (.mk areBlanks_nil .isTrue areBlanks_nil))))
  have hobject := SpellsText.mk (by decide : AreBlanks ['\t']) (.object hmembers) areBlanks_nil
  obtain ⟨text, htext, hspelled⟩ : ∃ text, text = blankedText.toList ∧
      SpellsText text (.object blankedMembers) := ⟨_, by decide +kernel, hobject⟩
  exact htext ▸ hspelled

theorem readConfig_overlays_blankedText :
    ∃ config : Config, config.get .flags = .text "😀" ∧ config.get .djangoNose = .switch true ∧
      config.get .manageProgram = .text "manage.py test" ∧
      Site.readConfig ⟨.dir [("c.json", .file blankedText.toUTF8 0o644)], []⟩ "c.json" =
        .ok config := by
  obtain ⟨config, hoverlays, hload, -⟩ :=
    Site.readConfig_overlays ⟨spellsText_blankedText, giveSettings_blankedMembers⟩
  have hflags : (some "flags", (Setting.text "😀").toJson) ∈ blankedMembers := .head _
  have hnose : (some "django_nose", (Setting.switch true).toJson) ∈ blankedMembers :=
    .tail _ (.tail _ (.head _))
  have hprogram (value : Json) : (some "manage_program", value) ∉ blankedMembers := by
    simp [blankedMembers]
  exact ⟨config, hoverlays.given .flags _ hflags, hoverlays.given .djangoNose _ hnose,
    hoverlays.default .manageProgram hprogram, hload ⟨_, _⟩ _ rfl⟩

end TestCursor
