import TestCursor.Proofs.ConfigReading
import TestCursor.Proofs.Lookup
import TestCursor.Proofs.TomlGrammar

/-!
# A configuration among the tables of a project file

The table of the configuration gives what an object of the same settings gives, whatever tables
stand around it.

1. A document is put together table by table. What was put together so far holds the tables that
   were read, those of the tools inside one table of their own (`Holds`); the next table is added
   to it (`Closes.add`), and by induction all are (`Closes.addAll`).
2. So the table of the configuration is found exactly when it is among them
   (`ofProjectText?_of_spellsTables`), and its lines give their settings (`ofToml?_settingLines`).
3. The members of an object give the same settings in any order
   (`HasSettings.ofJson?_membersOf`), so the two files give one configuration
   (`readProject_agrees_readConfig`).
-/

namespace TestCursor

namespace Toml

/-! ## Tables of settings -/

/-- The lines of a table: keys with their settings. -/
abbrev Lines := List (String × Setting)

abbrev Tables := List (Heading × Lines)

/-- What the line of a key states. -/
def lineOf (line : String × Setting) : Statement := .assign [] line.1 line.2.toToml

/-- What a table states: its header and its lines. -/
def statementsOf (table : Heading × Lines) : List Statement :=
  .header table.1.parts table.1.name :: table.2.map lineOf

def entriesOf (lines : Lines) : Entries := lines.map fun line => (line.1, line.2.toToml)

/-- A document spells tables, in their order. -/
def SpellsTables (document : String) (tables : Tables) : Prop :=
  SpellsLines document.toList (tables.flatMap statementsOf)

/-- Tables that can stand in one document: their headings are distinct and none is that of all
tools, the keys of each are distinct, and all these words need no quotes. -/
structure AreTables (tables : Tables) : Prop where
  headings : (tables.map Prod.fst).Nodup
  inner : ∀ table ∈ tables, table.1 ≠ ⟨false, Config.toolsKey⟩
  keys : ∀ table ∈ tables, (table.2.map Prod.fst).Nodup
  bareHeadings : ∀ table ∈ tables, IsBare table.1.name.toList
  bareKeys : ∀ table ∈ tables, ∀ line ∈ table.2, IsBare line.1.toList

section Tables

variable {tables others : Tables} {lines : Lines} {heading : Heading} {key name : String}

theorem AreTables.of_perm (h : AreTables tables) (horder : tables.Perm others) :
    AreTables others where
  headings := (horder.map Prod.fst).nodup_iff.mp h.headings
  inner table htable := h.inner table (horder.mem_iff.mpr htable)
  keys table htable := h.keys table (horder.mem_iff.mpr htable)
  bareHeadings table htable := h.bareHeadings table (horder.mem_iff.mpr htable)
  bareKeys table htable := h.bareKeys table (horder.mem_iff.mpr htable)

theorem AreTables.exists_document (h : AreTables tables) :
    ∃ document, SpellsTables document tables := by
  have hlines : ∀ statement ∈ tables.flatMap statementsOf,
      ∃ front, SpellsStatement front statement := by
    intro statement hstatement
    obtain ⟨table, htable, hstatement⟩ := List.mem_flatMap.mp hstatement
    rcases List.mem_cons.mp hstatement with rfl | hline
    · exact ⟨_, .header (h.bareHeadings table htable)⟩
    · obtain ⟨line, hmem, rfl⟩ := List.mem_map.mp hline
      obtain ⟨value, hvalue⟩ := exists_spellsValue line.2
      have hnone : AreBlanks [] := List.forall_mem_nil _
      exact ⟨_, .assign (h.bareKeys table htable line hmem) hnone hnone hvalue⟩
  obtain ⟨text, htext⟩ := exists_spellsLines hlines
  exact ⟨String.ofList text, by rwa [SpellsTables, String.toList_ofList]⟩

end Tables

/-! ## Entries -/

section Entries

variable {entries inner changed : Entries} {key name : String} {value : Toml}

theorem lookup_putValue (key : String) (value : Toml) (entries : Entries) (name : String) :
    (putValue key value entries).lookup name =
      if name = key then some value else entries.lookup name := by
  induction entries with
  | nil => exact lookup_cons_eq_ite name
  | cons entry entries ih =>
    obtain ⟨other, old⟩ := entry
    rw [putValue]
    by_cases hother : other = key
    · subst hother
      rw [if_pos rfl, lookup_cons_eq_ite, lookup_cons_eq_ite]
      by_cases hname : name = other <;> simp [hname]
    · rw [if_neg hother, lookup_cons_eq_ite, lookup_cons_eq_ite, ih]
      by_cases hname : name = other
      · subst hname
        simp [hother]
      · rw [if_neg hname, if_neg hname]

/-- A key leads to the table of all tools, or to none while there are no tools. -/
def LeadsTo (entries : Entries) (inner : Entries) : Prop :=
  entries.lookup Config.toolsKey = some (.table .passed inner) ∨
    (entries.lookup Config.toolsKey = none ∧ inner = [])

theorem LeadsTo.lookAt? (h : LeadsTo entries inner) (look : Entries → Option Entries) :
    lookAt? look [Config.toolsKey] entries = look inner := by
  rw [Toml.lookAt?]
  rcases h with h | ⟨h, rfl⟩
  · rw [h]
    rfl
  · rw [h]
    rfl

theorem LeadsTo.changeAt? (h : LeadsTo entries inner) {change : Entries → Option Entries}
    (hchange : change inner = some changed) :
    ∃ entries', changeAt? change [Config.toolsKey] entries = some entries' ∧
      ∀ name, entries'.lookup name =
        if name = Config.toolsKey then some (.table .passed changed) else entries.lookup name := by
  rw [Toml.changeAt?]
  rcases h with h | ⟨h, rfl⟩
  · rw [h]
    refine ⟨putValue Config.toolsKey (.table .passed changed) entries, ?_, lookup_putValue _ _ _⟩
    simp only [Toml.changeAt?, hchange, Option.map_some]
  · rw [h]
    refine ⟨entries ++ [(Config.toolsKey, .table .passed changed)], ?_,
      lookup_append_of_not_mem (lookup_eq_none_iff_not_mem.mp h)⟩
    simp only [Toml.changeAt?, hchange, Option.map_some]

end Entries

/-! ## Documents put together -/

/-- The table that lines make under their header. -/
def tableOf (lines : Lines) : Toml := .table .header (entriesOf lines)

/-- What was put together holds tables: those of the tools inside one of their own. -/
structure Holds (root : Entries) (tables : Tables) : Prop where
  others : ∀ name, name ≠ Config.toolsKey →
    root.lookup name = (tables.lookup ⟨false, name⟩).map tableOf
  tools : ∃ inner, LeadsTo root inner ∧
    ∀ name, inner.lookup name = (tables.lookup ⟨true, name⟩).map tableOf

section Documents

variable {root : Entries} {done tables : Tables} {lines : Lines} {heading : Heading}
  {draft : Draft} {document : String}

theorem holds_nil : Holds [] [] where
  others _ _ := rfl
  tools := ⟨[], .inr ⟨rfl, rfl⟩, fun _ => rfl⟩

theorem Holds.lookAt? (h : Holds root done) (hnew : heading ∉ done.map Prod.fst)
    (hinner : heading ≠ ⟨false, Config.toolsKey⟩) :
    lookAt? (openTable? heading.name) heading.parts root = some [] := by
  have hnone : done.lookup heading = none := lookup_eq_none_iff_not_mem.mpr hnew
  obtain ⟨isTool, name⟩ := heading
  cases isTool with
  | false =>
    have hname : name ≠ Config.toolsKey := fun hname => hinner (hname ▸ rfl)
    show openTable? name root = some []
    rw [openTable?, h.others name hname, hnone]
    rfl
  | true =>
    obtain ⟨inner, hleads, hlookup⟩ := h.tools
    show Toml.lookAt? (openTable? name) [Config.toolsKey] root = some []
    rw [hleads.lookAt?, openTable?, hlookup name, hnone]
    rfl

/-- A new table that is finished is held with the others. -/
theorem Holds.changeAt? (h : Holds root done) (hnew : heading ∉ done.map Prod.fst)
    (hinner : heading ≠ ⟨false, Config.toolsKey⟩) (lines : Lines) :
    ∃ root', changeAt? (fun entries => some (closeTable heading.name (entriesOf lines) entries))
        heading.parts root = some root' ∧ Holds root' (done ++ [(heading, lines)]) := by
  have hlookup := fun other => @lookup_append_of_not_mem _ _ _ _ lines _ hnew other
  obtain ⟨inner, hleads, htools⟩ := h.tools
  obtain ⟨isTool, name⟩ := heading
  cases isTool with
  | false =>
    have hname : name ≠ Config.toolsKey := fun hname => hinner (hname ▸ rfl)
    have hput := lookup_putValue name (tableOf lines) root
    refine ⟨putValue name (tableOf lines) root, rfl, fun other hother => ?_, inner, ?_, ?_⟩
    · rw [hput, hlookup, h.others other hother]
      by_cases hsame : other = name <;> simp [hsame]
    · unfold LeadsTo
      rwa [hput, if_neg (Ne.symm hname)]
    · intro other
      rw [hlookup, htools other, if_neg (by simp)]
  | true =>
    have hput := lookup_putValue name (tableOf lines) inner
    obtain ⟨root', hchange, hroot'⟩ := @LeadsTo.changeAt? root inner _ hleads
      (fun entries => some (closeTable name (entriesOf lines) entries)) rfl
    refine ⟨root', hchange, fun other hother => ?_, putValue name (tableOf lines) inner, .inl ?_,
      fun other => ?_⟩
    · rw [hroot', if_neg hother, hlookup, h.others other hother, if_neg (by simp)]
    · rw [hroot', if_pos rfl]
      rfl
    · rw [hput, hlookup, htools other]
      by_cases hsame : other = name <;> simp [hsame]

theorem foldlM_lineOf (draft : Draft) (done lines : Lines) (htable : draft.table = entriesOf done)
    (hkeys : ((done ++ lines).map Prod.fst).Nodup) :
    (lines.map lineOf).foldlM Draft.add? draft =
      some { draft with table := entriesOf (done ++ lines) } := by
  induction lines generalizing draft done with
  | nil => rw [List.append_nil, ← htable]; rfl
  | cons line lines ih =>
    have hnew : line.1 ∉ done.map Prod.fst := not_mem_of_nodup_append_cons hkeys
    have hnone : (entriesOf done).lookup line.1 = none := by
      rw [entriesOf, lookup_map_snd, lookup_eq_none_iff_not_mem.mpr hnew]
      rfl
    have hnext : entriesOf done ++ [(line.1, line.2.toToml)] = entriesOf (done ++ [line]) := by
      simp [entriesOf]
    have hadd : draft.add? (lineOf line) =
        some { draft with table := entriesOf (done ++ [line]) } := by
      simp only [lineOf, Draft.add?, addDotted?, addValue?, if_true, htable, hnone, Option.map_some,
        hnext]
    have hlines := ih { draft with table := entriesOf (done ++ [line]) } (done ++ [line]) rfl
      (by rwa [List.append_assoc, List.singleton_append])
    rw [List.append_assoc, List.singleton_append] at hlines
    rw [List.map_cons, List.foldlM_cons, hadd]
    exact hlines

/-- A draft that is closed holds tables. -/
def Closes (draft : Draft) (tables : Tables) : Prop :=
  ∃ root, draft.close? = some root ∧ Holds root tables

theorem closes_start : Closes Draft.start [] := ⟨[], rfl, holds_nil⟩

/-- A further table is put together, and the draft then holds it with the others. -/
theorem Closes.add (h : Closes draft done) (hnew : heading ∉ done.map Prod.fst)
    (hinner : heading ≠ ⟨false, Config.toolsKey⟩) (hkeys : (lines.map Prod.fst).Nodup) :
    ∃ draft', (statementsOf (heading, lines)).foldlM Draft.add? draft = some draft' ∧
      Closes draft' (done ++ [(heading, lines)]) := by
  obtain ⟨root, hclose, hholds⟩ := h
  have hheader : draft.add? (.header heading.parts heading.name) =
      some ⟨root, some (heading.parts, heading.name), false, []⟩ := by
    simp only [Draft.add?, hclose, hholds.lookAt? hnew hinner, Option.map_some]
  have hlines :=
    foldlM_lineOf ⟨root, some (heading.parts, heading.name), false, []⟩ [] lines rfl hkeys
  obtain ⟨root', hchange, hholds'⟩ := hholds.changeAt? hnew hinner lines
  refine ⟨⟨root, some (heading.parts, heading.name), false, entriesOf lines⟩, ?_, root', hchange,
    hholds'⟩
  rw [statementsOf, List.foldlM_cons, hheader]
  exact hlines

/-- By induction all tables of a document are. -/
theorem Closes.addAll (h : Closes draft done) (htables : AreTables (done ++ tables)) :
    ∃ draft', (tables.flatMap statementsOf).foldlM Draft.add? draft = some draft' ∧
      Closes draft' (done ++ tables) := by
  induction tables generalizing draft done with
  | nil => exact ⟨draft, rfl, by rwa [List.append_nil]⟩
  | cons table tables ih =>
    have hmem : table ∈ done ++ table :: tables := List.mem_append_right _ List.mem_cons_self
    have hnew : table.1 ∉ done.map Prod.fst := not_mem_of_nodup_append_cons htables.headings
    obtain ⟨next, hnext, hcloses⟩ := h.add hnew (htables.inner table hmem) (htables.keys table hmem)
    have hassoc : done ++ table :: tables = (done ++ [table]) ++ tables := by simp
    rw [hassoc] at htables ⊢
    obtain ⟨last, hlast, hcloses⟩ := ih hcloses htables
    refine ⟨last, ?_, hcloses⟩
    rw [List.flatMap_cons, List.foldlM_append, hnext]
    exact hlast

theorem exists_document? (htables : AreTables tables) (h : SpellsTables document tables) :
    ∃ root, document? document = some root ∧ Holds root tables := by
  obtain ⟨draft, hdraft, root, hclose, hholds⟩ := closes_start.addAll htables
  refine ⟨root, ?_, hholds⟩
  rw [document?_of_spellsLines h, hdraft, Option.bind_some, hclose]

end Documents

end Toml

/-! ## The table of the configuration -/

open Toml

def configHeading : Heading := ⟨true, Config.toolKey⟩

def settingLines (given : List (ConfigKey × Setting)) : Lines :=
  given.map fun entry => (entry.1.name, entry.2)

def membersOf (given : List (ConfigKey × Setting)) : List (Option String × Json) :=
  given.map fun entry => (some entry.1.name, entry.2.toJson)

/-- Settings that a configuration can be given: each key at most once, with a setting that fits. -/
structure AreSettings (given : List (ConfigKey × Setting)) : Prop where
  keys : (given.map Prod.fst).Nodup
  fits : ∀ entry ∈ given, entry.2.Fits entry.1

/-- A configuration with some settings given, and the others at their defaults. -/
def Config.HasSettings (config : Config) (given : List (ConfigKey × Setting)) : Prop :=
  ∀ key, config.get key = (given.lookup key).getD (Config.default.get key)

section Settings

variable {given : List (ConfigKey × Setting)} {tables : Tables} {document : String}

theorem isBare_name (key : ConfigKey) : IsBare key.name.toList := by cases key <;> decide

theorem AreSettings.names (h : AreSettings given) :
    (given.map fun entry => entry.1.name).Nodup := by
  have hnodup := h.keys.map fun _ _ => ConfigKey.name_injective
  rwa [List.map_map] at hnodup

theorem AreSettings.fits_of_lookup (h : AreSettings given) {key : ConfigKey} {setting : Setting}
    (hlookup : given.lookup key = some setting) : setting.Fits key :=
  h.fits (key, setting) ((lookup_eq_some_iff_mem h.keys).mp hlookup)

theorem ofToml?_settingLines (h : AreSettings given) :
    ∃ config, Config.ofToml? (tableOf (settingLines given)) = some config ∧
      config.HasSettings given := by
  have hnodup : ConfigKey.all.Nodup := by decide
  obtain ⟨config, hset, hget⟩ :=
    Config.default.exists_setAll? (fun _ _ => h.fits_of_lookup) hnodup
  have hvalues : ConfigKey.names.map (fun name => (entriesOf (settingLines given)).lookup name) =
      ConfigKey.all.map fun key => (given.lookup key).map Setting.toToml := by
    rw [ConfigKey.names, List.map_map]
    refine List.map_congr_left fun key _ => ?_
    show (entriesOf (settingLines given)).lookup key.name = _
    rw [entriesOf, lookup_map_snd, settingLines, lookup_map_fst ConfigKey.name_injective]
  refine ⟨config, ?_, fun key => ?_⟩
  · rw [Config.ofToml?, tableOf, Toml.record?, hvalues]
    simp only [settingsOf?_map Setting.ofToml?_toToml, Option.bind_some]
    exact hset
  · rw [hget key, if_pos key.mem_all]

/-- A document gives what the table of the configuration gives, and none without that table. -/
theorem ofProjectText?_of_spellsTables (htables : AreTables tables)
    (h : SpellsTables document tables) :
    Config.ofProjectText? document =
      match tables.lookup configHeading with
      | none => some none
      | some lines => (Config.ofToml? (tableOf lines)).map some := by
  obtain ⟨root, hroot, hholds⟩ := exists_document? htables h
  obtain ⟨inner, hleads, hinner⟩ := hholds.tools
  have hconfig : inner.lookup Config.toolKey = (tables.lookup configHeading).map tableOf :=
    hinner Config.toolKey
  unfold Config.ofProjectText?
  rw [hroot]
  rcases hleads with hleads | ⟨hleads, rfl⟩
  · simp only [hleads, Config.ofTools?, Toml.record?, List.map_cons, List.map_nil, hconfig]
    cases tables.lookup configHeading <;> rfl
  · simp only [hleads]
    cases hlines : tables.lookup configHeading with
    | none => rfl
    | some lines => simp [hlines] at hconfig

theorem giveSettings_membersOf (h : AreSettings given) : GiveSettings (membersOf given) where
  texts := by
    intro member hmember
    obtain ⟨entry, -, rfl⟩ := List.mem_map.mp hmember
    rfl
  once key := Json.keyCount_members_le given h.names key.name
  typed key value hvalue := by
    obtain ⟨entry, hentry, heq⟩ := List.mem_map.mp hvalue
    obtain ⟨hname, rfl⟩ := Prod.mk.inj heq
    obtain rfl := ConfigKey.name_injective (Option.some.inj hname)
    exact ⟨entry.2, h.fits entry hentry, rfl⟩

theorem AreSettings.of_perm {order : List (ConfigKey × Setting)} (h : AreSettings given)
    (horder : order.Perm given) : AreSettings order where
  keys := (horder.map Prod.fst).nodup_iff.mpr h.keys
  fits entry hentry := h.fits entry (horder.mem_iff.mp hentry)

/-- The table of settings can stand among others. -/
theorem AreSettings.areTables {before after : Tables} (h : AreSettings given)
    (htables : AreTables (before ++ after))
    (hothers : configHeading ∉ (before ++ after).map Prod.fst) :
    AreTables (before ++ (configHeading, settingLines given) :: after) := by
  have hinner : configHeading ≠ ⟨false, Config.toolsKey⟩ := by decide
  have hbare : IsBare configHeading.name.toList := by decide
  have hkeys : ((settingLines given).map Prod.fst).Nodup := by
    rw [settingLines, List.map_map]
    exact h.names
  have hbareKeys : ∀ line ∈ settingLines given, IsBare line.1.toList := by
    intro line hline
    obtain ⟨entry, -, rfl⟩ := List.mem_map.mp hline
    exact isBare_name entry.1
  have hfront : AreTables ((configHeading, settingLines given) :: (before ++ after)) := by
    constructor
    · rw [List.map_cons]
      exact List.nodup_cons.mpr ⟨hothers, htables.headings⟩
    · exact List.forall_mem_cons.mpr ⟨hinner, htables.inner⟩
    · exact List.forall_mem_cons.mpr ⟨hkeys, htables.keys⟩
    · exact List.forall_mem_cons.mpr ⟨hbare, htables.bareHeadings⟩
    · exact List.forall_mem_cons.mpr ⟨hbareKeys, htables.bareKeys⟩
  exact hfront.of_perm List.perm_middle.symm

theorem Config.HasSettings.ofJson?_membersOf {config : Config}
    {order : List (ConfigKey × Setting)} (hconfig : config.HasSettings given)
    (h : AreSettings given) (horder : order.Perm given) :
    Config.ofJson? (.object (membersOf order)) = some config := by
  have horderSettings := h.of_perm horder
  obtain ⟨read, hread, hoverlays⟩ := Config.exists_ofJson? (giveSettings_membersOf horderSettings)
  have hsame : read = config := by
    refine Config.ext_get fun key => ?_
    rw [hconfig key, ← lookup_perm horder horderSettings.keys]
    cases hlookup : order.lookup key with
    | some setting =>
      have hmem := (lookup_eq_some_iff_mem horderSettings.keys).mp hlookup
      exact hoverlays.given key setting (List.mem_map_of_mem hmem)
    | none =>
      refine hoverlays.default key fun value hvalue => ?_
      obtain ⟨entry, hentry, heq⟩ := List.mem_map.mp hvalue
      obtain rfl := ConfigKey.name_injective (Option.some.inj (Prod.mk.inj heq).1)
      exact lookup_eq_none_iff_not_mem.mp hlookup (List.mem_map_of_mem hentry)
  rw [hread, hsame]

end Settings

namespace Site

theorem readProject_of_readBytes {site : Site} {path text : String} {config : Option Config}
    (hread : site.tree.readBytes site.cwd path = .ok text.toUTF8)
    (hconfig : Config.ofProjectText? text = some config) : site.readProject path = .ok config := by
  have htext := readText_eq_ok_iff.mpr (FileTree.readText_of_readBytes hread)
  unfold readProject
  simp only [htext, hconfig]

/-- A project file and a file of its own agree about a configuration. Settings that are written as
a table among others, in whatever spelling, and as an object, in whatever order, are loaded as one
configuration; the other tables alone are loaded as none. -/
theorem readProject_agrees_readConfig {given : List (ConfigKey × Setting)} {before after : Tables}
    (hgiven : AreSettings given) (htables : AreTables (before ++ after))
    (hothers : configHeading ∉ (before ++ after).map Prod.fst) :
    ∃ config : Config, config.HasSettings given ∧
      (∀ (order : List (ConfigKey × Setting)) (json : String), order.Perm given →
        Json.SpellsText json.toList (.object (membersOf order)) →
        ∀ (site : Site) (path : String), site.tree.readBytes site.cwd path = .ok json.toUTF8 →
          site.readConfig path = .ok config) ∧
      (∃ document, SpellsTables document (before ++ (configHeading, settingLines given) :: after)) ∧
      (∀ document, SpellsTables document (before ++ (configHeading, settingLines given) :: after) →
        ∀ (site : Site) (path : String), site.tree.readBytes site.cwd path = .ok document.toUTF8 →
          site.readProject path = .ok (some config)) ∧
      ∀ document, SpellsTables document (before ++ after) →
        ∀ (site : Site) (path : String), site.tree.readBytes site.cwd path = .ok document.toUTF8 →
          site.readProject path = .ok none := by
  obtain ⟨config, hconfig, hsettings⟩ := ofToml?_settingLines hgiven
  have hall : AreTables (before ++ (configHeading, settingLines given) :: after) :=
    hgiven.areTables htables hothers
  have hlines : (before ++ (configHeading, settingLines given) :: after).lookup configHeading =
      some (settingLines given) :=
    (lookup_eq_some_iff_mem hall.headings).mpr (List.mem_append_right _ List.mem_cons_self)
  refine ⟨config, hsettings, ?_, hall.exists_document, ?_, ?_⟩
  · intro order json horder hjson site path hread
    refine readConfig_of_readBytes hread ?_
    rw [Config.ofJsonText?, Json.parse?_of_spellsText hjson, Option.bind_some,
      hsettings.ofJson?_membersOf hgiven horder]
  · intro document hdocument site path hread
    refine readProject_of_readBytes hread ?_
    rw [ofProjectText?_of_spellsTables hall hdocument, hlines]
    simp only [hconfig, Option.map_some]
  · intro document hdocument site path hread
    refine readProject_of_readBytes hread ?_
    rw [ofProjectText?_of_spellsTables htables hdocument, lookup_eq_none_iff_not_mem.mpr hothers]

end Site

/-- Settings of which one text has a tab, a quote and an emoji. -/
def quotedSettings : List (ConfigKey × Setting) :=
  [(.flags, .text "\t\"😀"), (.djangoNose, .switch true)]

/-- The table of another tool. -/
def otherTables : Tables := [(⟨true, "black"⟩, [("preview", .switch false)])]

/-- The settings behind the other table, with escapes of all kinds and a comment. -/
def quotedDocument : String :=
  "[tool.black]\npreview=false\r\n\n[tool.django-runner] # tests\n\tflags = " ++
    "\"\\t\\u0022\\U0001f600\"\ndjango_nose = true"

/-- The settings as an object, in the other order. -/
def quotedJson : String := (Json.object (membersOf quotedSettings.reverse)).print

theorem spellsTables_quotedDocument :
    SpellsTables quotedDocument
      (otherTables ++ [(configHeading, settingLines quotedSettings)]) := by
  have hnone : AreBlanks [] := by decide
  have hspace : AreBlanks [' '] := by decide
  have htab : AreBlanks ['\t'] := by decide
  have hquote : IsHex "0022".toList ('"').toNat :=
    isHex_lowerHexDigits [0, 0, 2, 2] (by decide)
  have hemoji : IsHex "0001f600".toList ('😀').toNat :=
    isHex_lowerHexDigits [0, 0, 0, 1, 15, 6, 0, 0] (by decide)
  have hvalue : SpellsValue "\"\\t\\u0022\\U0001f600\"".toList (.text "\t\"😀") :=
    .text (.cons (.short (by decide : ('t', '\t') ∈ shortEscapes))
      (.cons (.fourDigits rfl hquote) (.cons (.eightDigits rfl hemoji) .nil)))
  have hother : SpellsStatement "[tool.black]".toList (.header ["tool"] "black") :=
    .header (by decide : IsBare (Heading.mk true "black").name.toList)
  have hpreview : SpellsStatement "preview=false".toList (lineOf ("preview", .switch false)) :=
    .assign (by decide : IsBare "preview".toList) hnone hnone .isFalse
  have hconfig : SpellsStatement "[tool.django-runner]".toList
      (.header configHeading.parts configHeading.name) :=
    .header (by decide : IsBare configHeading.name.toList)
  have hflags : SpellsStatement "flags = \"\\t\\u0022\\U0001f600\"".toList
      (lineOf ("flags", .text "\t\"😀")) :=
    .assign (isBare_name .flags) hspace hspace hvalue
  have hnose : SpellsStatement "django_nose = true".toList
      (lineOf ("django_nose", .switch true)) :=
    .assign (isBare_name .djangoNose) hspace hspace .isTrue
  have hcomment : IsComment "# tests".toList :=
    .text (List.all_eq_true.mp (by decide : " tests".toList.all isPrintable = true))
  -- From here on the lines are put in front of one another, from the last one upwards.
  have hlast := SpellsLines.statement hnone hnose (.mk hnone .missing .missing) .nil
  have htable := SpellsLines.statement hnone hconfig (.mk hspace hcomment (.lineFeed _))
    (.statement htab hflags (.mk hnone .missing (.lineFeed _)) hlast)
  have hlines := SpellsLines.statement hnone hother (.mk hnone .missing (.lineFeed _))
    (.statement hnone hpreview (.mk hnone .missing (.both _))
      (.blank (.mk hnone .missing (.lineFeed _)) htable))
  obtain ⟨text, htext, hspelled⟩ : ∃ text, text = quotedDocument.toList ∧ SpellsLines text
      ((otherTables ++ [(configHeading, settingLines quotedSettings)]).flatMap statementsOf) :=
    ⟨_, by decide +kernel, hlines⟩
  unfold SpellsTables
  rwa [← htext]

theorem readProject_of_quotedDocument :
    ∃ config : Config, config.get .flags = .text "\t\"😀" ∧ config.get .djangoNose = .switch true ∧
      config.get .manageProgram = .text "manage.py test" ∧
      Site.readProject ⟨.dir [("p.toml", .file quotedDocument.toUTF8 0o644)], []⟩ "p.toml" =
        .ok (some config) ∧
      Site.readConfig ⟨.dir [("c.json", .file quotedJson.toUTF8 0o644)], []⟩ "c.json" =
        .ok config := by
  have hsettings : AreSettings quotedSettings :=
    ⟨by decide, by simp [quotedSettings, Setting.Fits, ConfigKey.isSwitch]⟩
  have htables : AreTables (otherTables ++ []) :=
    ⟨by decide, by decide, by decide, by decide, by decide⟩
  obtain ⟨config, hconfig, hjson, -, hdocument, -⟩ :=
    Site.readProject_agrees_readConfig hsettings htables (by decide)
  refine ⟨config, hconfig .flags, hconfig .djangoNose, hconfig .manageProgram, ?_, ?_⟩
  · exact hdocument quotedDocument spellsTables_quotedDocument ⟨_, _⟩ _ rfl
  · have hplain : (Json.object (membersOf quotedSettings.reverse)).IsPlain :=
      ⟨rfl, Setting.isPlain_toJson _, rfl, Setting.isPlain_toJson _, trivial⟩
    exact hjson _ quotedJson (by decide) (Json.spellsText_print hplain) ⟨_, _⟩ _ rfl

end TestCursor
