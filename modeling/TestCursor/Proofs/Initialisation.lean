import TestCursor.Cli.Run
import TestCursor.Proofs.ConfigReading

/-!
# What initialising does to a configuration

A configuration is looked for in three files of a directory; initialising writes the first of
them, and keeps what is there only if that first one exists.

1. A configuration that was written is the one its file says (`readConfig_of_saveConfig`). Written
   to the first file it is the one the directory holds afterwards, whatever the other files say
   (`configIn_of_saveConfig`).
2. Initialising changes nothing when the first file exists or cannot be written, and otherwise
   writes it (`initialise_spec`).
3. So the configuration of a directory that has one is kept in exactly these cases, or when the
   new one says the same (`config_after_initialise`); one in the second file, or in the project
   file, is hidden (`initialise_hides_config`).
-/

namespace TestCursor

namespace Site

/-- The file of a directory whose configuration counts first. -/
def firstConfigPath (dir : String) : String := joinPath dir (configFileNames.headD "")

/-- A configuration in the first file counts, whatever the other files say. -/
theorem configIn_of_readConfig {site : Site} {config : Config} {dir : String}
    (hfile : site.isFile (firstConfigPath dir) = true)
    (hread : site.readConfig (firstConfigPath dir) = .ok config) :
    site.configIn dir = .ok (some (config, firstConfigPath dir)) := by
  have hfirst : firstConfigPath dir = joinPath dir ".django-runner.json" := rfl
  rw [hfirst] at hfile hread ⊢
  unfold configIn configFileNames configAmong
  simp only [hfile, hread, if_true]

/-- A configuration that was written is in its file afterwards; a device keeps nothing of it. -/
theorem readConfig_of_saveConfig {site : Site} {config : Config} {path : String} {tree : FileTree}
    (hsave : site.saveConfig config path = .ok tree) :
    (Site.readConfig ⟨tree, site.cwd⟩ path = .ok config ∧ Site.isFile ⟨tree, site.cwd⟩ path) ∨
      ∃ device, site.tree.node? site.cwd path = some (.device device) := by
  rcases FileTree.readText_of_writeText (writeText_eq_ok_iff.mp hsave) with
    ⟨hread, hfile⟩ | ⟨-, hdevice⟩
  · have hlater : Site.readText ⟨tree, site.cwd⟩ path = .ok _ := readText_eq_ok_iff.mpr hread
    exact .inl ⟨readConfig_of_readText hlater config.ofJsonText?_toJsonText, hfile⟩
  · exact .inr hdevice

/-- A configuration written to the first file, where nothing was, is in effect afterwards. -/
theorem configIn_of_saveConfig (site : Site) {config : Config} {dir : String} {tree : FileTree}
    (hnew : site.doesExist (firstConfigPath dir) = false)
    (hsave : site.saveConfig config (firstConfigPath dir) = .ok tree) :
    Site.configIn ⟨tree, site.cwd⟩ dir = .ok (some (config, firstConfigPath dir)) := by
  rcases readConfig_of_saveConfig hsave with ⟨hread, hfile⟩ | ⟨device, hnode⟩
  · exact configIn_of_readConfig hfile hread
  · unfold doesExist FileTree.existsAt at hnew
    simp [hnode] at hnew

end Site

namespace Cli

/-- The configuration that initialising a directory writes. -/
def initialConfig (site : Site) (place : Location) : Config :=
  (newConfig (ScriptSearch.find? (place.getLast?.getD "")
    ((site.tree.get? place).getD FileTree.empty))).1

section Initialise

variable {site : Site} {dir : Option String} {place : Location}
  (hplace : site.tree.realPlace site.cwd (dir.getD site.cwdPath) = .ok place)

include hplace

/-- A first file that exists is left as it is, and so are all others. -/
theorem initialise_of_doesExist
    (hold : site.doesExist (Site.firstConfigPath (FileTree.pathOf place)) = true) :
    (initialise site dir false).tree = site.tree := by
  unfold initialise
  split
  · rfl
  · next found hfound =>
    obtain rfl := Except.ok.inj (hplace.symm.trans hfound)
    exact congrArg Outcome.tree (if_pos (by rw [Bool.and_eq_true]; exact ⟨hold, rfl⟩))

/-- Where nothing is to be kept the first file is written, or no file changes. -/
theorem initialise_of_not_kept {force : Bool}
    (hnew : (site.doesExist (Site.firstConfigPath (FileTree.pathOf place)) && !force) = false) :
    ((initialise site dir force).tree = site.tree ∧ (initialise site dir force).code = 1) ∨
      (site.saveConfig (initialConfig site place)
          (Site.firstConfigPath (FileTree.pathOf place)) = .ok (initialise site dir force).tree ∧
        (initialise site dir force).code = 0) := by
  have hguard : ¬((site.doesExist (joinPath (FileTree.pathOf place) (configFileNames.headD "")) &&
      !force) = true) := by
    rw [← Site.firstConfigPath, hnew]
    exact Bool.false_ne_true
  unfold initialise
  split
  · next e hfound => cases hplace.symm.trans hfound
  · next found hfound =>
    obtain rfl := Except.ok.inj (hplace.symm.trans hfound)
    dsimp only
    rw [if_neg hguard]
    split
    · exact .inl ⟨rfl, rfl⟩
    · next tree hsave => exact .inr ⟨hsave, rfl⟩

/-- Initialising changes no file when the first file exists or cannot be written; otherwise the
new configuration is in effect. -/
theorem initialise_spec :
    let first := Site.firstConfigPath (FileTree.pathOf place)
    let outcome := initialise site dir false
    ((site.doesExist first = true ∨ outcome.code = 1) ∧ outcome.tree = site.tree) ∨
      (¬(site.doesExist first = true ∨ outcome.code = 1) ∧
        Site.configIn ⟨outcome.tree, site.cwd⟩ (FileTree.pathOf place) =
          .ok (some (initialConfig site place, first))) := by
  intro first outcome
  cases hexists : site.doesExist first with
  | true => exact .inl ⟨.inl rfl, initialise_of_doesExist hplace hexists⟩
  | false =>
    have hnew : (site.doesExist first && !false) = false := by rw [hexists, Bool.false_and]
    rcases initialise_of_not_kept hplace hnew with ⟨hsame, hcode⟩ | ⟨hsave, hcode⟩
    · exact .inl ⟨.inr hcode, hsame⟩
    · have hdone : ¬outcome.code = 1 := fun hone => absurd (hcode.symm.trans hone) (by decide)
      exact .inr ⟨not_or.mpr ⟨Bool.false_ne_true, hdone⟩,
        Site.configIn_of_saveConfig site hexists hsave⟩

/-- Initialising keeps the configuration of a directory exactly when the first file exists or
cannot be written, or when the configuration is the one that would be written. Otherwise the new
one is in effect, and hides the old one. -/
theorem config_after_initialise {config : Config} {source : String}
    (hfound : site.configIn (FileTree.pathOf place) = .ok (some (config, source))) :
    let root := FileTree.pathOf place
    let first := joinPath root ".django-runner.json"
    let outcome := initialise site dir false
    let after : Site := ⟨outcome.tree, site.cwd⟩
    (site.doesExist first = true ∨ outcome.code = 1 → outcome.tree = site.tree) ∧
      (¬(site.doesExist first = true ∨ outcome.code = 1) →
        after.configIn root = .ok (some (initialConfig site place, first))) ∧
      ((∃ kept, after.configIn root = .ok (some (config, kept))) ↔
        (site.doesExist first = true ∨ outcome.code = 1) ∨ config = initialConfig site place) := by
  intro root first outcome after
  rcases initialise_spec hplace with ⟨hidle, hsame⟩ | ⟨hwrites, hnew⟩
  · have hafter : after = site := congrArg (Site.mk · site.cwd) hsame
    refine ⟨fun _ => hsame, fun hwrites => absurd hidle hwrites, iff_of_true ?_ (.inl hidle)⟩
    exact ⟨source, hafter ▸ hfound⟩
  · refine ⟨fun hidle => absurd hidle hwrites, fun _ => hnew, fun ⟨kept, hkept⟩ => ?_, ?_⟩
    · have hboth := Option.some.inj (Except.ok.inj (hkept.symm.trans hnew))
      exact .inr (Prod.mk.inj hboth).1
    · rintro (hidle | rfl)
      · exact absurd hidle hwrites
      · exact ⟨first, hnew⟩

end Initialise

/-- A workspace at `/work` with a configuration in the second file. -/
def secondFileSite : Site :=
  ⟨.dir [("work", .dir [("django-runner.json",
    .file "\x7b\"flags\": \"--keepdb\"\x7d".toUTF8 0o644)])], ["work"]⟩

/-- The configuration in the second file. -/
def secondFileConfig : Config := { Config.default with flags := "--keepdb" }

theorem realPlace_secondFileSite : secondFileSite.tree.realPlace secondFileSite.cwd
    (none.getD secondFileSite.cwdPath) = .ok ["work"] := by
  decide +kernel

theorem configIn_secondFileSite : secondFileSite.configIn (FileTree.pathOf ["work"]) =
    .ok (some (secondFileConfig, "/work/django-runner.json")) := by
  decide +kernel

theorem initialConfig_secondFileSite : initialConfig secondFileSite ["work"] = Config.default := by
  decide +kernel

/-- The configuration in the second file is hidden by a new one in the first. -/
theorem config_after_initialise_secondFileSite :
    secondFileSite.configIn (FileTree.pathOf ["work"]) =
        .ok (some (secondFileConfig, "/work/django-runner.json")) ∧
      Site.configIn ⟨(initialise secondFileSite none false).tree, ["work"]⟩
          (FileTree.pathOf ["work"]) =
        .ok (some (Config.default, "/work/.django-runner.json")) := by
  have hafter := config_after_initialise realPlace_secondFileSite configIn_secondFileSite
  have hfirst : joinPath (FileTree.pathOf ["work"]) ".django-runner.json" =
      "/work/.django-runner.json" := by decide +kernel
  simp only [initialConfig_secondFileSite, hfirst] at hafter
  exact ⟨configIn_secondFileSite, hafter.2.1 (by decide +kernel)⟩

/-- Not every configuration that is in effect in a directory is kept when it is initialised. -/
theorem initialise_hides_config :
    ¬∀ (site : Site) (dir : Option String) (place : Location) (config : Config) (source : String),
      site.tree.realPlace site.cwd (dir.getD site.cwdPath) = .ok place →
      site.configIn (FileTree.pathOf place) = .ok (some (config, source)) →
      ∃ kept, Site.configIn ⟨(initialise site dir false).tree, site.cwd⟩
        (FileTree.pathOf place) = .ok (some (config, kept)) := by
  intro hkeeps
  obtain ⟨kept, hkept⟩ := hkeeps secondFileSite none ["work"] secondFileConfig _
    realPlace_secondFileSite configIn_secondFileSite
  rcases initialise_spec realPlace_secondFileSite with ⟨hidle, -⟩ | ⟨-, hnew⟩
  · exact absurd hidle (by decide +kernel)
  · have hboth := Option.some.inj (Except.ok.inj (hkept.symm.trans hnew))
    exact absurd ((Prod.mk.inj hboth).1.trans initialConfig_secondFileSite) (by decide)

end Cli

end TestCursor
