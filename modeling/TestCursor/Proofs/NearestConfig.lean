import TestCursor.Proofs.Ancestors
import TestCursor.Workspace

/-!
# The nearest directory with a configuration decides

Each directory from the start of a search upwards is a hit, with a configuration or with an error,
or says nothing. What lies above the first hit does not matter.

1. A path names a regular file with some content, or none (`content?`). What a file says follows
   from its content (`says_readConfig`, `says_readProject`).
2. A directory is a hit or silent by the contents of three files, of which the first that exists
   counts (`hit_or_isSilent`, `configIn_of_hit`, `configIn_of_isSilent`). So two sites with the
   same three contents agree about it (`Hit.congr`, `IsSilent.congr`).
3. By induction on the directories below it, the first hit is what the search finds
   (`firstConfigured_of_nearest`); without one the management script decides
   (`workspaceOf_nearest_hit`).
-/

namespace TestCursor

namespace Site

/-- The content of the regular file that a path names. A directory, a device and a link to nothing
have none. -/
def content? (site : Site) (path : String) : Option ByteArray :=
  match site.tree.node? site.cwd path with
  | some (.file content _) => some content
  | _ => none

section Content

variable {site : Site} {path : String} {content : ByteArray}

theorem isFile_eq : site.isFile path = (site.content? path).isSome := by
  unfold isFile FileTree.isFileAt content?
  cases site.tree.node? site.cwd path with
  | none => rfl
  | some node => cases node <;> rfl

theorem readBytes_of_content? (h : site.content? path = some content) :
    site.tree.readBytes site.cwd path = .ok content := by
  unfold content? at h
  split at h
  · next found mode hnode =>
    obtain rfl := Option.some.inj h
    unfold FileTree.node? at hnode
    unfold FileTree.readBytes
    cases hplace : site.tree.locate site.cwd path with
    | error e => simp [hplace] at hnode
    | ok place =>
      rw [hplace] at hnode
      simp only at hnode
      simp only [hnode]
  · cases h

end Content

end Site

/-! ## What a file says -/

/-- What a file of its own says about the configuration: a text that gives one, or an error. -/
inductive ConfigSays (path : String) (content : ByteArray) : Except Error Config → Prop
  | notText (h : String.fromUTF8? content = none) :
      ConfigSays path content (.error (.ofFile .notText))
  | malformed {text : String} (htext : String.fromUTF8? content = some text)
      (h : Config.ofJsonText? text = none) :
      ConfigSays path content (.error (.malformed path "not a configuration"))
  | gives {text : String} {config : Config} (htext : String.fromUTF8? content = some text)
      (h : Config.ofJsonText? text = some config) : ConfigSays path content (.ok config)

/-- What a project file says about the configuration: a text that gives one, or none, or an
error. -/
inductive ProjectSays (path : String) (content : ByteArray) : Except Error (Option Config) → Prop
  | notText (h : String.fromUTF8? content = none) :
      ProjectSays path content (.error (.ofFile .notText))
  | malformed {text : String} (htext : String.fromUTF8? content = some text)
      (h : Config.ofProjectText? text = none) :
      ProjectSays path content (.error (.malformed path "not a project file"))
  | gives {text : String} {config : Option Config} (htext : String.fromUTF8? content = some text)
      (h : Config.ofProjectText? text = some config) : ProjectSays path content (.ok config)

theorem ConfigSays.unique {path : String} {content : ByteArray} {said other : Except Error Config}
    (h : ConfigSays path content said) (hother : ConfigSays path content other) :
    said = other := by
  cases h <;> cases hother <;> simp_all

theorem ProjectSays.unique {path : String} {content : ByteArray}
    {said other : Except Error (Option Config)} (h : ProjectSays path content said)
    (hother : ProjectSays path content other) : said = other := by
  cases h <;> cases hother <;> simp_all

namespace Site

section Says

variable {site : Site} {path : String} {content : ByteArray}

theorem readText_of_content? (h : site.content? path = some content) :
    site.readText path =
      match String.fromUTF8? content with
      | some text => .ok text
      | none => .error (.ofFile .notText) := by
  unfold readText FileTree.readText
  rw [readBytes_of_content? h]
  simp only
  cases String.fromUTF8? content <;> rfl

theorem says_readConfig (h : site.content? path = some content) :
    ConfigSays path content (site.readConfig path) := by
  unfold readConfig
  rw [readText_of_content? h]
  cases htext : String.fromUTF8? content with
  | none => exact .notText htext
  | some text =>
    cases hconfig : Config.ofJsonText? text with
    | none => simpa only [hconfig] using ConfigSays.malformed htext hconfig
    | some config => simpa only [hconfig] using ConfigSays.gives htext hconfig

theorem says_readProject (h : site.content? path = some content) :
    ProjectSays path content (site.readProject path) := by
  unfold readProject
  rw [readText_of_content? h]
  cases htext : String.fromUTF8? content with
  | none => exact .notText htext
  | some text =>
    cases hconfig : Config.ofProjectText? text with
    | none => simpa only [hconfig] using ProjectSays.malformed htext hconfig
    | some config => simpa only [hconfig] using ProjectSays.gives htext hconfig

end Says

/-! ## What a directory says -/

/-- The files of a directory that can hold a configuration, the one that counts first in front. -/
def candidateNames : List String := [".django-runner.json", "django-runner.json", "pyproject.toml"]

/-- A directory is a hit: with the configuration and the file that it came from, or with an
error. -/
inductive Hit (site : Site) (dir : String) : Except Error (Config × String) → Prop
  | first {content : ByteArray} {said : Except Error Config}
      (hfile : site.content? (joinPath dir ".django-runner.json") = some content)
      (hsaid : ConfigSays (joinPath dir ".django-runner.json") content said) :
      Hit site dir (said.map fun config => (config, joinPath dir ".django-runner.json"))
  | second {content : ByteArray} {said : Except Error Config}
      (hfirst : site.content? (joinPath dir ".django-runner.json") = none)
      (hfile : site.content? (joinPath dir "django-runner.json") = some content)
      (hsaid : ConfigSays (joinPath dir "django-runner.json") content said) :
      Hit site dir (said.map fun config => (config, joinPath dir "django-runner.json"))
  | project {content : ByteArray} {config : Config}
      (hfirst : site.content? (joinPath dir ".django-runner.json") = none)
      (hsecond : site.content? (joinPath dir "django-runner.json") = none)
      (hfile : site.content? (joinPath dir "pyproject.toml") = some content)
      (hsaid : ProjectSays (joinPath dir "pyproject.toml") content (.ok (some config))) :
      Hit site dir (.ok (config, joinPath dir "pyproject.toml"))
  | spoiledProject {content : ByteArray} {e : Error}
      (hfirst : site.content? (joinPath dir ".django-runner.json") = none)
      (hsecond : site.content? (joinPath dir "django-runner.json") = none)
      (hfile : site.content? (joinPath dir "pyproject.toml") = some content)
      (hsaid : ProjectSays (joinPath dir "pyproject.toml") content (.error e)) :
      Hit site dir (.error e)

/-- A directory is no hit: it lacks the files of a configuration, and its project file, if it has
one, holds none. -/
structure IsSilent (site : Site) (dir : String) : Prop where
  first : site.content? (joinPath dir ".django-runner.json") = none
  second : site.content? (joinPath dir "django-runner.json") = none
  project : ∀ content, site.content? (joinPath dir "pyproject.toml") = some content →
    ProjectSays (joinPath dir "pyproject.toml") content (.ok none)

section Directory

variable {site other : Site} {dir : String} {outcome : Except Error (Config × String)}

theorem hit_or_isSilent (site : Site) (dir : String) :
    (∃ outcome, site.Hit dir outcome) ∨ site.IsSilent dir := by
  cases hfirst : site.content? (joinPath dir ".django-runner.json") with
  | some content => exact .inl ⟨_, .first hfirst (says_readConfig hfirst)⟩
  | none =>
    cases hsecond : site.content? (joinPath dir "django-runner.json") with
    | some content => exact .inl ⟨_, .second hfirst hsecond (says_readConfig hsecond)⟩
    | none =>
      cases hproject : site.content? (joinPath dir "pyproject.toml") with
      | none => exact .inr ⟨hfirst, hsecond, fun content h => by cases hproject.symm.trans h⟩
      | some content =>
        have hsaid := says_readProject hproject
        cases hread : site.readProject (joinPath dir "pyproject.toml") with
        | error e => exact .inl ⟨_, .spoiledProject hfirst hsecond hproject (hread ▸ hsaid)⟩
        | ok config =>
          rw [hread] at hsaid
          cases config with
          | some config => exact .inl ⟨_, .project hfirst hsecond hproject hsaid⟩
          | none =>
            refine .inr ⟨hfirst, hsecond, fun found hfound => ?_⟩
            obtain rfl := Option.some.inj (hproject.symm.trans hfound)
            exact hsaid

theorem configIn_of_first {content : ByteArray}
    (h : site.content? (joinPath dir ".django-runner.json") = some content) :
    site.configIn dir = (site.readConfig (joinPath dir ".django-runner.json")).map fun config =>
      some (config, joinPath dir ".django-runner.json") := by
  unfold configIn configFileNames configAmong
  simp only [isFile_eq, h, Option.isSome_some, if_true]
  cases site.readConfig (joinPath dir ".django-runner.json") <;> rfl

theorem configIn_of_second {content : ByteArray}
    (hfirst : site.content? (joinPath dir ".django-runner.json") = none)
    (h : site.content? (joinPath dir "django-runner.json") = some content) :
    site.configIn dir = (site.readConfig (joinPath dir "django-runner.json")).map fun config =>
      some (config, joinPath dir "django-runner.json") := by
  unfold configIn configFileNames configAmong configAmong
  simp only [isFile_eq, hfirst, h, Option.isSome_none, Option.isSome_some, Bool.false_eq_true,
    if_false, if_true]
  cases site.readConfig (joinPath dir "django-runner.json") <;> rfl

theorem configIn_of_project {content : ByteArray}
    (hfirst : site.content? (joinPath dir ".django-runner.json") = none)
    (hsecond : site.content? (joinPath dir "django-runner.json") = none)
    (h : site.content? (joinPath dir "pyproject.toml") = some content) :
    site.configIn dir = (site.readProject (joinPath dir "pyproject.toml")).map fun config =>
      config.map fun config => (config, joinPath dir "pyproject.toml") := by
  unfold configIn configFileNames configAmong configAmong configAmong configInProject
    projectFileName
  simp only [isFile_eq, hfirst, hsecond, h, Option.isSome_none, Option.isSome_some,
    Bool.false_eq_true, if_false, if_true]
  rcases site.readProject (joinPath dir "pyproject.toml") with e | _ | config <;> rfl

theorem configIn_of_nothing (hfirst : site.content? (joinPath dir ".django-runner.json") = none)
    (hsecond : site.content? (joinPath dir "django-runner.json") = none)
    (h : site.content? (joinPath dir "pyproject.toml") = none) :
    site.configIn dir = .ok none := by
  unfold configIn configFileNames configAmong configAmong configAmong configInProject
    projectFileName
  simp only [isFile_eq, hfirst, hsecond, h, Option.isSome_none, Bool.false_eq_true, if_false]

theorem configIn_of_hit (h : site.Hit dir outcome) : site.configIn dir = outcome.map some := by
  cases h with
  | @first _ said hfile hsaid =>
    rw [configIn_of_first hfile, (says_readConfig hfile).unique hsaid]
    cases said <;> rfl
  | @second _ said hfirst hfile hsaid =>
    rw [configIn_of_second hfirst hfile, (says_readConfig hfile).unique hsaid]
    cases said <;> rfl
  | project hfirst hsecond hfile hsaid =>
    rw [configIn_of_project hfirst hsecond hfile, (says_readProject hfile).unique hsaid]
    rfl
  | spoiledProject hfirst hsecond hfile hsaid =>
    rw [configIn_of_project hfirst hsecond hfile, (says_readProject hfile).unique hsaid]
    rfl

theorem configIn_of_isSilent (h : site.IsSilent dir) : site.configIn dir = .ok none := by
  cases hproject : site.content? (joinPath dir "pyproject.toml") with
  | none => exact configIn_of_nothing h.first h.second hproject
  | some content =>
    rw [configIn_of_project h.first h.second hproject,
      (says_readProject hproject).unique (h.project content hproject)]
    rfl

/-- No directory is a hit in two ways, and none that is silent is a hit. -/
theorem Hit.unique {outcome' : Except Error (Config × String)} (h : site.Hit dir outcome)
    (h' : site.Hit dir outcome') : outcome = outcome' := by
  have hsame := (configIn_of_hit h).symm.trans (configIn_of_hit h')
  cases outcome <;> cases outcome' <;> simp_all [Except.map]

theorem IsSilent.not_hit (h : site.IsSilent dir) : ¬site.Hit dir outcome := by
  intro hhit
  have hsame := (configIn_of_hit hhit).symm.trans (configIn_of_isSilent h)
  cases outcome <;> simp [Except.map] at hsame

theorem isSilent_of_configIn (h : site.configIn dir = .ok none) : site.IsSilent dir := by
  obtain ⟨outcome, hhit⟩ | hsilent := hit_or_isSilent site dir
  · have hsame := (configIn_of_hit hhit).symm.trans h
    cases outcome <;> simp [Except.map] at hsame
  · exact hsilent

theorem hit_of_configIn (h : site.configIn dir = outcome.map some) : site.Hit dir outcome := by
  obtain ⟨outcome', hhit⟩ | hsilent := hit_or_isSilent site dir
  · have hsame := (configIn_of_hit hhit).symm.trans h
    obtain rfl : outcome' = outcome := by
      cases outcome' <;> cases outcome <;> simp_all [Except.map]
    exact hhit
  · have hsame := (configIn_of_isSilent hsilent).symm.trans h
    cases outcome <;> simp [Except.map] at hsame

/-- Sites agree about a directory: its candidates have the same contents. -/
def AgreeAt (site other : Site) (dir : String) : Prop :=
  ∀ name ∈ candidateNames, other.content? (joinPath dir name) = site.content? (joinPath dir name)

theorem Hit.congr (h : site.Hit dir outcome) (hagree : site.AgreeAt other dir) :
    other.Hit dir outcome := by
  simp only [AgreeAt, candidateNames, List.forall_mem_cons] at hagree
  obtain ⟨hone, htwo, hthree, -⟩ := hagree
  cases h with
  | first hfile hsaid => exact .first (hone.trans hfile) hsaid
  | second hfirst hfile hsaid => exact .second (hone.trans hfirst) (htwo.trans hfile) hsaid
  | project hfirst hsecond hfile hsaid =>
    exact .project (hone.trans hfirst) (htwo.trans hsecond) (hthree.trans hfile) hsaid
  | spoiledProject hfirst hsecond hfile hsaid =>
    exact .spoiledProject (hone.trans hfirst) (htwo.trans hsecond) (hthree.trans hfile) hsaid

theorem IsSilent.congr (h : site.IsSilent dir) (hagree : site.AgreeAt other dir) :
    other.IsSilent dir := by
  simp only [AgreeAt, candidateNames, List.forall_mem_cons] at hagree
  obtain ⟨hone, htwo, hthree, -⟩ := hagree
  exact ⟨hone.trans h.first, htwo.trans h.second, fun content hfile =>
    h.project content (hthree.symm.trans hfile)⟩

end Directory

/-! ## What the search finds -/

/-- The workspace at a directory that is a hit. -/
def workspaceAt (dir : String) (outcome : Except Error (Config × String)) :
    Except Error Workspace :=
  outcome.map fun found => ⟨found.1, some found.2, dir⟩

section Search

variable {site other : Site} {path otherPath fallback otherFallback start dir root : String}
  {before after dirs : List String} {outcome : Except Error (Config × String)}

/-- The first hit is what is found, whatever lies above it. -/
theorem firstConfigured_of_nearest (hbefore : ∀ below ∈ before, site.IsSilent below)
    (hhit : site.Hit dir outcome) :
    site.firstConfigured (before ++ dir :: after) = (workspaceAt dir outcome).map some := by
  induction before with
  | nil =>
    rw [List.nil_append, firstConfigured, configIn_of_hit hhit]
    cases outcome <;> rfl
  | cons below before ih =>
    obtain ⟨hbelow, hbefore⟩ := List.forall_mem_cons.mp hbefore
    rw [List.cons_append, firstConfigured, configIn_of_isSilent hbelow]
    exact ih hbefore

theorem firstConfigured_of_isSilent (h : ∀ dir ∈ dirs, site.IsSilent dir) :
    site.firstConfigured dirs = .ok none := by
  induction dirs with
  | nil => rfl
  | cons dir dirs ih =>
    obtain ⟨hdir, hdirs⟩ := List.forall_mem_cons.mp h
    rw [firstConfigured, configIn_of_isSilent hdir]
    exact ih hdirs

theorem isSilent_of_firstConfigured (h : site.firstConfigured dirs = .ok none) :
    ∀ dir ∈ dirs, site.IsSilent dir := by
  induction dirs with
  | nil => simp
  | cons dir dirs ih =>
    rw [firstConfigured] at h
    split at h
    · cases h
    · cases h
    · next hdir => exact List.forall_mem_cons.mpr ⟨isSilent_of_configIn hdir, ih h⟩

theorem root_of_firstConfigured {workspace : Workspace}
    (h : site.firstConfigured dirs = .ok (some workspace)) : workspace.root ∈ dirs := by
  induction dirs with
  | nil => cases h
  | cons dir dirs ih =>
    rw [firstConfigured] at h
    split at h
    · cases h
    · obtain rfl := Option.some.inj (Except.ok.inj h)
      exact List.mem_cons_self
    · exact List.mem_cons_of_mem _ (ih h)

theorem workspaceOf_of_nearest
    (hdirs : ancestorsOf (site.searchStart path) = before ++ dir :: after)
    (hbefore : ∀ below ∈ before, site.IsSilent below) (hhit : site.Hit dir outcome) :
    site.workspaceOf path fallback = workspaceAt dir outcome := by
  unfold workspaceOf
  rw [hdirs, firstConfigured_of_nearest hbefore hhit]
  cases outcome <;> rfl

/-- Sites that agree from the start up to the first hit have the same workspace. -/
theorem workspaceOf_congr_of_nearest
    (hdirs : ancestorsOf (site.searchStart path) = before ++ dir :: after)
    (hbefore : ∀ below ∈ before, site.IsSilent below) (hhit : site.Hit dir outcome)
    (hstart : other.searchStart otherPath = site.searchStart path)
    (hagree : ∀ below ∈ before ++ [dir], site.AgreeAt other below) :
    other.workspaceOf otherPath otherFallback = site.workspaceOf path fallback := by
  obtain ⟨hagreeBefore, hagreeDir⟩ := List.forall_mem_append.mp hagree
  have hbefore' : ∀ below ∈ before, other.IsSilent below := fun below hbelow =>
    (hbefore below hbelow).congr (hagreeBefore below hbelow)
  have hhit' : other.Hit dir outcome := hhit.congr (hagreeDir dir List.mem_cons_self)
  rw [workspaceOf_of_nearest hdirs hbefore hhit,
    workspaceOf_of_nearest (hstart ▸ hdirs) hbefore' hhit']

theorem workspaceOf_of_isSilent
    (h : ∀ dir ∈ ancestorsOf (site.searchStart path), site.IsSilent dir) :
    site.workspaceOf path fallback =
      .ok ⟨Config.default, none, (site.scriptRoot? (site.searchStart path)).getD fallback⟩ := by
  unfold workspaceOf
  rw [firstConfigured_of_isSilent h]

theorem scriptRoot?_of_nearest {content : ByteArray}
    (hdirs : ancestorsOf start = before ++ root :: after)
    (hbefore : ∀ below ∈ before, site.content? (joinPath below "manage.py") = none)
    (hroot : site.content? (joinPath root "manage.py") = some content) :
    site.scriptRoot? start = some root := by
  unfold scriptRoot?
  rw [hdirs, List.find?_eq_some_iff_append]
  refine ⟨by simp [isFile_eq, scriptName, hroot], before, after, rfl, fun below hbelow => ?_⟩
  simp [isFile_eq, scriptName, hbefore below hbelow]

theorem scriptRoot?_eq_none
    (h : ∀ dir ∈ ancestorsOf start, site.content? (joinPath dir "manage.py") = none) :
    site.scriptRoot? start = none := by
  unfold scriptRoot?
  rw [List.find?_eq_none]
  intro dir hdir
  simp [isFile_eq, scriptName, h dir hdir]

/-- The nearest hit decides. Of the directories from the start upwards each is a hit or silent, and
the first hit gives the workspace or the error; the caller's directory and what lies above the hit
make no difference. Without a hit the configuration is the default one, and the root is the nearest
directory with the management script or else the caller's directory. -/
theorem workspaceOf_nearest_hit (site : Site) (path fallback : String) :
    let dirs := ancestorsOf (site.searchStart path)
    Upwards (site.searchStart path) dirs ∧
      (∀ dir, (∃ outcome, site.Hit dir outcome) ↔ ¬site.IsSilent dir) ∧
      (∀ before dir after outcome, dirs = before ++ dir :: after →
        (∀ below ∈ before, site.IsSilent below) → site.Hit dir outcome →
          site.workspaceOf path fallback = workspaceAt dir outcome ∧
          ∀ (other : Site) (otherPath otherFallback : String),
            other.searchStart otherPath = site.searchStart path →
            (∀ below ∈ before ++ [dir], site.AgreeAt other below) →
            other.workspaceOf otherPath otherFallback = site.workspaceOf path fallback) ∧
      ((∀ dir ∈ dirs, site.IsSilent dir) →
        (∀ before root after content, dirs = before ++ root :: after →
          (∀ below ∈ before, site.content? (joinPath below "manage.py") = none) →
          site.content? (joinPath root "manage.py") = some content →
          site.workspaceOf path fallback = .ok ⟨Config.default, none, root⟩) ∧
        ((∀ dir ∈ dirs, site.content? (joinPath dir "manage.py") = none) →
          site.workspaceOf path fallback = .ok ⟨Config.default, none, fallback⟩)) := by
  intro dirs
  refine ⟨upwards_ancestorsOf _, fun dir => ?_, ?_, fun hsilent => ⟨?_, ?_⟩⟩
  · constructor
    · rintro ⟨outcome, hhit⟩ hsilent
      exact hsilent.not_hit hhit
    · exact (hit_or_isSilent site dir).resolve_right
  · intro before dir after outcome hdirs hbefore hhit
    exact ⟨workspaceOf_of_nearest hdirs hbefore hhit, fun other otherPath otherFallback =>
      workspaceOf_congr_of_nearest hdirs hbefore hhit⟩
  · intro before root after content hdirs hbefore hroot
    rw [workspaceOf_of_isSilent hsilent, scriptRoot?_of_nearest hdirs hbefore hroot]
    rfl
  · intro hnone
    rw [workspaceOf_of_isSilent hsilent, scriptRoot?_eq_none hnone]
    rfl

end Search

/-- A project below a directory whose configuration is `outer`. Its project file counts, since the
file in front of that is a link to nothing. Further below, a directory has the name of a
configuration, and a project file holds none. -/
def nestedSite (outer : String) : Site :=
  ⟨.dir [("srv", .dir [(".django-runner.json", .file outer.toUTF8 0o644),
    ("shop", .dir [
      ("django-runner.json", .link "gone.json"),
      ("pyproject.toml", .file "[tool.django-runner]\nflags = \"--keepdb\"\n".toUTF8 0o644),
      ("cart", .dir [(".django-runner.json", .dir []),
        ("pyproject.toml", .file "[tool.black]\n".toUTF8 0o644),
        ("tests.py", .file .empty 0o644)])])])], ["srv"]⟩

/-- What the project file says, and where it is. -/
def nestedHit : Config × String :=
  ({ Config.default with flags := "--keepdb" }, "/srv/shop/pyproject.toml")

theorem workspaceOf_nestedSite :
    (nestedSite "not json").workspaceOf "/srv/shop/cart/tests.py" "/" =
        .ok ⟨nestedHit.1, some nestedHit.2, "/srv/shop"⟩ ∧
      (nestedSite "\x7b\x7d").workspaceOf "/srv/shop/cart" "/srv" =
        .ok ⟨nestedHit.1, some nestedHit.2, "/srv/shop"⟩ := by
  obtain ⟨-, -, hnearest, -⟩ :=
    workspaceOf_nearest_hit (nestedSite "not json") "/srv/shop/cart/tests.py" "/"
  have hsilent : ∀ below ∈ ["/srv/shop/cart"], (nestedSite "not json").IsSilent below :=
    List.forall_mem_singleton.mpr (isSilent_of_configIn (by decide +kernel))
  have hhit : (nestedSite "not json").Hit "/srv/shop" (.ok nestedHit) :=
    hit_of_configIn (by decide +kernel)
  obtain ⟨hfound, hother⟩ := hnearest ["/srv/shop/cart"] "/srv/shop" ["/srv", "/"] _
    (by decide +kernel) hsilent hhit
  refine ⟨hfound, (hother (nestedSite "\x7b\x7d") _ _ (by decide +kernel) ?_).trans hfound⟩
  unfold AgreeAt
  decide +kernel

end Site

end TestCursor
