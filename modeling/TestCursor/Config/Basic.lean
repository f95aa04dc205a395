import TestCursor.Command
import TestCursor.TestPath

/-!
# Configuration of a workspace

The settings from which test commands are built. Each is a text or a switch and has a key; a
configuration file gives some of them and leaves the others at their defaults.
-/

namespace TestCursor

/-- The settings of a workspace. -/
structure Config where
  /-- Stands in front of every command. -/
  prefixCommand : String
  /-- The test runner and its subcommand. -/
  manageProgram : String
  /-- Stands behind the test path. -/
  flags : String
  /-- An interpreter stands in front of the test runner. -/
  usePythonPath : Bool
  /-- The interpreter outside of any virtual environment. -/
  pythonPath : String
  /-- The first segment of the module path is left out. -/
  stripRootFolder : Bool
  /-- The package that is left out of the module path with all before it. -/
  rootPackageName : String
  /-- A colon separates the module from the class. -/
  djangoNose : Bool
  deriving DecidableEq, Repr

/-- The test runner unless configured otherwise, relative to the workspace root. -/
def defaultProgram : String := "manage.py test"

/-- The settings of a workspace that says nothing. -/
def Config.default : Config :=
  { prefixCommand := "", manageProgram := defaultProgram, flags := "", usePythonPath := true
    pythonPath := "", stripRootFolder := false, rootPackageName := "", djangoNose := false }

instance : Inhabited Config := ⟨Config.default⟩

/-- The rule by which the module path is shortened. -/
def Config.rootRule (config : Config) : RootRule :=
  ⟨config.stripRootFolder, config.rootPackageName⟩

/-- The command that runs the tests at a path by an interpreter. -/
def Config.commandFor (config : Config) (interpreter testPath : String) : String :=
  CommandParts.line
    { runBy := config.prefixCommand, interpreter := interpreter, program := config.manageProgram
      testPath := testPath, flags := config.flags }

inductive ConfigKey
  | prefixCommand
  | manageProgram
  | flags
  | usePythonPath
  | pythonPath
  | stripRootFolder
  | rootPackageName
  | djangoNose
  deriving DecidableEq, Repr

/-- The value that a configuration file can give to a setting. -/
inductive Setting
  | text (value : String)
  | switch (value : Bool)
  deriving DecidableEq, Repr

namespace ConfigKey

/-- The keys, in the order in which a list gives their values. -/
def all : List ConfigKey :=
  [.prefixCommand, .manageProgram, .flags, .usePythonPath, .pythonPath, .stripRootFolder,
   .rootPackageName, .djangoNose]

def name : ConfigKey → String
  | .prefixCommand => "prefix_command"
  | .manageProgram => "manage_program"
  | .flags => "flags"
  | .usePythonPath => "use_python_path"
  | .pythonPath => "python_path"
  | .stripRootFolder => "strip_root_folder"
  | .rootPackageName => "root_package_name"
  | .djangoNose => "django_nose"

/-- The spellings of the keys. -/
def names : List String := all.map name

end ConfigKey

namespace Config

def get (config : Config) : ConfigKey → Setting
  | .prefixCommand => .text config.prefixCommand
  | .manageProgram => .text config.manageProgram
  | .flags => .text config.flags
  | .usePythonPath => .switch config.usePythonPath
  | .pythonPath => .text config.pythonPath
  | .stripRootFolder => .switch config.stripRootFolder
  | .rootPackageName => .text config.rootPackageName
  | .djangoNose => .switch config.djangoNose

/-- A configuration with one setting changed. The value has to be of the setting's type. -/
def set? (config : Config) : ConfigKey → Setting → Option Config
  | .prefixCommand, .text value => some { config with prefixCommand := value }
  | .manageProgram, .text value => some { config with manageProgram := value }
  | .flags, .text value => some { config with flags := value }
  | .usePythonPath, .switch value => some { config with usePythonPath := value }
  | .pythonPath, .text value => some { config with pythonPath := value }
  | .stripRootFolder, .switch value => some { config with stripRootFolder := value }
  | .rootPackageName, .text value => some { config with rootPackageName := value }
  | .djangoNose, .switch value => some { config with djangoNose := value }
  | _, _ => none

/-- A configuration with settings changed one after the other. -/
def setAll? (config : Config) : List (ConfigKey × Setting) → Option Config
  | [] => some config
  | (key, value) :: rest => (config.set? key value).bind fun next => setAll? next rest

@[simp] theorem set?_get (config : Config) (key : ConfigKey) :
    config.set? key (config.get key) = some config := by
  cases key <;> rfl

end Config

/-- Values for keys in their order. A key without a value is left out; a value that is no setting
spoils the list. -/
def settingsOf? {α : Type} (read : α → Option Setting) :
    List ConfigKey → List (Option α) → Option (List (ConfigKey × Setting))
  | key :: keys, some value :: values =>
    match read value, settingsOf? read keys values with
    | some setting, some rest => some ((key, setting) :: rest)
    | _, _ => none
  | _ :: keys, none :: values => settingsOf? read keys values
  | _, _ => some []

end TestCursor
