import TestCursor.Config.Basic
import TestCursor.File.Path

/-!
# The interpreter of a test run

The interpreter of the active virtual environment comes first, then that of the active conda
environment, then the configured one.
-/

namespace TestCursor

/-- The variables of the environment that tell which interpreter is active. -/
structure Environment where
  virtualEnv : Option String
  condaPrefix : Option String
  deriving DecidableEq, Repr

namespace Environment

def none : Environment := ⟨Option.none, Option.none⟩

/-- Where the active environments are, those that count first in front. A variable that is empty
names none. -/
def homes (env : Environment) : List String :=
  [env.virtualEnv, env.condaPrefix].filterMap fun home =>
    match home with
    | some path => if path.isEmpty then Option.none else some path
    | Option.none => Option.none

end Environment

/-- The interpreter of the environment in a directory. -/
def interpreterIn (home : String) : String := joinPath (joinPath home "bin") "python"

/-- The interpreter for a configuration; empty when there is none to put in front. -/
def Config.interpreter (config : Config) (env : Environment) : String :=
  if config.usePythonPath then
    match env.homes with
    | home :: _ => interpreterIn home
    | [] => config.pythonPath
  else ""

/-- A configuration whose interpreter was found. -/
structure Settings where
  config : Config
  interpreter : String
  deriving DecidableEq, Repr

namespace Settings

/-- The settings under an environment, or with an interpreter given by hand. -/
def of (config : Config) (env : Environment) (byHand : Option String) : Settings :=
  ⟨config, byHand.getD (config.interpreter env)⟩

def commandFor (settings : Settings) (testPath : String) : String :=
  settings.config.commandFor settings.interpreter testPath

end Settings

end TestCursor
