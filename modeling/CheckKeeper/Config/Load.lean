import CheckKeeper.Config.EnvFile
import CheckKeeper.Shell.Basic

namespace CheckKeeper.Config

/-! Loading the configuration.

The file is YAML.  When the configuration in it is sound, the variables of its
environment file are set, except those that are set already.
-/

def currentDirectory : Console Path := do
  .ofExcept (Config.directory (← Console.home) (← Console.getVariable "DQSYNC_HOME"))

/-- The configuration that the value of a file means; one that is not given means no settings. -/
def ofValue (path : String) (value : Value) : Except Failure Config :=
  if value.isGiven then
    match value with
    | .record row => ofRecord row
    | _ => .error (.config (.notMapping path))
  else ofRecord []

/-- The value of a file that is read as YAML; its faults are those of the configuration. -/
def readValue (file : Path) : Console Value := do
  let content ← Console.readFile file
  match ← (Console.readYaml (.file file.render) content).attempt with
  | .ok value => return value
  | .error (.yaml fault _) => .fail (.config (.malformed file.render fault))
  | .error failure => .fail failure

/-- Sets what an environment file names and the environment does not have. -/
def setMissing : List (String × Option String) → Console Unit
  | [] => return ()
  | (name, value) :: rest => do
      if let some text := value then
        if (← Console.getVariable name).isNone then Console.setVariable name text
      setMissing rest

/-- Sets the variables of an environment file, if it is there. -/
def loadVariables (file : Path) : Console Unit := do
  if (← Console.kindOf file) == some .file then
    setMissing (← EnvFile.read Console.getVariable (← Console.readFile file))

def loadFrom (file : Path) : Console Config := do
  if ← Console.pathExists file then
    let config ← .ofExcept (ofValue file.render (← readValue file))
    if let some envFile ← .ofExcept (fileOf (← Console.home) config.envFile) then
      loadVariables envFile
    return config
  else .fail (.noConfig file.render)

/-- Loads the configuration from a file, or else from the directory that holds it. -/
def load (file : Option Path) : Console Config := do
  match file with
  | some file => loadFrom file
  | none => loadFrom ((← currentDirectory).entry "config.yaml")

end CheckKeeper.Config
