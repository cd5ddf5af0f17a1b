import CheckKeeper.Config.Basic
import CheckKeeper.Log.Basic
import CheckKeeper.Program.Service
import CheckKeeper.Shell.FileTree
import CheckKeeper.Shell.Library

namespace CheckKeeper

/-! The shell that commands run in: two streams of output, a terminal for marked messages, files
and a reader of YAML, the variables of the environment, clocks, and the collaborators once they
are connected.
-/

namespace Shell

inductive Call where
  | service (c : Service.Call)
  | isConnected
  | connect (config : Config)
  | print (text : String)
  | complain (text : String)
  | tell (mark : Mark) (message : String)
  | kindOf (path : Path)
  | readFile (path : Path)
  | readYaml (source : Yaml.Source) (content : String)
  | writeFile (path : Path) (content : String)
  | makeDirectory (path : Path)
  | variable (name : String)
  | setVariable (name value : String)
  | home
  | startLog (log : Log)
  | now
  | seconds

def Answer : Call → Type
  | .service c => Service.Answer c
  | .isConnected => Bool
  | .connect _ => Unit
  | .print _ => Unit
  | .complain _ => Unit
  | .tell _ _ => Unit
  | .kindOf _ => Option FileKind
  | .readFile _ => String
  | .readYaml _ _ => Value
  | .writeFile _ _ => Unit
  | .makeDirectory _ => Unit
  | .variable _ => Option String
  | .setVariable _ _ => Unit
  | .home => String
  | .startLog _ => Unit
  | .now => Calendar.Moment
  | .seconds => Int

def interface : Interface :=
  ⟨Call, Answer⟩

end Shell

abbrev Console (α : Type) : Type :=
  Program Shell.interface α

namespace Console

def perform (c : Shell.Call) : Console (Shell.Answer c) :=
  Program.perform (I := Shell.interface) c

/-- A program of the reconciler, on the collaborators of the shell. -/
def ofWork {α : Type} (work : Work α) : Console α :=
  work.embed fun c => perform (.service c)

def isConnected : Console Bool := perform .isConnected
def connect (config : Config) : Console Unit := perform (.connect config)
def print (text : String) : Console Unit := perform (.print text)
def complain (text : String) : Console Unit := perform (.complain text)

/-- Shows a message behind a mark; what the message says is never taken for a style. -/
def tell (mark : Shell.Mark) (message : String) : Console Unit :=
  perform (.tell mark message)

def kindOf (path : Path) : Console (Option FileKind) := perform (.kindOf path)
def readFile (path : Path) : Console String := perform (.readFile path)

def readYaml (source : Yaml.Source) (content : String) : Console Value :=
  perform (.readYaml source content)

def writeFile (path : Path) (content : String) : Console Unit :=
  perform (.writeFile path content)

/-- Makes a directory and those that it stands in. -/
def makeDirectory (path : Path) : Console Unit := perform (.makeDirectory path)

def getVariable (name : String) : Console (Option String) := perform (.variable name)

def setVariable (name value : String) : Console Unit := perform (.setVariable name value)

def home : Console String := perform .home

def startLog (log : Log) : Console Unit := perform (.startLog log)
def now : Console Calendar.Moment := perform .now

/-- Seconds on a clock that never goes back. -/
def seconds : Console Int := perform .seconds

def pathExists (path : Path) : Console Bool := do
  return (← kindOf path).isSome

end Console

end CheckKeeper
