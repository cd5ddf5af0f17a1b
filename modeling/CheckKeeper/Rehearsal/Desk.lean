import CheckKeeper.Cli.Run
import CheckKeeper.Rehearsal.Run
import CheckKeeper.Warehouse.Script

namespace CheckKeeper.Rehearsal

open Calendar

/-! Rehearsals of the command line.

A desk is a shell in memory, with any library.  Its collaborators are those of a rehearsal and
fail as they are told, or else they stand in a warehouse that answers from a script, which a
command has to connect first.
-/

/-- A warehouse that commands connect: its script, its tables once it is connected,
and the configurations that it was connected with. -/
structure ScriptedWarehouse where
  script : Warehouse.Script
  tables : Option Warehouse.Catalog
  opened : List Config

namespace ScriptedWarehouse

def start (answers : List Warehouse.ScriptedAnswer) : ScriptedWarehouse :=
  ⟨.start answers, none, []⟩

/-- The warehouse before the next command, which has to connect it anew. -/
def released (remote : ScriptedWarehouse) : ScriptedWarehouse :=
  .start remote.script.answers

/-- Connects the tables of a configuration.  The attempt counts even if a path among
them is refused. -/
def connect (config : Config) (remote : ScriptedWarehouse) : Except Failure Unit × ScriptedWarehouse :=
  let tried := { remote with opened := remote.opened ++ [config] }
  match Warehouse.Catalog.of config with
  | .ok tables => (.ok (), { tried with tables := some tables })
  | .error failure => (.error failure, tried)

/-- Makes a call of a collaborator in the warehouse, once it is connected. -/
def serve (c : Service.Call) (remote : ScriptedWarehouse) : Except Failure (Service.Answer c) × ScriptedWarehouse :=
  match remote.tables with
  | some tables =>
      let (answer, script) := (tables.serve c).run Warehouse.Script.handle remote.script
      (answer, { remote with script })
  | none => (.error (.service "not connected"), remote)

end ScriptedWarehouse

structure Desk where
  stage : State
  remote : Option ScriptedWarehouse
  files : FileTree
  environment : List (String × String)
  userHome : String
  loop : Loop.State
  output : String
  complaints : String
  library : Shell.Library

namespace Desk

def start (stage : State) (remote : Option ScriptedWarehouse) (files : FileTree)
    (environment : List (String × String)) (userHome : String) : Desk :=
  ⟨stage, remote, files, environment, userHome, .start, "", "", .standard⟩

/-- The desk before the next command: nothing is written, and no pass has run. -/
def cleared (desk : Desk) : Desk :=
  { desk with
    remote := desk.remote.map ScriptedWarehouse.released, loop := .start, output := "", complaints := "" }

def getVariable (desk : Desk) (name : String) : Option String :=
  desk.environment.lookup name

/-- The home directory: the one that the environment names, or else that of the user. -/
def home (desk : Desk) : String :=
  (desk.getVariable "HOME").getD desk.userHome

def setVariable (name value : String) (desk : Desk) : Desk :=
  { desk with environment := (name, value) :: desk.environment.filter (·.1 != name) }

def isConnected (desk : Desk) : Bool :=
  desk.remote.all fun remote => remote.tables.isSome

def connect (config : Config) (desk : Desk) : Except Failure Unit × Desk :=
  match desk.remote with
  | none => (.ok (), desk)
  | some remote =>
      let (answer, after) := remote.connect config
      (answer, { desk with remote := some after })

/-- Makes a call of a collaborator.  The loop of a command is its own. -/
def serve (c : Service.Call) (desk : Desk) : Except Failure (Service.Answer c) × Desk :=
  match c with
  | .loop c =>
      let (answer, loop) := Loop.handle c desk.loop
      (answer, { desk with loop })
  | c =>
      match desk.remote with
      | some remote =>
          let (answer, after) := remote.serve c
          (answer, { desk with remote := some after })
      | none =>
          let (answer, stage) := Rehearsal.handle (nestedSteps nestingLimit) c desk.stage
          (answer, { desk with stage })

/-- Puts changed files in place, unless the change failed. -/
def withFiles (changed : Except Failure FileTree) (desk : Desk) : Except Failure Unit × Desk :=
  match changed with
  | .ok files => (.ok (), { desk with files })
  | .error failure => (.error failure, desk)

def touch (file : Path) (files : FileTree) : Except Failure FileTree := do
  let made ← files.makeDirectory file.parent
  if made.kindOf file = some .file then return made else made.write file ""

def handle : Program.Handler Shell.interface Desk
  | .service c, desk => desk.serve c
  | .isConnected, desk => (.ok desk.isConnected, desk)
  | .connect config, desk => desk.connect config
  | .print text, desk => (.ok (), { desk with output := desk.output ++ text })
  | .complain text, desk => (.ok (), { desk with complaints := desk.complaints ++ text })
  | .tell mark message, desk =>
      match desk.library.showMarked mark message with
      | .ok shown => (.ok (), { desk with output := desk.output ++ shown })
      | .error failure => (.error failure, desk)
  | .kindOf path, desk => (.ok (desk.files.kindOf path), desk)
  | .readFile path, desk => (desk.files.read path, desk)
  | .readYaml source content, desk => (desk.library.readYaml source content, desk)
  | .writeFile path content, desk => desk.withFiles (desk.files.write path content)
  | .makeDirectory path, desk => desk.withFiles (desk.files.makeDirectory path)
  | .variable name, desk => (.ok (desk.getVariable name), desk)
  | .setVariable name value, desk => (.ok (), desk.setVariable name value)
  | .home, desk => (.ok desk.home, desk)
  | .startLog log, desk =>
      match log.file? with
      | some file => desk.withFiles (touch file desk.files)
      | none => (.ok (), desk)
  | .now, desk => (.ok desk.stage.tables.clock, desk)
  | .seconds, desk => (.ok (0 : Int), desk)

end Desk

/-- The account of a command: the status that it exits with or the failure that no
one took care of, what it wrote, and what it asked of a warehouse. -/
structure CommandAccount where
  status : Except Failure Cli.ExitStatus
  output : String
  complaints : String
  remote : Option ScriptedWarehouse

def command (ready : Option Config) (words : List String) (desk : Desk) : CommandAccount × Desk :=
  let (status, after) := (Cli.run ready words).run Desk.handle desk.cleared
  (⟨status, after.output, after.complaints, after.remote⟩, after)

def commands (ready : Option Config) : List (List String) → Desk → List CommandAccount × Desk
  | [], desk => ([], desk)
  | words :: rest, desk =>
      let (told, after) := command ready words desk
      let (later, last) := commands ready rest after
      (told :: later, last)

end CheckKeeper.Rehearsal
