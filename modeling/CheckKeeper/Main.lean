import CheckKeeper.Calendar.Instant
import CheckKeeper.Cli.Run
import Std.Time.DateTime.Timestamp

namespace CheckKeeper

/-! The program.

It runs the command line on the files and the environment of the machine.  No client
of a warehouse is linked to it, so commands that need the collaborators say that they
cannot be reached.
-/

/-- Runs a program with calls that act on the world. -/
def Program.runIO {I : Interface} {α : Type}
    (handle : (c : I.Call) → IO (Except Failure (I.Answer c))) :
    Program I α → IO (Except Failure α)
  | .done value => pure (.ok value)
  | .fail failure => pure (.error failure)
  | .call c rest => do
      let answer ← handle c
      (rest answer).runIO handle

/-- What the program keeps between calls: its log, the loop of passes, and the
variables that it has set. -/
structure Session where
  log : Log
  loop : Loop.State
  environment : List (String × String)

/-- A session that logs nothing. -/
def Session.start : Session :=
  ⟨⟨LogLevel.warning.number, false, []⟩, .start, []⟩

/-- The fault that a number of the operating system stands for. -/
def faultOfCode (path : String) (code : Nat) : Option FileFault :=
  match code with
  | 2 => some (.missing path)
  | 17 => some (.present path)
  | 20 => some (.notDirectory path)
  | 21 => some (.isDirectory path)
  | _ => none

/-- The number of an error; some are told by their negatives. -/
def codeOf (error : IO.Error) : Nat :=
  let told : Option UInt32 :=
    match error with
    | .noFileOrDirectory _ code _ => some code
    | .alreadyExists _ code _ => some code
    | .inappropriateType _ code _ => some code
    | _ => none
  told.elim 0 fun code => min code.toNat (0x100000000 - code.toNat)

def failureOf (path : String) (error : IO.Error) : Failure :=
  match faultOfCode path (codeOf error) with
  | some fault => .file fault
  | none => .other "OSError" (toString error)

/-- Uses a file, and tells a failure as one of its path. -/
def attemptAt {α : Type} (path : Path) (action : String → IO α) : IO (Except Failure α) := do
  try
    return .ok (← action path.render)
  catch error =>
    return .error (failureOf path.render error)

def kindAt (path : Path) : IO (Option FileKind) := do
  match ← attemptAt path fun name => IO.FS.readBinFile name with
  | .ok _ => return some .file
  | .error (.file (.isDirectory _)) => return some .directory
  | .error _ => return none

def readFileAt (path : Path) : IO (Except Failure String) := do
  let found ← attemptAt path fun name => IO.FS.readFile name
  return found.map fun content => String.ofList (Text.unifyLineEnds content.toList)

def clock : IO Calendar.Moment := do
  let micros := (← Std.Time.Timestamp.now).toMillisecondsSinceUnixEpoch.val.toNat * 1000
  return (Calendar.Moment.ofUnixMicros? micros).getD .earliest

def addLine (line : String) (sink : Log.Sink) : IO Unit := do
  match sink with
  | .file path =>
      let handle ← IO.FS.Handle.mk path.render .append
      handle.putStrLn line
  | .stream | .terminal => IO.eprintln line

def record (log : Log) (level : LogLevel) (text : String) : IO Unit := do
  let entry : Log.Entry := ⟨"dqsync", level.number, text, [], none⟩
  if Log.passes log.threshold level.number then
    match log.line (← clock) entry with
    | .ok line => log.sinks.forM (addLine line)
    | .error _ => return ()

def pause (interval : Value) : IO Unit :=
  match interval.toFloat with
  | .ok seconds => IO.sleep (seconds * 1000.0).toUInt32
  | .error _ => return ()

/-- Makes a call of the loop, and does what it asks for. -/
def serveLoop (session : IO.Ref Session) (c : Loop.Call) :
    IO (Except Failure (Loop.Answer c)) := do
  let before ← session.get
  match c with
  | .note level text => record before.log level text
  | .pause interval => pause interval
  | _ => pure ()
  let (answer, loop) := Loop.handle c before.loop
  session.set { before with loop }
  return answer

/-- What is told of collaborators that are not there. -/
def unreachable : Failure :=
  .service "No client of the warehouse is available"

def makeLog (session : IO.Ref Session) (log : Log) : IO (Except Failure Unit) := do
  session.modify ({ · with log })
  match log.file? with
  | none => return .ok ()
  | some file => attemptAt file.parent fun name => IO.FS.createDirAll name

/-- The value of a variable, which the program may have set itself. -/
def variableOf (session : IO.Ref Session) (name : String) : IO (Option String) := do
  match (← session.get).environment.lookup name with
  | some value => return some value
  | none => IO.getEnv name

def writeTo (stream : IO.FS.Stream) (text : String) : IO (Except Failure Unit) := do
  stream.putStr text
  stream.flush
  return .ok ()

def act (session : IO.Ref Session) : (c : Shell.Call) → IO (Except Failure (Shell.Answer c))
  | .service (.loop c) => serveLoop session c
  | .service _ => return .error unreachable
  | .isConnected => return .ok false
  | .connect _ => return .error unreachable
  | .print text => do writeTo (← IO.getStdout) text
  | .complain text => do writeTo (← IO.getStderr) text
  | .tell mark message =>
      match Shell.Library.standard.showMarked mark message with
      | .ok shown => do writeTo (← IO.getStdout) shown
      | .error failure => return .error failure
  | .kindOf path => do return .ok (← kindAt path)
  | .readFile path => readFileAt path
  | .readYaml source content => return Shell.Library.standard.readYaml source content
  | .writeFile path content => attemptAt path fun name => IO.FS.writeFile name content
  | .makeDirectory path => attemptAt path fun name => IO.FS.createDirAll name
  | .variable name => do return .ok (← variableOf session name)
  | .setVariable name value => do
      session.modify fun before =>
        { before with environment := (name, value) :: before.environment }
      return .ok ()
  | .home => do return .ok ((← IO.getEnv "HOME").getD "/")
  | .startLog log => makeLog session log
  | .now => do return .ok (← clock)
  | .seconds => do return .ok (((← IO.monoMsNow) / 1000 : Nat) : Int)

end CheckKeeper

open CheckKeeper in
def main (words : List String) : IO UInt32 := do
  let session ← IO.mkRef Session.start
  match ← (Cli.run none words).runIO (act session) with
  | .ok status => return status.toUInt32
  | .error failure =>
      IO.eprintln (failure.name ++ ": " ++ failure.message)
      return 1
