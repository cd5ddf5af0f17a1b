import CheckKeeper.Program.Loop
import CheckKeeper.Change.Batch
import CheckKeeper.Outcome
import CheckKeeper.Result

namespace CheckKeeper

/-! The collaborators of the reconciler: the table of definitions, the feed of its
changes, the scheduler of jobs, the table of results, and the loop that it runs in.
-/

namespace Service

inductive Call where
  | getDefinition (checkId : String)
  | putDefinition (definition : Definition)
  | deleteDefinition (checkId : String)
  | listDefinitions
  | hasPending
  | drain (limit : Option Int)
  | acknowledge (batch : Batch)
  | putJob (job : Job)
  | deleteJob (name : String)
  | findJob (checkId : String)
  | getJob (name : String)
  | recentResults (checkId : String) (limit : Int)
  | loop (c : Loop.Call)

/-- What a call answers.  A collaborator may leave open whether it has deleted or
replaced anything, whether events are pending, and even which they are. -/
def Answer : Call → Type
  | .getDefinition _ => Option Definition
  | .putDefinition _ => Unit
  | .deleteDefinition _ => Option Bool
  | .listDefinitions => List Definition
  | .hasPending => Option Bool
  | .drain _ => Option Batch
  | .acknowledge _ => Unit
  | .putJob _ => Option Bool
  | .deleteJob _ => Option Bool
  | .findJob _ => Option String
  | .getJob _ => Option Job
  | .recentResults _ _ => List CheckResult
  | .loop c => Loop.Answer c

def interface : Interface :=
  ⟨Call, Answer⟩

end Service

abbrev Work (α : Type) : Type :=
  Program Service.interface α

namespace Work

def getDefinition (checkId : String) : Work (Option Definition) :=
  Program.perform (I := Service.interface) (.getDefinition checkId)

def putDefinition (d : Definition) : Work Unit :=
  Program.perform (I := Service.interface) (.putDefinition d)

def deleteDefinition (checkId : String) : Work (Option Bool) :=
  Program.perform (I := Service.interface) (.deleteDefinition checkId)

def listDefinitions : Work (List Definition) :=
  Program.perform (I := Service.interface) .listDefinitions

def hasPending : Work (Option Bool) :=
  Program.perform (I := Service.interface) .hasPending

def drain (limit : Option Int) : Work (Option Batch) :=
  Program.perform (I := Service.interface) (.drain limit)

def acknowledge (batch : Batch) : Work Unit :=
  Program.perform (I := Service.interface) (.acknowledge batch)

def putJob (job : Job) : Work (Option Bool) :=
  Program.perform (I := Service.interface) (.putJob job)

def deleteJob (name : String) : Work (Option Bool) :=
  Program.perform (I := Service.interface) (.deleteJob name)

def findJob (checkId : String) : Work (Option String) :=
  Program.perform (I := Service.interface) (.findJob checkId)

def getJob (name : String) : Work (Option Job) :=
  Program.perform (I := Service.interface) (.getJob name)

def recentResults (checkId : String) (limit : Int) : Work (List CheckResult) :=
  Program.perform (I := Service.interface) (.recentResults checkId limit)

def note (level : LogLevel) (text : String) : Work Unit :=
  Program.perform (I := Service.interface) (.loop (.note level text))

def enterPass : Work Bool :=
  Program.perform (I := Service.interface) (.loop .enterPass)

def setPhase (phase : Phase) : Work Unit :=
  Program.perform (I := Service.interface) (.loop (.setPhase phase))

def leavePass : Work Unit :=
  Program.perform (I := Service.interface) (.loop .leavePass)

def stopRequested : Work Bool :=
  Program.perform (I := Service.interface) (.loop .stopRequested)

def pause (interval : Value) : Work Unit :=
  Program.perform (I := Service.interface) (.loop (.pause interval))

end Work

end CheckKeeper
