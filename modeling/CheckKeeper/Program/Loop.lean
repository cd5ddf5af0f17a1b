import CheckKeeper.Log.Level
import CheckKeeper.Program.Basic

namespace CheckKeeper

/-! The loop that passes run in.

One pass runs at a time, and a pass tells which phase it is in.  The loop logs what
happens, pauses when there is nothing to do, and may be told to stop.
-/

inductive Phase where
  | idle
  | draining
  | dispatching
deriving DecidableEq, Repr

namespace Phase

def name : Phase → String
  | .idle => "idle"
  | .draining => "draining"
  | .dispatching => "dispatching"

end Phase

namespace Loop

inductive Call where
  | note (level : LogLevel) (text : String)
  | enterPass
  | setPhase (phase : Phase)
  | leavePass
  | stopRequested
  | pause (interval : Value)

def Answer : Call → Type
  | .note _ _ => Unit
  | .enterPass => Bool
  | .setPhase _ => Unit
  | .leavePass => Unit
  | .stopRequested => Bool
  | .pause _ => Unit

def interface : Interface :=
  ⟨Call, Answer⟩

structure LogRecord where
  level : LogLevel
  text : String
deriving DecidableEq, Repr

/-- What tells a loop to stop: the pauses that it has made, and whether it is to
stop.  It is told to stop at the pause that reaches the limit. -/
structure StopSignal where
  isSet : Bool
  pauses : List Value
  limit : Option Nat

def StopSignal.pause (signal : StopSignal) (interval : Value) : StopSignal :=
  let pauses := signal.pauses ++ [interval]
  { signal with pauses, isSet := signal.isSet || signal.limit.any (· ≤ pauses.length) }

structure State where
  phase : Phase
  inPass : Bool
  signal : StopSignal
  journal : List LogRecord

/-- A loop at rest that nothing will stop. -/
def State.start : State :=
  ⟨.idle, false, ⟨false, [], none⟩, []⟩

def handle : Program.Handler interface State
  | .note level text, s => (.ok (), { s with journal := s.journal ++ [⟨level, text⟩] })
  | .enterPass, s => (.ok (!s.inPass), { s with inPass := true })
  | .setPhase phase, s => (.ok (), { s with phase })
  | .leavePass, s => (.ok (), { s with phase := .idle, inPass := false })
  | .stopRequested, s => (.ok s.signal.isSet, s)
  | .pause interval, s => (.ok (), { s with signal := s.signal.pause interval })

end Loop

end CheckKeeper
