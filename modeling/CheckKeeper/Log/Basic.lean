import CheckKeeper.Log.Entry
import CheckKeeper.Path

namespace CheckKeeper

open Calendar

/-! How the log is kept.

Lines go to a file, if one is named, and to the terminal.  Structured lines are the
same everywhere; other lines are laid out for the eye on a terminal.
-/

namespace Log

inductive Sink where
  | file (path : Path)
  | stream
  | terminal
deriving DecidableEq, Repr

end Log

structure Log where
  threshold : Nat
  isStructured : Bool
  sinks : List Log.Sink
deriving DecidableEq, Repr

namespace Log

/-- A log of a format; any other format than `structured` is laid out for the eye. -/
def setUp (level format : String) (file : Option Path) (onTerminal : Bool) : Except Failure Log := do
  let isStructured := format == "structured"
  let shown := if isStructured then Sink.stream else Sink.terminal
  return {
    threshold := ← thresholdOf level
    isStructured
    sinks := (file.map Sink.file).toList ++ if onTerminal then [shown] else [] }

def file? (log : Log) : Option Path :=
  log.sinks.findSome? fun
    | .file path => some path
    | _ => none

def accepted (log : Log) (entries : List Entry) : List Entry :=
  entries.filter fun entry => passes log.threshold entry.level

def line (log : Log) (now : Moment) (entry : Entry) : Except Failure String :=
  if log.isStructured then entry.structuredLine now else .ok (entry.plainLine now)

end Log

end CheckKeeper
