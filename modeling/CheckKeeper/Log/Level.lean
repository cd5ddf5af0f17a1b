import CheckKeeper.Failure
import CheckKeeper.Text.Case

namespace CheckKeeper

/-! How serious a line of the log is.

Levels have numbers, and a log lets pass what is at least as serious as its
threshold.  A threshold of nought leaves it to the standard one.
-/

inductive LogLevel where
  | debug
  | info
  | warning
  | error
  | critical
deriving DecidableEq, Repr

namespace LogLevel

def name : LogLevel → String
  | .debug => "DEBUG"
  | .info => "INFO"
  | .warning => "WARNING"
  | .error => "ERROR"
  | .critical => "CRITICAL"

def number : LogLevel → Nat
  | .debug => 10
  | .info => 20
  | .warning => 30
  | .error => 40
  | .critical => 50

def all : List LogLevel :=
  [.debug, .info, .warning, .error, .critical]

end LogLevel

namespace Log

def thresholds : List (String × Nat) :=
  LogLevel.all.map (fun level => (level.name, level.number)) ++
    [("WARN", LogLevel.warning.number), ("FATAL", LogLevel.critical.number), ("NOTSET", 0)]

/-- The threshold of a name, which may be written in small letters. -/
def thresholdOf (name : String) : Except Failure Nat :=
  let upper := Text.upperText name
  match thresholds.lookup upper with
  | some number => .ok number
  | none => .error (.rule (.unknownLevel upper))

/-- The name of a level, and the number of one that has no name. -/
def levelName (number : Nat) : String :=
  match LogLevel.all.find? (·.number == number) with
  | some level => level.name
  | none => if number = 0 then "NOTSET" else "Level " ++ Number.renderInt (number : Nat)

/-- Whether a line passes. -/
def passes (threshold level : Nat) : Bool :=
  (if threshold = 0 then LogLevel.warning.number else threshold) ≤ level

end Log

end CheckKeeper
