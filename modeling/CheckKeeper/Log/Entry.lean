import CheckKeeper.Json.Writer
import CheckKeeper.Log.Level

namespace CheckKeeper.Log

open Calendar

/-! Lines of the log.

A structured line is one JSON record, so that no message can pass for a line of its
own: its characters beyond plain ASCII, line ends among them, are written by their
numbers.  A plain line has its parts one after another.
-/

structure Entry where
  logger : String
  level : Nat
  message : String
  details : List (String × Value)
  failure : Option Failure

/-- The details that a structured line shows, in their order. -/
def shownDetails : List String :=
  ["check_id", "action", "job_name"]

/-- The module that a class of failures is told with, if it is told with one. -/
def homeOf : Failure → String
  | .identifier _ | .rowFilter _ => "dqsync.query_builder."
  | .unsafeQuery _ => "dqsync.sql_guard."
  | .malformedJson => "json.decoder."
  | failure => if failure.lineage.isEmpty then "" else "dqsync.errors."

/-- A failure by its class and its text, if it has one. -/
def describe (failure : Failure) : String :=
  let className := homeOf failure ++ failure.name
  if failure.message = "" then className else className ++ ": " ++ failure.message

namespace Entry

/-- What a structured line shows besides its time; `level` is what its level is called. -/
def toRecordAs (level : String) (entry : Entry) : List (String × Value) :=
  [("level", .text level), ("logger", .text entry.logger), ("message", .text entry.message)] ++
    shownDetails.filterMap (fun name => (entry.details.lookup name).map fun value => (name, value)) ++
    (entry.failure.map fun failure => ("exception", .text (describe failure))).toList

def toRecord (entry : Entry) : List (String × Value) :=
  entry.toRecordAs (levelName entry.level)

/-- Universal time, marked by a `Z`. -/
def timestamp (now : Moment) : String :=
  let utc := now.inUtc
  { utc with offset := none }.render ++ "Z"

def structuredLineAs (level : String) (now : Moment) (entry : Entry) : Except Failure String :=
  Json.dump .lenient (.ofFields (("timestamp", .text (timestamp now)) :: entry.toRecordAs level))

/-- The line of an entry whose level has its usual name. -/
def structuredLine (now : Moment) (entry : Entry) : Except Failure String :=
  entry.structuredLineAs (levelName entry.level) now

def plainText (entry : Entry) : String :=
  entry.logger ++ " - " ++ levelName entry.level ++ " - " ++ entry.message ++
    entry.failure.elim "" fun failure => "\n" ++ describe failure

/-- The time in front of a plain line, to the thousandth of a second. -/
def plainTime (now : Moment) : String :=
  let whole := { now with
    offset := none
    time := { now.time with micros := 0, microsInRange := Nat.zero_lt_succ _ } }
  let millis := Nat.toDigits 10 (now.time.micros / 1000)
  whole.renderWith ' ' ++ "," ++ String.ofList (List.replicate (3 - millis.length) '0' ++ millis)

def plainLine (now : Moment) (entry : Entry) : String :=
  plainTime now ++ " - " ++ entry.plainText

end Entry

end CheckKeeper.Log
