import CheckKeeper.Value.Convert
import CheckKeeper.Text.Case

namespace CheckKeeper

/-! The kinds of checks.

The set is closed.  A declared type outside it is the kind `unsupported` and not a
failure, so that a slip of the pen never costs a check its job.
-/

inductive CheckKind where
  | freshness
  | uniqueness
  | consistency
  | unsupported
deriving DecidableEq, Repr

namespace CheckKind

def name : CheckKind → String
  | .freshness => "FRESHNESS"
  | .uniqueness => "UNIQUENESS"
  | .consistency => "CONSISTENCY"
  | .unsupported => "UNSUPPORTED"

/-- The kind that a text declares, in whatever case and between blanks. -/
def ofText (declared : String) : CheckKind :=
  let word := Text.upperText (Text.stripText declared)
  if word = "FRESHNESS" then .freshness
  else if word = "UNIQUENESS" then .uniqueness
  else if word = "CONSISTENCY" then .consistency
  else .unsupported

/-- The kind that a stored value declares; nothing declares no supported kind. -/
def parse (declared : Value) : Except Failure CheckKind :=
  (declared.toTextOrEmpty "strip").map ofText

end CheckKind

end CheckKeeper
