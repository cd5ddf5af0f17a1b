namespace CheckKeeper.Text

/-! Sets of characters given by a table.

A set is a sorted list of code points at which membership changes: below the
first point nothing belongs, from the first to the second everything does, and
so on in turn.  A character belongs exactly when an odd number of points lies at
or below its code.
-/

structure CharSet where
  changes : Array Nat

namespace CharSet

/-- The number of points of `changes` at or below `code`, when that number lies
between `low` and `high`; each step halves the interval. -/
def rankBetween (changes : Array Nat) (code : Nat) : Nat → Nat → Nat → Nat
  | 0, low, _ => low
  | steps + 1, low, high =>
      if high ≤ low then low
      else
        let middle := (low + high) / 2
        if changes.getD middle 0 ≤ code then rankBetween changes code steps (middle + 1) high
        else rankBetween changes code steps low middle

def rank (set : CharSet) (code : Nat) : Nat :=
  rankBetween set.changes code 32 0 set.changes.size

def contains (set : CharSet) (c : Char) : Bool :=
  set.rank c.toNat % 2 == 1

end CharSet

end CheckKeeper.Text
