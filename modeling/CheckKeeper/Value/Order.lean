import CheckKeeper.Value.Basic

namespace CheckKeeper

open Calendar

/-! Equality and order of values.

Numbers compare by their exact value, whatever their type, and the two truth
values count as 0 and 1.  A number that is not one equals nothing.  Only values of
one kind are in order; moments only if all or none of them have an offset.
-/

inductive OrderFault where
  | kinds (left right : String)
  | clocks
  | dayAndMoment
deriving DecidableEq, Repr

/-- The exact value of a number: a fraction with a positive denominator, or one of
the three that are no fractions. -/
inductive Exact where
  | ratio (numerator : Int) (denominator : Nat)
  | infinity (negative : Bool)
  | undefined
deriving DecidableEq, Repr

namespace Exact

def ofInt (i : Int) : Exact :=
  .ratio i 1

def ofFloat (x : Float) : Exact :=
  match Number.toDyadic? x with
  | some finite => .ratio finite.toRatio.1 finite.toRatio.2
  | none => if Number.isNaN x then .undefined else .infinity (Number.isNegative x)

/-- The order of two numbers; nothing if one of them is undefined. -/
def compare? : Exact → Exact → Option Ordering
  | .undefined, _ => none
  | _, .undefined => none
  | .infinity a, .infinity b =>
      some (if a == b then .eq else if a then .lt else .gt)
  | .infinity a, .ratio _ _ => some (if a then .lt else .gt)
  | .ratio _ _, .infinity b => some (if b then .gt else .lt)
  | .ratio n d, .ratio m e => some (compare (n * e) (m * d))

end Exact

namespace Value

/-- The exact value of what counts as a number. -/
def exactValue? : Value → Option Exact
  | .bool flag => some (.ofInt (if flag then 1 else 0))
  | .int number => some (.ofInt number)
  | .float number => some (.ofFloat number)
  | _ => none

def sameNumber (a b : Value) : Bool :=
  match a.exactValue?, b.exactValue? with
  | some x, some y => x.compare? y == some .eq
  | _, _ => false

/-- Equality of values that hold no other values. -/
def sameAtom : Value → Value → Bool
  | .null, .null => true
  | .text a, .text b => a == b
  | .moment a, .moment b => a.sameInstant b
  | .day a, .day b => a == b
  | a, b => sameNumber a b

mutual

/-- Equality.  Records are equal if they have equally many fields and every field
of the one has an equal field of the same name in the other. -/
def same : Value → Value → Bool
  | .list items, other =>
      match other with
      | .list others => sameItems items others
      | _ => false
  | .record fields, other =>
      match other with
      | .record others => fields.length == others.length && sameFields fields others
      | _ => false
  | a, b => sameAtom a b

def sameItems : List Value → List Value → Bool
  | [], others => others.isEmpty
  | item :: rest, others =>
      match others with
      | [] => false
      | other :: later => item.same other && sameItems rest later

def sameFields : List (Value × Value) → List (Value × Value) → Bool
  | [], _ => true
  | (name, value) :: rest, others =>
      others.any (fun (otherName, other) => name.same otherName && value.same other) &&
        sameFields rest others

end

/-- The order of two values of one kind; `none` inside stands for numbers of which
one is undefined. -/
def compareAtoms (a b : Value) : Except OrderFault (Option Ordering) :=
  match a, b with
  | .text x, .text y => .ok (some (compare x y))
  | .moment x, .moment y =>
      if x.comparable y then .ok (some (compare x.instant y.instant)) else .error .clocks
  | .day x, .day y => .ok (some (compare x.ordinal y.ordinal))
  | .moment _, .day _ => .error .dayAndMoment
  | .day _, .moment _ => .error .dayAndMoment
  | a, b =>
      match a.exactValue?, b.exactValue? with
      | some x, some y => .ok (x.compare? y)
      | _, _ => .error (.kinds a.typeName b.typeName)

mutual

/-- The order of two values.  Of two lists the first unequal items decide, and if
there are none, the lengths. -/
def compare? : Value → Value → Except OrderFault (Option Ordering)
  | .list items, other =>
      match other with
      | .list others => compareItems items others
      | _ => .error (.kinds "list" other.typeName)
  | a, b => compareAtoms a b

def compareItems : List Value → List Value → Except OrderFault (Option Ordering)
  | [], others => .ok (some (if others.isEmpty then .eq else .lt))
  | item :: rest, others =>
      match others with
      | [] => .ok (some .gt)
      | other :: later =>
          if item.same other then compareItems rest later else item.compare? other

end

/-- The word for the type of the first value that cannot serve as a key, if there
is one. -/
def unhashable? : Value → Option String
  | .list _ => some "list"
  | .record _ => some "dict"
  | _ => none

end Value

end CheckKeeper
