import CheckKeeper.Failure

namespace CheckKeeper

open Calendar

/-! Values taken for integers, numbers, moments, items or rows.

Each of these takes more kinds of values than its result has: a text is read, a
number is cut, a truth value counts as 0 or 1.
-/

namespace Value

def bit (flag : Bool) : Int :=
  if flag then 1 else 0

/-- A number with a fraction is cut toward zero. -/
def intOfFloat (x : Float) : Except Failure Int :=
  match Number.toDyadic? x with
  | some finite => .ok finite.truncate
  | none =>
      if Number.isNaN x then .error (.rule .noNumber) else .error (.overflow .infinityToInteger)

def toInt : Value → Except Failure Int
  | .bool flag => .ok (bit flag)
  | .int number => .ok number
  | .float number => intOfFloat number
  | .text content => (Number.readInt content).mapError .literal
  | other => .error (.misuse (.notIntegral other.typeName))

/-- An integer that is too large for any number with a fraction is refused. -/
def floatOfInt (i : Int) : Except Failure Float :=
  let nearest := Number.ofInt i
  if Number.isInfinite nearest then .error (.overflow .integerToFloat) else .ok nearest

def toFloat : Value → Except Failure Float
  | .bool flag => floatOfInt (bit flag)
  | .int number => floatOfInt number
  | .float number => .ok number
  | .text content => (Number.readFloat content).mapError .literal
  | other => .error (.misuse (.notNumeric other.typeName))

/-- The value as `plain` shows it, if it can be shown. -/
def written (value : Value) : Except Failure String :=
  if value.hasLongNumber then .error (.rule .tooManyDigits) else .ok value.plain

@[simp] theorem written_text (content : String) : (text content).written = .ok content := rfl

/-- The value as `display` shows it, if it can be shown. -/
def shown (value : Value) : Except Failure String :=
  if value.hasLongNumber then .error (.rule .tooManyDigits) else .ok value.display

/-- A moment, or the moment that the text of the value writes. -/
def toMoment : Value → Except Failure Moment
  | .moment point => .ok point
  | other => do (Moment.read (← other.written)).mapError .moment

theorem toMoment_text (content : String) :
    (text content).toMoment = (Moment.read content).mapError .moment := rfl

/-- What a value yields item by item: a text its characters, a record its names. -/
def toItems : Value → Except Failure (List Value)
  | .list items => .ok items
  | .text content => .ok (content.toList.map fun c => .text (String.singleton c))
  | .record fields => .ok (fields.map (·.1))
  | other => .error (.misuse (.notIterable other.typeName))

/-- The fields of a record; of no other value fields can be asked. -/
def toRow : Value → Except Failure Row
  | .record fields => .ok fields
  | other => .error (.noMember other.typeName "get")

/-- The content of a text; nothing else has its operations, of which `member` is
the one asked for. -/
def toText (member : String) : Value → Except Failure String
  | .text content => .ok content
  | other => .error (.noMember other.typeName member)

/-- A value that is not given counts as the empty text. -/
def toTextOrEmpty (member : String) (value : Value) : Except Failure String :=
  if value.isGiven then value.toText member else .ok ""

/-- The texts that are to be joined, from a position on; nothing else can be joined. -/
def textsFrom (position : Nat) : List Value → Except Failure (List String)
  | [] => .ok []
  | .text content :: rest => (textsFrom (position + 1) rest).map (content :: ·)
  | other :: _ => .error (.misuse (.notText position other.typeName))

def ofInt? (number : Option Int) : Value :=
  number.elim .null .int

def ofMoment? (point : Option Moment) : Value :=
  point.elim .null .moment

/-- The order of two values, with the operator that asks for it. -/
def order (symbol : String) (a b : Value) : Except Failure (Option Ordering) :=
  (a.compare? b).mapError fun fault => .misuse (.unordered symbol fault)

def isLess (a b : Value) : Except Failure Bool :=
  (order "<" a b).map (· == some .lt)

def isGreater (a b : Value) : Except Failure Bool :=
  (order ">" a b).map (· == some .gt)

def isAtMost (a b : Value) : Except Failure Bool :=
  (order "<=" a b).map fun found => found == some .lt || found == some .eq

def isAtLeast (a b : Value) : Except Failure Bool :=
  (order ">=" a b).map fun found => found == some .gt || found == some .eq

def checkKey (value : Value) : Except Failure Unit :=
  match value.unhashable? with
  | some type => .error (.misuse (.unhashable type))
  | none => .ok ()

end Value

namespace Row

def require (row : Row) (field : String) : Except Failure Value :=
  match row.find? field with
  | some value => .ok value
  | none => .error (.missing (.text field))

/-- The value under any name that can serve as a key; a missing one counts as
null. -/
def lookup (row : Row) (name : Value) : Except Failure Value := do
  name.checkKey
  return ((List.find? (fun (other, _) => other.same name) row).map (·.2)).getD .null

end Row

end CheckKeeper
