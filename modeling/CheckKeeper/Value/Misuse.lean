import CheckKeeper.Value.Order

namespace CheckKeeper

/-! What goes wrong when a value is used as something that it is not.

All of these are faults of type.  Types are given by the words of
`Value.typeName`.
-/

inductive Misuse where
  | unordered (operator : String) (fault : OrderFault)
  | noArithmetic (operator left right : String)
  | unhashable (type : String)
  | notIterable (type : String)
  | notIntegral (type : String)
  | notNumeric (type : String)
  | notIndexable (type : String)
  | notText (position : Nat) (type : String)
  | notMatchable (type : String)
  | notPath (type : String)
  | unwritable (type : String)
  | unwritableName (type : String)
  | unknownField (holder field : String)
  | missingField (holder field : String)
deriving DecidableEq, Repr

def OrderFault.message (operator : String) : OrderFault → String
  | .kinds left right =>
      "'" ++ operator ++ "' not supported between instances of '" ++ left ++ "' and '" ++ right ++ "'"
  | .clocks => "can't compare offset-naive and offset-aware datetimes"
  | .dayAndMoment => "can't compare datetime.datetime to datetime.date"

/-- How messages call an item that is reached by name in a value of this type. -/
def indexFault (type : String) : String :=
  if type = "str" then "string indices must be integers, not 'str'"
  else if type = "list" then "list indices must be integers or slices, not str"
  else "'" ++ type ++ "' object is not subscriptable"

namespace Misuse

def message : Misuse → String
  | .unordered operator fault => fault.message operator
  | .noArithmetic operator left right =>
      "unsupported operand type(s) for " ++ operator ++ ": '" ++ left ++ "' and '" ++ right ++ "'"
  | .unhashable type => "unhashable type: '" ++ type ++ "'"
  | .notIterable type => "'" ++ type ++ "' object is not iterable"
  | .notIntegral type =>
      "int() argument must be a string, a bytes-like object or a real number, not '" ++ type ++ "'"
  | .notNumeric type => "float() argument must be a string or a real number, not '" ++ type ++ "'"
  | .notIndexable type => indexFault type
  | .notText position type =>
      "sequence item " ++ Number.renderInt (position : Nat) ++ ": expected str instance, " ++ type ++
        " found"
  | .notMatchable type => "expected string or bytes-like object, got '" ++ type ++ "'"
  | .notPath type => "expected str, bytes or os.PathLike object, not " ++ type
  | .unwritable type => "Object of type " ++ type ++ " is not JSON serializable"
  | .unwritableName type => "keys must be str, int, float, bool or None, not " ++ type
  | .unknownField holder field =>
      holder ++ ".__init__() got an unexpected keyword argument '" ++ field ++ "'"
  | .missingField holder field =>
      holder ++ ".__init__() missing 1 required positional argument: '" ++ field ++ "'"

end Misuse

end CheckKeeper
