import CheckKeeper.Calendar.Iso

namespace CheckKeeper

open Calendar

/-! Values of cells, filters and parameters.

What stands in a declared check or in a sample row is not known in advance: it
may be any JSON value, a moment, or a day.  The fields of a record keep the order
in which they were first written, and their names need not be texts, as the
files of declarations allow any value there.
-/

inductive Value where
  | null
  | bool (flag : Bool)
  | int (number : Int)
  | float (number : Float)
  | text (content : String)
  | moment (point : Moment)
  | day (date : Date)
  | list (items : List Value)
  | record (fields : List (Value × Value))

instance : Inhabited Value := ⟨.null⟩

namespace Value

/-- The word for the type of a value, as messages use it. -/
def typeName : Value → String
  | .null => "NoneType"
  | .bool _ => "bool"
  | .int _ => "int"
  | .float _ => "float"
  | .text _ => "str"
  | .moment _ => "datetime.datetime"
  | .day _ => "datetime.date"
  | .list _ => "list"
  | .record _ => "dict"

/-- The same word without the place where the type is defined. -/
def shortTypeName : Value → String
  | .moment _ => "datetime"
  | .day _ => "date"
  | other => other.typeName

def isNull : Value → Bool
  | .null => true
  | _ => false

/-- Whether a value counts as given: nothing, nought and what is empty do not. -/
def isGiven : Value → Bool
  | .null => false
  | .bool flag => flag
  | .int number => number != 0
  | .float number => number != 0.0
  | .text content => content != ""
  | .moment _ => true
  | .day _ => true
  | .list items => !items.isEmpty
  | .record fields => !fields.isEmpty

/-- The value itself if it is given, and else `otherwise`. -/
def orElse (value otherwise : Value) : Value :=
  if value.isGiven then value else otherwise

def text? : Value → Option String
  | .text content => some content
  | _ => none

/-- The record with the given names, all of them texts. -/
def ofFields (fields : List (String × Value)) : Value :=
  .record (fields.map fun (name, value) => (.text name, value))

def ofTexts (texts : List String) : Value :=
  .list (texts.map .text)

def ofText? (content : Option String) : Value :=
  content.elim .null .text

def ofNat (n : Nat) : Value :=
  .int n

end Value

/-- The fields of a record: one row of a table, or one entry of a file. -/
abbrev Row := List (Value × Value)

namespace Row

def named (field : String) : Value → Bool
  | .text content => content == field
  | _ => false

def find? (row : Row) (field : String) : Option Value :=
  (List.find? (fun (name, _) => named field name) row).map (·.2)

/-- The value of a field, where a missing one counts as null. -/
def get (row : Row) (field : String) : Value :=
  (row.find? field).getD .null

def has (row : Row) (field : String) : Bool :=
  (row.find? field).isSome

/-- Sets a field: in its place if the row has it, and else at the end. -/
def set (row : Row) (field : String) (value : Value) : Row :=
  if row.has field then
    row.map fun (name, old) => (name, if named field name then value else old)
  else row ++ [(.text field, value)]

theorem find?_cons_self (row : Row) (field : String) (value : Value) :
    Row.find? ((.text field, value) :: row) field = some value := by
  simp [find?, named]

end Row

end CheckKeeper
