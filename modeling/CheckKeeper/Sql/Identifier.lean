import CheckKeeper.Value.Excess

namespace CheckKeeper.Sql

/-! Declared identifiers.

Columns, tables and their paths are taken only if they are built of plain letters,
digits and underscores, and are written between back quotes.  A name may end in
one line break.
-/

def isLetter (c : Char) : Bool :=
  ('A' ≤ c && c ≤ 'Z') || ('a' ≤ c && c ≤ 'z')

def isNameStart (c : Char) : Bool :=
  isLetter c || c == '_'

def isNameChar (c : Char) : Bool :=
  isNameStart c || Number.isDigit c

def isProjectChar (c : Char) : Bool :=
  isNameChar c || c == '-'

/-- Characters of `part` up to the end, where one line break may stand before it. -/
def isRunOf (part : Char → Bool) : List Char → Bool
  | [] => true
  | ['\n'] => true
  | c :: rest => part c && isRunOf part rest

/-- A column, a table or a dataset. -/
def isName : List Char → Bool
  | [] => false
  | c :: rest => isNameStart c && isRunOf isNameChar rest

/-- A project; unlike other names it may hold dashes and starts with a letter. -/
def isProject : List Char → Bool
  | [] => false
  | c :: rest => isLetter c && isRunOf isProjectChar rest

def backQuoted (text : String) : String :=
  "\x60" ++ text ++ "\x60"

def column (name : Value) : Except Failure String :=
  match name with
  | .text content =>
      if isName content.toList then .ok (backQuoted content)
      else .error (.identifier (.column name))
  | other => .error (other.refusal (.identifier (.column other)))

/-- Refuses parts that are no names; the first of them is reported. -/
def checkNames : List String → Except Failure Unit
  | [] => .ok ()
  | part :: rest =>
      if isName part.toList then checkNames rest else .error (.identifier (.namePart part))

/-- A table of up to three parts between back quotes: the table alone, or behind
its dataset, or behind its project and dataset. -/
def path (location : String) : Except Failure String := do
  match Text.splitText '.' location with
  | [project, dataset, table] =>
      if isProject project.toList then
        checkNames [dataset, table]
        return backQuoted location
      else .error (.identifier (.project project))
  | [dataset, table] =>
      checkNames [dataset, table]
      return backQuoted location
  | [table] =>
      if location = "" then .error (.identifier (.path (.text location)))
      else
        checkNames [table]
        return backQuoted location
  | _ => .error (.identifier (.path (.text location)))

def pathOf (location : Value) : Except Failure String :=
  if location.isGiven then
    match location with
    | .text content => path content
    | other => .error (.noMember other.typeName "split")
  else .error (.identifier (.path location))

def countDots : Value → Except Failure Nat
  | .text content => .ok (content.toList.count '.')
  | .list items => .ok (items.countP fun item => item.same (.text "."))
  | other => .error (.noMember other.typeName "count")

/-- The target of a check between back quotes.  The schema may name a project
before the dataset. -/
def target (schema table : Value) : Except Failure String := do
  if !schema.isGiven || !table.isGiven then .error (.identifier .noTarget)
  else if 1 < (← countDots schema) then
    .error (schema.refusal (.identifier (.schema schema)))
  else
    match table with
    | .text content =>
        if isName content.toList then path ((← schema.written) ++ "." ++ content)
        else .error (.identifier (.namePart content))
    | other => .error (.misuse (.notMatchable other.typeName))

end CheckKeeper.Sql
