import CheckKeeper.Cli.Arguments
import CheckKeeper.Shell.Basic

namespace CheckKeeper.Cli

/-! The values of a command's options and arguments.

Options are looked at in the order in which they were given, then the arguments, then
the options that must be given.  Of an option that was given twice the last word
counts.  The first fault is the one that is told.
-/

/-- What a command was called with: values by the names of options and the labels of
arguments. -/
structure Values where
  entries : List (String × Value)

namespace Values

def empty : Values :=
  ⟨[]⟩

def add (values : Values) (name : String) (value : Value) : Values :=
  ⟨values.entries ++ [(name, value)]⟩

def find? (values : Values) (name : String) : Option Value :=
  values.entries.lookup name

def has (values : Values) (name : String) : Bool :=
  (values.find? name).isSome

def text? (values : Values) (name : String) : Option String :=
  (values.find? name).bind Value.text?

/-- The word of an argument, which is there once the arguments were read. -/
def text (values : Values) (name : String) : String :=
  (values.text? name).getD ""

def int? (values : Values) (name : String) : Option Int :=
  match values.find? name with
  | some (.int number) => some number
  | _ => none

end Values

/-- Whether a word can only name a directory. -/
def namesDirectory (word : String) : Bool :=
  word.endsWith "/" || word.endsWith "/."

def readFileName (hint word : String) : Console (Except UsageFault Value) := do
  match ← Console.kindOf (Path.read word) with
  | some .file =>
      if namesDirectory word then return .error (.noFile hint word) else return .ok (.text word)
  | some .directory =>
      if word = "" then return .error (.noFile hint word)
      else return .error (.isDirectory hint word)
  | none => return .error (.noFile hint word)

def readWord (kind : Kind) (hint word : String) : Console (Except UsageFault Value) := do
  match kind with
  | .flag => return .ok (.bool true)
  | .text => return .ok (.text word)
  | .integer =>
      return ((Number.readInt word).map Value.int).mapError fun _ => .notInteger hint word
  | .number =>
      return ((Number.readFloat word).map Value.float).mapError fun _ => .notNumber hint word
  | .file => readFileName hint word

/-- The options of a call without repetitions, each with its last word, in the order
of their first. -/
def lastWords : List GivenOption → List GivenOption
  | [] => []
  | given :: rest =>
      let same := rest.filter (·.option.name == given.option.name)
      ⟨given.option, (same.getLast?.getD given).word⟩ ::
        (lastWords rest).filter (·.option.name != given.option.name)

def readOptions (values : Values) : List GivenOption → Console (Except UsageFault Values)
  | [] => return .ok values
  | given :: rest => do
      match ← readWord given.option.kind given.option.name (given.word.getD "") with
      | .ok value => readOptions (values.add given.option.name value) rest
      | .error fault => return .error fault

/-- Reads the arguments; answers the words that are left over too. -/
def readArguments (values : Values) :
    List ArgumentSpec → List String → Console (Except UsageFault (Values × List String))
  | [], words => return .ok (values, words)
  | spec :: _, [] => return .error (.missingArgument spec.label)
  | spec :: later, word :: rest => do
      match ← readWord spec.kind spec.label word with
      | .ok value => readArguments (values.add spec.label value) later rest
      | .error fault => return .error fault

/-- The first option that must be given and is not. -/
def missingOption? (spec : CommandSpec) (values : Values) : Option String :=
  ((spec.options.filter (·.isRequired)).map (·.name)).find? (!values.has ·)

def readValues (spec : CommandSpec) (parsed : Parsed) : Console (Except UsageFault Values) := do
  match ← readOptions .empty (lastWords parsed.options) with
  | .error fault => return .error fault
  | .ok values =>
      match ← readArguments values spec.arguments parsed.words with
      | .error fault => return .error fault
      | .ok (values, left) =>
          match missingOption? spec values with
          | some name => return .error (.missingOption name)
          | none =>
              if left.isEmpty then return .ok values
              else return .error (.extraArguments left)

end CheckKeeper.Cli
