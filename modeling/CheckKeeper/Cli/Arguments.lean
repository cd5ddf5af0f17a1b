import CheckKeeper.Failure
import CheckKeeper.Text.Similarity

namespace CheckKeeper.Cli

/-! The arguments of a command.

A command says which options and arguments it takes.  Reading goes over the words
from left to right: a word with two dashes is an option, one with a single dash is a
row of short options, and the others are arguments.  Behind the word `--` all words
are arguments.
-/

/-- What the word of an option or an argument is taken for. -/
inductive Kind where
  | flag
  | text
  | integer
  | number
  | file
deriving DecidableEq, Repr

structure OptionSpec where
  name : String
  short : Option Char := none
  kind : Kind
  isRequired : Bool := false

structure ArgumentSpec where
  label : String
  kind : Kind

/-- A command, or a group of commands; the latter leaves all words behind the first
argument to the command that this names. -/
structure CommandSpec where
  path : List String
  options : List OptionSpec := []
  arguments : List ArgumentSpec := []
  isGroup : Bool := false

def helpOption : OptionSpec :=
  { name := "--help", kind := .flag }

inductive UsageFault where
  | noSuchOption (name : String) (alike : List String)
  | needsValue (name : String)
  | takesNoValue (name : String)
  | missingArgument (label : String)
  | missingOption (name : String)
  | notInteger (hint given : String)
  | notNumber (hint given : String)
  | noFile (hint given : String)
  | isDirectory (hint given : String)
  | extraArguments (given : List String)
  | noSuchCommand (name : String)
  | missingCommand
  | text (content : String)
deriving DecidableEq, Repr

namespace UsageFault

def inQuotes (text : String) : String :=
  "'" ++ text ++ "'"

/-- A fault of the value that was given for an option or an argument. -/
def invalid (hint problem : String) : String :=
  "Invalid value for " ++ inQuotes hint ++ ": " ++ problem

def suggestion : List String → String
  | [] => ""
  | [one] => " Did you mean " ++ one ++ "?"
  | several => " (Possible options: " ++ Text.join ", " several ++ ")"

def message : UsageFault → String
  | .noSuchOption name alike => "No such option: " ++ name ++ suggestion alike
  | .needsValue name => "Option " ++ Text.quotedText name ++ " requires an argument."
  | .takesNoValue name => "Option " ++ Text.quotedText name ++ " does not take a value."
  | .missingArgument label => "Missing argument " ++ inQuotes label ++ "."
  | .missingOption name => "Missing option " ++ inQuotes name ++ "."
  | .notInteger hint given =>
      invalid hint (Text.quotedText given ++ " is not a valid integer.")
  | .notNumber hint given => invalid hint (Text.quotedText given ++ " is not a valid float.")
  | .noFile hint given => invalid hint ("File " ++ Text.quotedText given ++ " does not exist.")
  | .isDirectory hint given =>
      invalid hint ("File " ++ Text.quotedText given ++ " is a directory.")
  | .extraArguments [one] => "Got unexpected extra argument (" ++ one ++ ")"
  | .extraArguments several =>
      "Got unexpected extra arguments (" ++ Text.join " " several ++ ")"
  | .noSuchCommand name => "No such command " ++ Text.quotedText name ++ "."
  | .missingCommand => "Missing command."
  | .text content => content

/-- Faults of an option's value that is missing or too much. -/
def isPlain : UsageFault → Bool
  | .needsValue _ | .takesNoValue _ => true
  | _ => false

end UsageFault

namespace CommandSpec

def allOptions (spec : CommandSpec) : List OptionSpec :=
  spec.options ++ [helpOption]

def name (spec : CommandSpec) : String :=
  Text.join " " spec.path

def usage (spec : CommandSpec) : String :=
  let words := if spec.isGroup then ["COMMAND", "[ARGS]..."] else spec.arguments.map (·.label)
  "Usage: " ++ Text.join " " (spec.path ++ "[OPTIONS]" :: words)

/-- What is told when a command was called in a wrong way: in front of the fault how it
is called, unless the fault says all there is to say. -/
def complaint (spec : CommandSpec) (fault : UsageFault) : String :=
  let told := "Error: " ++ fault.message
  if fault.isPlain then told
  else spec.usage ++ "\nTry '" ++ spec.name ++ " --help' for help.\n\n" ++ told

def option? (spec : CommandSpec) (name : String) : Option OptionSpec :=
  spec.allOptions.find? (·.name == name)

def short? (spec : CommandSpec) (letter : Char) : Option OptionSpec :=
  spec.allOptions.find? (·.short == some letter)

/-- The options whose names are like one that no option has. -/
def alike (spec : CommandSpec) (name : String) : List String :=
  ((spec.allOptions.map (·.name)).filter (Text.areAlike · name)).mergeSort (· ≤ ·)

end CommandSpec

/-- An option as it was given: its name, and its word if it takes one. -/
structure GivenOption where
  option : OptionSpec
  word : Option String

structure Parsed where
  options : List GivenOption
  words : List String

namespace Parsed

def empty : Parsed :=
  ⟨[], []⟩

def addOptions (parsed : Parsed) (given : List GivenOption) : Parsed :=
  { parsed with options := given ++ parsed.options }

def addWord (parsed : Parsed) (word : String) : Parsed :=
  { parsed with words := word :: parsed.words }

end Parsed

/-- The options of one word.  The last of them may still want a value, which is the
next word then. -/
structure OptionWord where
  options : List GivenOption
  wanting : Option OptionSpec

/-- A name and the value behind the first equal sign, if there is one. -/
def cutValue (word : List Char) : List Char × Option (List Char) :=
  match word.dropWhile (· != '=') with
  | [] => (word, none)
  | _ :: value => (word.takeWhile (· != '='), some value)

def readLong (option : OptionSpec) (value : Option (List Char)) : Except UsageFault OptionWord :=
  match option.kind, value with
  | .flag, none => .ok ⟨[⟨option, none⟩], none⟩
  | .flag, some _ => .error (.takesNoValue option.name)
  | _, some given => .ok ⟨[⟨option, some (String.ofList given)⟩], none⟩
  | _, none => .ok ⟨[], some option⟩

/-- Short options that stand together; what follows one that takes a value is its
value. -/
def readShorts (spec : CommandSpec) : List Char → Except UsageFault OptionWord
  | [] => .ok ⟨[], none⟩
  | letter :: rest =>
      match spec.short? letter with
      | none => .error (.noSuchOption (String.ofList ['-', letter]) [])
      | some option =>
          if option.kind = .flag then
            (readShorts spec rest).map fun later =>
              { later with options := ⟨option, none⟩ :: later.options }
          else if rest.isEmpty then .ok ⟨[], some option⟩
          else .ok ⟨[⟨option, some (String.ofList rest)⟩], none⟩

def readOptionWord (spec : CommandSpec) (word : List Char) : Except UsageFault OptionWord :=
  let (name, value) := cutValue word
  let given := String.ofList name
  match spec.option? given with
  | some option => readLong option value
  | none =>
      if word.take 2 = ['-', '-'] then .error (.noSuchOption given (spec.alike given))
      else readShorts spec word.tail

/-- Whether a word is read as an option; a dash alone is an argument. -/
def isOptionWord (word : String) : Bool :=
  word.startsWith "-" && word != "-"

def parse (spec : CommandSpec) : List String → Except UsageFault Parsed
  | [] => .ok .empty
  | word :: rest =>
      if word = "--" then .ok ⟨[], rest⟩
      else if isOptionWord word then
        match readOptionWord spec word.toList with
        | .error fault => .error fault
        | .ok ⟨given, none⟩ => (parse spec rest).map (·.addOptions given)
        | .ok ⟨given, some option⟩ =>
            match rest with
            | [] => .error (.needsValue option.name)
            | next :: later =>
                (parse spec later).map (·.addOptions (given ++ [⟨option, some next⟩]))
      else if spec.isGroup then .ok ⟨[], word :: rest⟩
      else (parse spec rest).map (·.addWord word)

end CheckKeeper.Cli
