import CheckKeeper.Value.Display
import CheckKeeper.Value.Misuse
import CheckKeeper.Json.Reader
import CheckKeeper.Yaml.Cursor

namespace CheckKeeper

open Calendar

/-! Why an operation fails.

A definition that declares nonsense is no failure: the compiler answers it with a
reason.  Failures are what stops an operation: an input that cannot be read, a
collaborator that is down, a rule that the caller broke.  `Failure.message` is the
text of each, `Failure.name` the word for its class.
-/

/-- An identifier that is not on the allow-list. -/
inductive IdentifierFault where
  | column (given : Value)
  | path (given : Value)
  | project (given : String)
  | namePart (given : String)
  | schema (given : Value)
  | noTarget

/-- A row filter that is not of one of the two forms. -/
inductive FilterFault where
  | freeText (given : String)
  | shape (type : String)
  | entry (given : Value)
  | operator (given : Value)
  | nullComparison (symbol : String)

/-- A query that is more than one read-only statement, or none. -/
inductive QueryFault where
  | empty
  | start (words : String)
  | forbidden (keyword : String)
  | manyStatements
deriving DecidableEq, Repr

/-- A rule of the library that its caller broke. -/
inductive RuleFault where
  | noCheckId
  | noJobName
  | verdict
  | fewWorkers
  | noNumber
  | tooManyDigits
  | beyondCharacters
  | rejected (reason message : String)
  | unknownLevel (level : String)
deriving DecidableEq, Repr

inductive OverflowFault where
  | integerToFloat
  | quotient
  | infinityToInteger
  | machineInteger
  | clock
  | span
deriving DecidableEq, Repr

/-- What is wrong with a configuration. -/
inductive ConfigFault where
  | noDataset
  | maxWorkers (given : Value)
  | pollInterval (given : Value)
  | batchLimit (given : Value)
  | logLevel
  | logFormat
  | unknownKeys (keys : List String)
  | malformed (path : String) (fault : Yaml.Fault)
  | notMapping (path : String)
  | text (content : String)

/-- Why a file cannot be used; the paths are as they were written. -/
inductive FileFault where
  | isDirectory (path : String)
  | notDirectory (path : String)
  | missing (path : String)
  | present (path : String)
deriving DecidableEq, Repr

/-- A template that cannot be filled, or not with the arguments that are given. -/
inductive TemplateFault where
  | tooFew
  | tooMany
  | noMapping
  | measure
  | beyondMeasure
  | wideWidth
  | widePrecision
  | notReal (letter : Char) (type : String)
  | notInteger (letter : Char) (type : String)
  | notNumber (type : String)
  | noCharacter
  | beyondCharacters
  | incomplete
  | incompleteKey
  | unknown (letter : Char) (index : Nat)
deriving DecidableEq, Repr

inductive Failure where
  | identifier (fault : IdentifierFault)
  | rowFilter (fault : FilterFault)
  | unsafeQuery (fault : QueryFault)
  | literal (fault : Number.LiteralError)
  | moment (fault : IsoError)
  | choice (given : Value) (among : String)
  | rule (fault : RuleFault)
  | missing (key : Value)
  | misuse (fault : Misuse)
  | noMember (type member : String)
  | overflow (fault : OverflowFault)
  | tooDeep
  | malformedJson
  | config (fault : ConfigFault)
  | noConfig (path : String)
  | file (fault : FileFault)
  | notFound (checkId : String)
  | typeChange (checkId : String) (declared requested : Value)
  | transient (text : String)
  | store (text : String)
  | scheduler (text : String)
  | permanent (text : String)
  | general (text : String)
  | service (text : String)
  | noHome
  | yaml (fault : Yaml.Fault) (source : Yaml.Source)
  | template (fault : TemplateFault)
  | other (name text : String)

/-- The operators of row filters, in the order in which messages list them. -/
def allowedOperators : List String :=
  ["!=", "<", "<=", "=", ">", ">="]

namespace IdentifierFault

def message : IdentifierFault → String
  | .column given => "Invalid column name: " ++ given.display
  | .path given => "Invalid table path: " ++ given.display
  | .project given => "Invalid project id: " ++ Text.quotedText given
  | .namePart given => "Invalid dataset or table name: " ++ Text.quotedText given
  | .schema given => "Invalid target schema: " ++ given.display
  | .noTarget => "Target schema and table are required"

end IdentifierFault

namespace FilterFault

def message : FilterFault → String
  | .freeText given =>
      "Row filter must be JSON (\x7bcolumn: value\x7d or [\x7bcolumn, op, value\x7d]); " ++
        "free-text conditions are not supported: " ++
        Text.quotedText (String.ofList (given.toList.take 80))
  | .shape type => "Row filter must be a dict or a list, got " ++ type
  | .entry given => "Invalid filter entry: " ++ given.display
  | .operator given =>
      "Invalid operator '" ++ given.plain ++ "'. Allowed: " ++
        (Value.ofTexts allowedOperators).display
  | .nullComparison symbol => "Operator '" ++ symbol ++ "' cannot compare against NULL"

end FilterFault

namespace QueryFault

def message : QueryFault → String
  | .empty => "Query is empty once comments are removed"
  | .start words =>
      "Query must start with SELECT or WITH, got: " ++
        Text.quotedText (String.ofList (words.toList.take 50))
  | .forbidden keyword => "Query is not read-only: found keyword " ++ keyword
  | .manyStatements => "Multi-statement SQL is not allowed in a consistency query"

end QueryFault

namespace RuleFault

def message : RuleFault → String
  | .noCheckId => "check_id is required"
  | .noJobName => "check_id is required to derive a job name"
  | .verdict => "CompileOutcome must have exactly one of compiled or reason"
  | .fewWorkers => "max_workers must be >= 1"
  | .noNumber => "cannot convert float NaN to integer"
  | .tooManyDigits =>
      "Exceeds the limit (4300 digits) for integer string conversion; use " ++
        "sys.set_int_max_str_digits() to increase the limit"
  | .beyondCharacters => "chr() arg not in range(0x110000)"
  | .rejected reason message => reason ++ ": " ++ message
  | .unknownLevel level => "Unknown level: " ++ Text.quotedText level

end RuleFault

namespace OverflowFault

def message : OverflowFault → String
  | .integerToFloat => "int too large to convert to float"
  | .quotient => "integer division result too large for a float"
  | .infinityToInteger => "cannot convert float infinity to integer"
  | .machineInteger => "Python int too large to convert to C int"
  | .clock => "date value out of range"
  | .span => "timedelta out of range"

end OverflowFault

namespace ConfigFault

def message : ConfigFault → String
  | .noDataset => "dataset is required"
  | .maxWorkers given => "max_workers must be a positive integer, got " ++ given.display
  | .pollInterval given => "poll_interval_seconds must be a positive number, got " ++ given.display
  | .batchLimit given => "batch_limit must be a positive integer, got " ++ given.display
  | .logLevel => "log_level must be one of DEBUG, INFO, WARNING, ERROR"
  | .logFormat => "log_format must be one of structured, pretty"
  | .unknownKeys keys => "Unknown config key(s): " ++ Text.join ", " keys
  | .malformed path fault =>
      "Invalid YAML syntax in " ++ path ++ ": " ++ fault.message (.file path)
  | .notMapping path => path ++ " must contain a mapping"
  | .text content => content

end ConfigFault

namespace FileFault

def name : FileFault → String
  | .isDirectory _ => "IsADirectoryError"
  | .notDirectory _ => "NotADirectoryError"
  | .missing _ => "FileNotFoundError"
  | .present _ => "FileExistsError"

def message : FileFault → String
  | .isDirectory path => "[Errno 21] Is a directory: " ++ Text.quotedText path
  | .notDirectory path => "[Errno 20] Not a directory: " ++ Text.quotedText path
  | .missing path => "[Errno 2] No such file or directory: " ++ Text.quotedText path
  | .present path => "[Errno 17] File exists: " ++ Text.quotedText path

end FileFault

namespace TemplateFault

def name : TemplateFault → String
  | .incomplete | .incompleteKey | .wideWidth | .widePrecision | .unknown _ _ => "ValueError"
  | .beyondCharacters | .beyondMeasure => "OverflowError"
  | _ => "TypeError"

def message : TemplateFault → String
  | .tooFew => "not enough arguments for format string"
  | .tooMany => "not all arguments converted during string formatting"
  | .noMapping => "format requires a mapping"
  | .measure => "* wants int"
  | .beyondMeasure => "Python int too large to convert to C int"
  | .wideWidth => "width too big"
  | .widePrecision => "precision too big"
  | .notReal letter type =>
      String.ofList ['%', letter] ++ " format: a real number is required, not " ++ type
  | .notInteger letter type =>
      String.ofList ['%', letter] ++ " format: an integer is required, not " ++ type
  | .notNumber type => "must be real number, not " ++ type
  | .noCharacter => "%c requires int or char"
  | .beyondCharacters => "%c arg not in range(0x110000)"
  | .incomplete => "incomplete format"
  | .incompleteKey => "incomplete format key"
  | .unknown letter index =>
      let shown := if '\x1f' ≤ letter && letter ≤ '~' then letter else '?'
      "unsupported format character '" ++ String.ofList [shown] ++ "' (0x" ++
        String.ofList (Nat.toDigits 16 letter.toNat) ++ ") at index " ++
        Number.renderInt (index : Nat)

end TemplateFault

/-- The text of a literal that cannot be read; of an integer only the first 200
characters are shown. -/
def Number.LiteralError.message : Number.LiteralError → String
  | .notInteger text =>
      "invalid literal for int() with base 10: " ++
        String.ofList ((Text.quotedText text).toList.take 200)
  | .notNumber text => "could not convert string to float: " ++ Text.quotedText text
  | .tooManyDigits count =>
      "Exceeds the limit (4300 digits) for integer string conversion: value has " ++
        Number.renderInt (count : Nat) ++
        " digits; use sys.set_int_max_str_digits() to increase the limit"

namespace Failure

def name : Failure → String
  | .identifier _ => "IdentifierError"
  | .rowFilter _ => "FilterError"
  | .unsafeQuery _ => "UnsafeQueryError"
  | .literal _ | .moment _ | .choice _ _ | .rule _ => "ValueError"
  | .missing _ => "KeyError"
  | .misuse _ => "TypeError"
  | .noMember _ _ => "AttributeError"
  | .overflow _ => "OverflowError"
  | .tooDeep => "RecursionError"
  | .malformedJson => "JSONDecodeError"
  | .config _ => "ConfigError"
  | .noConfig _ => "FileNotFoundError"
  | .file fault => fault.name
  | .notFound _ => "NotFoundError"
  | .typeChange _ _ _ | .permanent _ => "PermanentError"
  | .transient _ => "TransientError"
  | .store _ => "StoreFailure"
  | .scheduler _ => "SchedulerFailure"
  | .general _ => "DqsyncError"
  | .service _ => "GoogleAPIError"
  | .noHome => "RuntimeError"
  | .yaml fault _ => fault.name
  | .template fault => fault.name
  | .other name _ => name

def message : Failure → String
  | .identifier fault => fault.message
  | .rowFilter fault => fault.message
  | .unsafeQuery fault => fault.message
  | .literal fault => fault.message
  | .moment fault => fault.message
  | .choice given among => given.display ++ " is not a valid " ++ among
  | .rule fault => fault.message
  | .missing key => key.display
  | .misuse fault => fault.message
  | .noMember type member => "'" ++ type ++ "' object has no attribute '" ++ member ++ "'"
  | .overflow fault => fault.message
  | .tooDeep => "maximum recursion depth exceeded"
  | .malformedJson => "malformed JSON"
  | .config fault => fault.message
  | .noConfig path => "dqsync config.yaml not found at " ++ path
  | .file fault => fault.message
  | .notFound checkId => "Check definition not found: " ++ checkId
  | .typeChange checkId declared requested =>
      "Check " ++ checkId ++ ": type cannot change from " ++ declared.plain ++ " to " ++
        requested.plain
  | .transient text | .store text | .scheduler text | .permanent text | .general text
  | .service text => text
  | .noHome => "Could not determine home directory."
  | .yaml fault source => fault.message source
  | .template fault => fault.message
  | .other "KeyError" text => Text.quotedText text
  | .other _ text => text

/-- The failure of a class with a text; of an absent definition the text is the id. -/
def ofName (name text : String) : Failure :=
  match name with
  | "DqsyncError" => .general text
  | "ConfigError" => .config (.text text)
  | "TransientError" => .transient text
  | "StoreFailure" => .store text
  | "SchedulerFailure" => .scheduler text
  | "PermanentError" => .permanent text
  | "NotFoundError" => .notFound text
  | name => .other name text

/-- The classes of the library that a failure belongs to, the narrowest first. -/
def lineage : Failure → List String
  | .general _ => ["DqsyncError"]
  | .config _ => ["ConfigError", "DqsyncError"]
  | .transient _ => ["TransientError", "DqsyncError"]
  | .store _ => ["StoreFailure", "TransientError", "DqsyncError"]
  | .scheduler _ => ["SchedulerFailure", "TransientError", "DqsyncError"]
  | .permanent _ | .typeChange _ _ _ => ["PermanentError", "DqsyncError"]
  | .notFound _ => ["NotFoundError", "PermanentError", "DqsyncError"]
  | _ => []

/-- Failures after which the same work may be tried again. -/
def isTransient : Failure → Bool
  | .transient _ | .store _ | .scheduler _ => true
  | _ => false

def isPermanent : Failure → Bool
  | .permanent _ | .notFound _ | .typeChange _ _ _ => true
  | _ => false

/-- Failures that end the program and are never recorded as the fate of one check. -/
def isInterrupt : Failure → Bool
  | .other name _ =>
      ["KeyboardInterrupt", "SystemExit", "GeneratorExit", "BaseException"].contains name
  | _ => false

/-- Failures that tell of a value that cannot be taken. -/
def isValueFault : Failure → Bool
  | .identifier _ | .rowFilter _ | .unsafeQuery _ | .literal _ | .moment _ | .choice _ _
  | .rule _ | .malformedJson => true
  | .template fault => fault.name == "ValueError"
  | .other name _ => name == "ValueError"
  | _ => false

/-- Failures that tell of one bad entry and leave the others of a file to be tried. -/
def isEntryFault : Failure → Bool
  | .missing _ | .misuse _ => true
  | .other name _ => ["ValueError", "KeyError", "TypeError"].contains name
  | failure => failure.isValueFault || failure.isPermanent || failure.isTransient

end Failure

def Json.ReadFault.toFailure : Json.ReadFault → Failure
  | .malformed => .malformedJson
  | .tooDeep => .tooDeep
  | .tooManyDigits count => .literal (.tooManyDigits count)

end CheckKeeper
