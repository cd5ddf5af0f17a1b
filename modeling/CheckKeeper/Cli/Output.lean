import CheckKeeper.Shell.Basic
import CheckKeeper.Outcome

namespace CheckKeeper.Cli

/-! Lines that commands write. -/

/-- A line as it is; colours are taken out. -/
def line (text : String) : String :=
  String.ofList (Text.dropColours text.toList) ++ "\n"

def say (text : String) : Console Unit :=
  Console.print (line text)

def warn (text : String) : Console Unit :=
  Console.complain (line text)

def saySuccess (text : String) : Console Unit :=
  Console.tell .success text

def sayError (text : String) : Console Unit :=
  Console.tell .error text

def sayWarning (text : String) : Console Unit :=
  Console.tell .warning text

def sayOutcome (outcome : Outcome) : Console Unit :=
  let text := outcome.checkId ++ ": " ++ outcome.action.name ++ " - " ++ outcome.message
  match outcome.action with
  | .failed => sayError (text ++ " (" ++ (Value.ofText? outcome.error).plain ++ ")")
  | .invalidated | .unsupported => sayWarning text
  | _ => saySuccess text

/-- The text with blanks behind it, up to a width. -/
def padded (width : Nat) (text : String) : String :=
  text ++ String.ofList (List.replicate (width - text.length) ' ')

end CheckKeeper.Cli
