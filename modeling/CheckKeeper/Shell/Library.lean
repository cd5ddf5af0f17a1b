import CheckKeeper.Text.Markup
import CheckKeeper.Yaml.Node

namespace CheckKeeper.Shell

/-! What the shell takes from elsewhere: a reader of YAML, and a terminal that shows messages.

Neither is part of the program, which knows no more of them than that they answer or fail.
-/

/-- The mark in front of a message, and the style that the mark alone is written in. -/
structure Mark where
  sign : String
  style : String

namespace Mark

def success : Mark := ⟨"✓", "bold green"⟩
def error : Mark := ⟨"✗", "bold red"⟩
def warning : Mark := ⟨"⚠", "bold yellow"⟩

end Mark

structure Library where
  readYaml : Yaml.Source → String → Except Failure Value
  showMarked : Mark → String → Except Failure String

/-- A library for rehearsals.  Its terminal has no colours, is as wide as need be, and has every
character. -/
def Library.standard : Library where
  readYaml source content := Yaml.read source content.toList
  showMarked mark message :=
    .ok (mark.sign ++ " " ++ String.ofList (Text.shownFrom 2 message.toList) ++ "\n")

end CheckKeeper.Shell
