import CheckKeeper.Failure

namespace CheckKeeper

/-! Paths of files.

A path is written without empty parts and without parts that stay where they are;
a part that goes up is kept.  Two slashes in front are another root than one, while
more than two count as one.
-/

structure Path where
  root : String
  parts : List String
deriving DecidableEq, Repr

namespace Path

/-- The slashes that a path starts with. -/
def rootOf : List Char → String
  | '/' :: '/' :: '/' :: _ => "/"
  | '/' :: '/' :: _ => "//"
  | '/' :: _ => "/"
  | _ => ""

def read (text : String) : Path where
  root := rootOf text.toList
  parts := (Text.splitText '/' text).filter fun part => part != "" && part != "."

def render (path : Path) : String :=
  if path.root = "" && path.parts.isEmpty then "."
  else path.root ++ Text.join "/" path.parts

/-- The path that leads on by `below`, which wins if it has a root of its own. -/
def append (path below : Path) : Path :=
  if below.root = "" then ⟨path.root, path.parts ++ below.parts⟩ else below

def entry (path : Path) (name : String) : Path :=
  path.append (read name)

def parent (path : Path) : Path :=
  { path with parts := path.parts.dropLast }

/-- Puts the home directory for a tilde in front.  The home of another user is not
known. -/
def expand (home : String) (path : Path) : Except Failure Path :=
  match path.root, path.parts with
  | "", first :: rest =>
      if first = "~" then
        if home.startsWith "~" then .error .noHome
        else .ok ((read (if home = "" then "/" else home)).append ⟨"", rest⟩)
      else if first.startsWith "~" then .error .noHome
      else .ok path
  | _, _ => .ok path

end Path

end CheckKeeper
