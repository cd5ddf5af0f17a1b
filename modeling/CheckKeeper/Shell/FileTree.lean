import CheckKeeper.Path
import CheckKeeper.Text.Lines

namespace CheckKeeper

/-! Files in memory.

A tree holds the texts of files by the places where they stand, and the places of
directories.  A place is a path without parts that go up.  The directory that
relative paths begin in, and the roots, are always there.
-/

inductive FileKind where
  | file
  | directory
deriving DecidableEq, Repr

structure FileTree where
  files : List (Path × String)
  directories : List Path

namespace FileTree

def empty : FileTree :=
  ⟨[], []⟩

def kindAt (tree : FileTree) (place : Path) : Option FileKind :=
  if tree.files.any (·.1 == place) then some .file
  else if place.parts.isEmpty || tree.directories.contains place then some .directory
  else none

/-- The place of a part of a path, seen from a directory. -/
def below (here : Path) (part : String) : Path :=
  if part = ".." then here.parent else { here with parts := here.parts ++ [part] }

/-- Follows the parts of a path from a place.  All that it leads through must be
directories; what it leads to may be anything or nothing. -/
def follow (tree : FileTree) (here : Path) : List String → Except (String → FileFault) Path
  | [] => .ok here
  | part :: rest =>
      match tree.kindAt here with
      | some .directory => tree.follow (below here part) rest
      | some .file => .error .notDirectory
      | none => .error .missing

def placeOf (tree : FileTree) (path : Path) : Except Failure Path :=
  (tree.follow ⟨path.root, []⟩ path.parts).mapError fun fault => .file (fault path.render)

def kindOf (tree : FileTree) (path : Path) : Option FileKind :=
  (tree.placeOf path).toOption.bind tree.kindAt

def read (tree : FileTree) (path : Path) : Except Failure String := do
  let place ← tree.placeOf path
  match tree.files.lookup place, tree.kindAt place with
  | some content, _ => .ok (String.ofList (Text.unifyLineEnds content.toList))
  | none, some _ => .error (.file (.isDirectory path.render))
  | none, none => .error (.file (.missing path.render))

def write (tree : FileTree) (path : Path) (content : String) : Except Failure FileTree := do
  let place ← tree.placeOf path
  match tree.kindAt place with
  | some .directory => .error (.file (.isDirectory path.render))
  | some .file =>
      .ok { tree with files := tree.files.map fun file =>
        if file.1 == place then (place, content) else file }
  | none => .ok { tree with files := tree.files ++ [(place, content)] }

/-- Makes the directories that the parts of a path lead through, from a place on. -/
def makeAlong (tree : FileTree) (here : Path) :
    List String → Except (String → FileFault) FileTree
  | [] => .ok tree
  | part :: rest =>
      let next := below here part
      match tree.kindAt next with
      | some .directory => tree.makeAlong next rest
      | some .file => .error (if rest.isEmpty then .present else .notDirectory)
      | none => { tree with directories := tree.directories ++ [next] }.makeAlong next rest

/-- Makes a directory and those that it stands in, as far as they are not there. -/
def makeDirectory (tree : FileTree) (path : Path) : Except Failure FileTree :=
  (tree.makeAlong ⟨path.root, []⟩ path.parts).mapError fun fault => .file (fault path.render)

/-- Writes a file, and makes the directories that it stands in. -/
def add (tree : FileTree) (path : Path) (content : String) : Except Failure FileTree := do
  (← tree.makeDirectory path.parent).write path content

end FileTree

end CheckKeeper
