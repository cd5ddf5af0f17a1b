import CheckKeeper.Text.CaseTable

namespace CheckKeeper.Text

/-! Upper and lower case of a text.

Most characters map one to one.  A few grow, such as the sharp s in upper case,
and the capital sigma has a form of its own at the end of a word.
-/

def CaseRun.covers (run : CaseRun) (code : Nat) : Bool :=
  run.first ≤ code && code ≤ run.last && (code - run.first) % run.stride == 0

/-- The image of one character under the first run that covers it. -/
def mapByRuns (runs : Array CaseRun) (c : Char) : Char :=
  match runs.find? (·.covers c.toNat) with
  | some run => Char.ofNat (c.toNat + run.shift).toNat
  | none => c

def upperForms (c : Char) : List Char :=
  match upperSpecials.lookup c.toNat with
  | some codes => codes.map Char.ofNat
  | none => [mapByRuns upperRuns c]

def upper (cs : List Char) : List Char :=
  cs.flatMap upperForms

/-- The lower-case form of a character, context aside. -/
def lowerForms (c : Char) : List Char :=
  if c.toNat = 0x130 then ['i', Char.ofNat 0x307] else [mapByRuns lowerRuns c]

def capitalSigma : Char := Char.ofNat 0x3a3
def smallSigma : Char := Char.ofNat 0x3c3
def finalSigma : Char := Char.ofNat 0x3c2

/-- Whether the nearest character that case rules look at has case. -/
def nearestIsCased (cs : List Char) : Bool :=
  match cs.dropWhile caseIgnorable.contains with
  | [] => false
  | c :: _ => cased.contains c

/-- Lower case of `cs`, where `before` holds the characters in front of it,
nearest first. -/
def lowerAfter (before : List Char) : List Char → List Char
  | [] => []
  | c :: rest =>
      let forms :=
        if c = capitalSigma then
          [if nearestIsCased before && !nearestIsCased rest then finalSigma else smallSigma]
        else lowerForms c
      forms ++ lowerAfter (c :: before) rest

def lower (cs : List Char) : List Char :=
  lowerAfter [] cs

def upperText (s : String) : String :=
  String.ofList (upper s.toList)

def lowerText (s : String) : String :=
  String.ofList (lower s.toList)

end CheckKeeper.Text
