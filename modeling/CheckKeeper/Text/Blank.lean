namespace CheckKeeper.Text

/-! Blank characters, and the cuts that are made at them.

Blank are the white space of Unicode, the no-break spaces among them, and the
four information separators.  Everything here works on lists of characters;
`String` versions stand at the end.
-/

def blanks : List Nat :=
  [0x9, 0xa, 0xb, 0xc, 0xd, 0x1c, 0x1d, 0x1e, 0x1f, 0x20, 0x85, 0xa0, 0x1680,
    0x2000, 0x2001, 0x2002, 0x2003, 0x2004, 0x2005, 0x2006, 0x2007, 0x2008, 0x2009, 0x200a,
    0x2028, 0x2029, 0x202f, 0x205f, 0x3000]

def isBlank (c : Char) : Bool :=
  blanks.contains c.toNat

/-- Drops the characters at the end of `cs` that satisfy `p`. -/
def dropEndWhile (p : Char → Bool) (cs : List Char) : List Char :=
  (cs.reverse.dropWhile p).reverse

/-- The text without the blanks at its two ends. -/
def strip (cs : List Char) : List Char :=
  dropEndWhile isBlank (cs.dropWhile isBlank)

/-- The maximal runs of characters that are not blank, in order. -/
def words : List Char → List (List Char)
  | [] => []
  | c :: rest =>
      if isBlank c then words rest
      else
        match rest with
        | [] => [[c]]
        | next :: _ =>
            if isBlank next then [c] :: words rest
            else
              match words rest with
              | [] => [[c]]
              | word :: later => (c :: word) :: later

/-- The parts of the text between the occurrences of `separator`; there is
always at least one. -/
def splitAt (separator : Char) : List Char → List (List Char)
  | [] => [[]]
  | c :: rest =>
      if c = separator then [] :: splitAt separator rest
      else
        match splitAt separator rest with
        | [] => [[c]]
        | part :: later => (c :: part) :: later

def stripText (s : String) : String :=
  String.ofList (strip s.toList)

def isBlankText (s : String) : Bool :=
  s.toList.all isBlank

def splitText (separator : Char) (s : String) : List String :=
  (splitAt separator s.toList).map String.ofList

/-- The parts with `separator` between each two neighbours. -/
def join (separator : String) (parts : List String) : String :=
  separator.intercalate parts

theorem splitAt_ne_nil (separator : Char) (cs : List Char) : splitAt separator cs ≠ [] := by
  induction cs with
  | nil => simp [splitAt]
  | cons c rest ih =>
      simp only [splitAt]
      split
      · simp
      · split <;> simp

end CheckKeeper.Text
