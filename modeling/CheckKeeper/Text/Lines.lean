namespace CheckKeeper.Text

/-! Lines of a text.

A line ends with a line feed, a carriage return, both of them together, or one of the
separators that Unicode has for lines and larger parts.
-/

def lineEnds : List Nat :=
  [0xa, 0xb, 0xc, 0xd, 0x1c, 0x1d, 0x1e, 0x85, 0x2028, 0x2029]

def endsLine (c : Char) : Bool :=
  lineEnds.contains c.toNat

/-- The text with carriage returns, alone or before a line feed, written as one line
feed. -/
def unifyLineEnds : List Char → List Char
  | [] => []
  | '\r' :: '\n' :: rest => '\n' :: unifyLineEnds rest
  | c :: rest => (if c = '\r' then '\n' else c) :: unifyLineEnds rest

/-- The lines of a text without their ends; nothing follows the last end. -/
def cutLines : List Char → List (List Char)
  | [] => []
  | c :: rest =>
      if endsLine c then [] :: cutLines rest
      else
        match rest, cutLines rest with
        | [], _ => [[c]]
        | _, [] => [[c]]
        | _, line :: later => (c :: line) :: later

def lines (cs : List Char) : List (List Char) :=
  cutLines (unifyLineEnds cs)

end CheckKeeper.Text
