namespace CheckKeeper.Text

/-! How much two texts have in common.

The longest run that both have is matched first, and then what stands to its left
and to its right.  The texts are alike if the matched characters make up at least
three fifths of both together.
-/

def commonPrefix : List Char → List Char → Nat
  | a :: as, b :: bs => if a = b then commonPrefix as bs + 1 else 0
  | _, _ => 0

/-- Two places and the length of the run that begins there in both texts. -/
structure Match where
  left : Nat
  right : Nat
  size : Nat
deriving DecidableEq, Repr

/-- The longer of two matches, and the first if they are equally long. -/
def Match.longer (best other : Match) : Match :=
  if best.size < other.size then other else best

/-- The longest run that both texts have; of several the leftmost counts. -/
def longestMatch (a b : List Char) : Match :=
  let pairs := (List.range a.length).flatMap fun i => (List.range b.length).map fun j => (i, j)
  (pairs.map fun (i, j) => (⟨i, j, commonPrefix (a.drop i) (b.drop j)⟩ : Match)).foldl
    Match.longer ⟨0, 0, 0⟩

/-- How many characters can be matched. -/
def matchedCount : Nat → List Char → List Char → Nat
  | 0, _, _ => 0
  | fuel + 1, a, b =>
      let best := longestMatch a b
      if best.size = 0 then 0
      else
        matchedCount fuel (a.take best.left) (b.take best.right) + best.size +
          matchedCount fuel (a.drop (best.left + best.size)) (b.drop (best.right + best.size))

def areAlike (a b : String) : Bool :=
  let count := matchedCount (a.length + 1) a.toList b.toList
  3 * (a.length + b.length) ≤ 10 * count

end CheckKeeper.Text
