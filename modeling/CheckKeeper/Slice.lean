namespace CheckKeeper

/-- The first items of a list, up to a limit.  A limit below nought leaves out so
many from the end. -/
def firstUpTo {α : Type} (limit : Int) (items : List α) : List α :=
  match limit with
  | .ofNat most => items.take most
  | .negSucc less => items.take (items.length - (less + 1))

end CheckKeeper
