import Mathlib.Data.List.Infix
import CheckKeeper.Json.Reader

namespace CheckKeeper.Json

/-! Which texts the reader gives up.

It takes characters from the front of a text and knows what follows them.  It goes by a text that
is no JSON only where the text opens too many brackets, or where it writes too long a number.
-/

variable {α β : Type} {cs rest : List Char} {depth : Nat}

def isOpening (c : Char) : Bool :=
  c == '[' || c == '{'

def openings (cs : List Char) : Nat :=
  cs.countP isOpening

/-- Somewhere are more digits in a row than an integer may have. -/
def HasLongNumber (cs : List Char) : Prop :=
  ∃ run, run <:+: cs ∧ run.all Number.isDigit = true ∧ Number.digitLimit < run.length

/-- The text shows why it is found at fault. -/
def Shows (depth : Nat) (cs : List Char) : ReadFault → Prop
  | .malformed => True
  | .tooDeep => depth < openings cs
  | .tooManyDigits _ => HasLongNumber cs

/-- What is left of a text is its end, and its faults are such as it shows. -/
def Proceeds (depth : Nat) (cs : List Char) : Except ReadFault (α × List Char) → Prop
  | .ok (_, rest) => rest <:+ cs
  | .error fault => Shows depth cs fault

theorem Shows.of_suffix {fault : ReadFault} (shown : Shows depth rest fault) (suffix : rest <:+ cs) :
    Shows depth cs fault := by
  cases fault with
  | malformed => trivial
  | tooDeep => exact Nat.lt_of_lt_of_le shown (suffix.sublist.countP_le)
  | tooManyDigits count =>
      obtain ⟨run, inside, digits, long⟩ := shown
      exact ⟨run, inside.trans suffix.isInfix, digits, long⟩

theorem Proceeds.of_suffix {found : Except ReadFault (α × List Char)}
    (proceeds : Proceeds depth rest found) (suffix : rest <:+ cs) : Proceeds depth cs found := by
  cases found with
  | ok read => exact List.IsSuffix.trans proceeds suffix
  | error fault => exact Shows.of_suffix proceeds suffix

theorem Proceeds.bind {found : Except ReadFault (α × List Char)}
    {next : α × List Char → Except ReadFault (β × List Char)} (first : Proceeds depth cs found)
    (later : ∀ value rest, Proceeds depth rest (next (value, rest))) :
    Proceeds depth cs (found >>= next) := by
  cases found with
  | ok read => exact (later read.1 read.2).of_suffix first
  | error fault => exact first

theorem suffix_skipSpace (cs : List Char) : skipSpace cs <:+ cs :=
  List.dropWhile_suffix _

theorem suffix_of_readUnit? {unit : Nat} (read : readUnit? cs = some (unit, rest)) :
    rest <:+ cs := by
  unfold readUnit? at read
  split at read
  · rename_i a b c d after
    simp only [Option.bind_eq_bind, Option.bind_eq_some_iff, Option.pure_def, Option.some.injEq,
      Prod.mk.injEq] at read
    obtain ⟨_, _, _, _, _, _, _, _, _, rfl⟩ := read
    exact ⟨[a, b, c, d], rfl⟩
  · cases read

theorem suffix_of_readLowHalf? {unit : Nat} (read : readLowHalf? cs = some (unit, rest)) :
    rest <:+ cs := by
  unfold readLowHalf? at read
  split at read
  · rename_i behind
    have marked : behind <:+ '\\' :: 'u' :: behind := ⟨['\\', 'u'], rfl⟩
    split at read
    · rename_i low after half
      split at read
      · cases read
        exact (suffix_of_readUnit? half).trans marked
      · cases read
    · cases read
  · cases read

theorem suffix_of_readEscapedUnit? {c : Char} (read : readEscapedUnit? cs = some (c, rest)) :
    rest <:+ cs := by
  unfold readEscapedUnit? at read
  simp only [Option.bind_eq_bind, Option.bind_eq_some_iff] at read
  obtain ⟨⟨unit, behind⟩, first, read⟩ := read
  have first := suffix_of_readUnit? first
  dsimp only at read
  split at read
  · split at read
    · rename_i low after half
      simp only [Option.pure_def, Option.some.injEq, Prod.mk.injEq] at read
      obtain ⟨_, rfl⟩ := read
      exact (suffix_of_readLowHalf? half).trans first
    · cases read
      exact first
  · cases read
    exact first

theorem suffix_of_readTextStep? {step : Option Char}
    (read : readTextStep? cs = some (step, rest)) : rest <:+ cs := by
  unfold readTextStep? at read
  split at read
  · cases read
  · cases read
    exact List.suffix_cons _ _
  · rename_i behind
    obtain ⟨⟨c, after⟩, escaped, same⟩ := Option.map_eq_some_iff.mp read
    cases same
    exact (suffix_of_readEscapedUnit? escaped).trans ⟨['\\', 'u'], rfl⟩
  · rename_i mark behind _
    obtain ⟨c, _, same⟩ := Option.map_eq_some_iff.mp read
    cases same
    exact ⟨['\\', mark], rfl⟩
  · split at read
    · cases read
    · cases read
      exact List.suffix_cons _ _

theorem suffix_of_readText? {steps : Nat} {content : List Char}
    (read : readText? steps cs = some (content, rest)) : rest <:+ cs := by
  induction steps generalizing cs content with
  | zero => cases read
  | succ steps ih =>
      unfold readText? at read
      split at read
      · cases read
      · rename_i ended
        cases read
        exact suffix_of_readTextStep? ended
      · rename_i c behind stepped
        obtain ⟨⟨more, after⟩, later, same⟩ := Option.map_eq_some_iff.mp read
        cases same
        exact (ih later).trans (suffix_of_readTextStep? stepped)

theorem proceeds_readTextAt (depth : Nat) (cs : List Char) :
    Proceeds depth cs (readTextAt cs) := by
  unfold readTextAt
  split
  · rename_i content rest read
    exact suffix_of_readText? read
  · trivial

theorem suffix_cutFraction (cs : List Char) : (cutFraction cs).2 <:+ cs := by
  unfold cutFraction
  split
  · dsimp only
    split
    · exact List.suffix_refl _
    · exact (List.dropWhile_suffix _).trans (List.suffix_cons _ _)
  · exact List.suffix_refl _

theorem suffix_cutExponent (cs : List Char) : (cutExponent cs).2 <:+ cs := by
  unfold cutExponent
  split
  · rename_i mark behind
    have dropped (count : Nat) : behind.drop count <:+ mark :: behind :=
      (List.drop_suffix count behind).trans (List.suffix_cons mark behind)
    dsimp only
    generalize (if (behind.head? == some '+' || behind.head? == some '-') = true then
      behind.take 1 else []) = sign
    split
    · exact dropped _
    · exact List.suffix_refl _
  · exact List.suffix_refl _

theorem cutWhole_append (cs : List Char) : (cutWhole cs).1 ++ (cutWhole cs).2 = cs := by
  unfold cutWhole
  split
  · rfl
  · exact List.takeWhile_append_dropWhile

theorem isDigit_cutWhole (cs : List Char) : (cutWhole cs).1.all Number.isDigit = true := by
  unfold cutWhole
  split
  · exact (by decide : ['0'].all Number.isDigit = true)
  · exact List.all_takeWhile

theorem proceeds_readNumber (depth : Nat) (negative : Bool) (cs : List Char) :
    Proceeds depth cs (readNumber negative cs) := by
  have whole_suffix : (cutWhole cs).2 <:+ cs := ⟨_, cutWhole_append cs⟩
  have rest_suffix : (cutExponent (cutFraction (cutWhole cs).2).2).2 <:+ cs :=
    ((suffix_cutExponent _).trans (suffix_cutFraction _)).trans whole_suffix
  unfold readNumber
  dsimp only
  split
  · trivial
  · split
    · split
      · rename_i long
        exact ⟨_, ⟨[], _, cutWhole_append cs⟩, isDigit_cutWhole cs, long⟩
      · exact rest_suffix
    · split
      · exact rest_suffix
      · trivial

theorem suffix_of_readNamed? {value : Value} (read : readNamed? cs = some (value, rest)) :
    rest <:+ cs := by
  obtain ⟨⟨word, named⟩, _, found⟩ := List.exists_of_findSome?_eq_some read
  obtain ⟨after, cut, same⟩ := Option.map_eq_some_iff.mp found
  cases same
  unfold afterWord? at cut
  split at cut
  · cases cut
    exact List.drop_suffix _ _
  · cases cut

theorem proceeds_readAtom (depth : Nat) (cs : List Char) : Proceeds depth cs (readAtom cs) := by
  unfold readAtom
  split
  · rename_i found named
    exact suffix_of_readNamed? named
  · split
    · rename_i behind _
      refine Proceeds.of_suffix ?_ (List.suffix_cons _ behind)
      exact (proceeds_readTextAt depth behind).bind fun content rest => List.suffix_refl _
    · rename_i behind _
      exact (proceeds_readNumber depth true behind).of_suffix (List.suffix_cons _ _)
    · exact proceeds_readNumber depth false cs

variable {readItem : ItemReader}

theorem proceeds_readItems (each : ∀ cs, Proceeds depth cs (readItem cs)) (steps : Nat)
    (done : List Value) (cs : List Char) :
    Proceeds depth cs (readItems readItem steps done cs) := by
  induction steps generalizing done cs with
  | zero => trivial
  | succ steps ih =>
      refine Proceeds.bind ((each _).of_suffix (suffix_skipSpace cs)) fun item after => ?_
      refine Proceeds.of_suffix ?_ (suffix_skipSpace after)
      dsimp only
      split
      · rename_i behind next
        rw [next]
        exact (ih _ behind).of_suffix (List.suffix_cons _ _)
      · rename_i behind next
        rw [next]
        exact List.suffix_cons _ _
      · trivial

theorem proceeds_readFields (each : ∀ cs, Proceeds depth cs (readItem cs)) (steps : Nat)
    (done : List (String × Value)) (cs : List Char) :
    Proceeds depth cs (readFields readItem steps done cs) := by
  induction steps generalizing done cs with
  | zero => trivial
  | succ steps ih =>
      unfold readFields
      refine Proceeds.of_suffix ?_ (suffix_skipSpace cs)
      split
      · rename_i behind first
        rw [first]
        refine Proceeds.of_suffix ?_ (List.suffix_cons _ behind)
        refine (proceeds_readTextAt depth behind).bind fun name afterName => ?_
        refine Proceeds.of_suffix ?_ (suffix_skipSpace afterName)
        dsimp only
        split
        · rename_i afterColon second
          rw [second]
          refine Proceeds.of_suffix ?_
            ((suffix_skipSpace afterColon).trans (List.suffix_cons _ _))
          refine (each _).bind fun value after => ?_
          refine Proceeds.of_suffix ?_ (suffix_skipSpace after)
          dsimp only
          split
          · rename_i others next
            rw [next]
            exact (ih _ others).of_suffix (List.suffix_cons _ _)
          · rename_i others next
            rw [next]
            exact List.suffix_cons _ _
          · trivial
        · trivial
      · trivial

/-- Behind a bracket that opens one level less is to be had. -/
theorem Proceeds.opened {bracket : Char} {found : Except ReadFault (α × List Char)}
    (proceeds : Proceeds depth cs found) (opens : isOpening bracket = true) :
    Proceeds (depth + 1) (bracket :: cs) found := by
  have suffix : cs <:+ bracket :: cs := List.suffix_cons _ _
  cases found with
  | ok read => exact List.IsSuffix.trans proceeds suffix
  | error fault =>
      cases fault with
      | tooDeep =>
          have deeper : openings (bracket :: cs) = openings cs + 1 := by
            simp [openings, opens]
          have shown : depth < openings cs := proceeds
          change depth + 1 < openings (bracket :: cs)
          omega
      | malformed => trivial
      | tooManyDigits count =>
          have shown : Shows (depth + 1) cs (.tooManyDigits count) := proceeds
          exact shown.of_suffix suffix

theorem Proceeds.inside {bracket : Char} {found : Except ReadFault (α × List Char)}
    (proceeds : Proceeds depth (skipSpace cs) found) (opens : isOpening bracket = true) :
    Proceeds (depth + 1) (bracket :: cs) found :=
  (proceeds.of_suffix (suffix_skipSpace cs)).opened opens

theorem proceeds_readValue (depth : Nat) (cs : List Char) :
    Proceeds depth cs (readValue depth cs) := by
  induction depth generalizing cs with
  | zero =>
      have opened (bracket : Char) (behind : List Char) (opens : isOpening bracket = true) :
          Shows 0 (bracket :: behind) .tooDeep := by
        simp [Shows, openings, opens]
      unfold readValue
      split
      · exact opened '[' _ (by decide)
      · exact opened '\x7b' _ (by decide)
      · exact proceeds_readAtom 0 cs
  | succ depth ih =>
      unfold readValue
      split
      · refine Proceeds.inside ?_ (by decide)
        split
        · rename_i after next
          rw [next]
          exact List.suffix_cons _ _
        · exact proceeds_readItems ih _ _ _
      · refine Proceeds.inside ?_ (by decide)
        split
        · rename_i after next
          rw [next]
          exact List.suffix_cons _ _
        · exact proceeds_readFields ih _ _ _
      · exact proceeds_readAtom (depth + 1) cs

/-- A text with few brackets and short numbers is read, or it is no JSON. -/
theorem malformed_of_read {text : String} {fault : ReadFault} (failed : read text = .error fault)
    (shallow : openings text.toList ≤ depthLimit) (short : ¬ HasLongNumber text.toList) :
    fault = .malformed := by
  have proceeds := (proceeds_readValue depthLimit (skipSpace text.toList)).of_suffix
    (suffix_skipSpace text.toList)
  unfold read at failed
  cases found : readValue depthLimit (skipSpace text.toList) with
  | ok read =>
      rw [found] at failed
      have ended : (if (skipSpace read.2).isEmpty = true then .ok read.1 else .error .malformed) =
          Except.error fault := failed
      split at ended
      · cases ended
      · cases ended
        rfl
  | error other =>
      rw [found] at failed proceeds
      cases failed
      cases fault with
      | malformed => rfl
      | tooDeep => exact absurd proceeds (Nat.not_lt.mpr shallow)
      | tooManyDigits count => exact absurd proceeds short

end CheckKeeper.Json
