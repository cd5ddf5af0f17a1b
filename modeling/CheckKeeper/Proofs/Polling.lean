import CheckKeeper.Proofs.Exchanges
import CheckKeeper.Proofs.SingleFlight

namespace CheckKeeper.Sync

open Program

/-! The pace of the loop.

The loop is a list of rounds.  Each asks first whether to stop, then polls the feed, and pauses
once or goes straight on to the next.  All its calls may be answered at will: the feed may fail or
change its mind, a pass may come to anything, and the signal to stop may come at any time.
-/

abbrev Trace : Type :=
  List (Exchange Service.interface)

/-- A look at the feed with the pass that it leads to, and what comes of it. -/
structure Round where
  polled : Trace
  found : Except Failure (List Outcome)

def stopAsked (answer : Except Failure Bool) : Exchange Service.interface :=
  ⟨.loop .stopRequested, answer⟩

def retryText (interval : Value) (cause : Failure) : String :=
  "Change feed unavailable, retrying in " ++ interval.plain ++ "s: " ++ cause.message

def warned (interval : Value) (cause : Failure) (answer : Except Failure Unit) :
    Exchange Service.interface :=
  ⟨.loop (.note .warning (retryText interval cause)), answer⟩

def paused (interval : Value) (answer : Except Failure Unit) : Exchange Service.interface :=
  ⟨.loop (.pause interval), answer⟩

/-- The calls by which the loop keeps its pace. -/
def setsPace : Service.Call → Bool
  | .loop .stopRequested => true
  | .loop (.pause _) => true
  | _ => false

/-- The intervals of the pauses in a trace. -/
def waits (trace : Trace) : List Value :=
  trace.filterMap fun exchange =>
    match exchange.call with
    | .loop (.pause interval) => some interval
    | _ => none

namespace Round

/-- A pass that comes to an outcome at least. -/
def counts (round : Round) : Bool :=
  match round.found with
  | .ok outcomes => !outcomes.isEmpty
  | .error _ => false

/-- A round that fails, comes to nothing, or has an outcome that is a failure. -/
def backsOff (round : Round) : Bool :=
  match round.found with
  | .ok outcomes => outcomes.isEmpty || outcomes.any fun outcome => outcome.action == .failed
  | .error _ => true

def warning (interval : Value) (round : Round) : Trace :=
  match round.found with
  | .ok _ => []
  | .error cause => [warned interval cause (.ok ())]

def rest (interval : Value) (round : Round) : Trace :=
  if round.backsOff then [paused interval (.ok ())] else []

/-- A round behind which the loop goes on. -/
def told (interval : Value) (round : Round) : Trace :=
  stopAsked (.ok false) :: round.polled ++ round.warning interval ++ round.rest interval

/-- The round is one of polling: it does not keep the pace of the loop itself, and it drains the
feed only if that says that events are pending. -/
structure IsPoll (settings : Settings) (round : Round) : Prop where
  runs : (poll settings).Runs round.polled round.found
  unpaced : ∀ exchange ∈ round.polled, setsPace exchange.call = false
  drains : ∀ limit answer, ⟨.drain limit, answer⟩ ∈ round.polled →
    round.polled.head? = some ⟨.hasPending, .ok (some true)⟩

/-- A collaborator is out of reach for now. -/
inductive Passing : Failure → Prop
  | transient (text : String) : Passing (.transient text)
  | store (text : String) : Passing (.store text)
  | scheduler (text : String) : Passing (.scheduler text)

/-- The loop goes on behind a round, unless it fails for good or its pass is the last. -/
structure GoesOn (maxPasses : Option Int) (passes : Nat) (round : Round) : Prop where
  passing : ∀ cause, round.found = .error cause → Passing cause
  few : round.counts = true → ∀ most, maxPasses = some most → (passes : Int) + 1 < most

/-- A warning behind the round can be written: it names the interval. -/
def IsWritten (interval : Value) (round : Round) : Prop :=
  ∀ cause, round.found = .error cause → interval.hasLongNumber = false

/-- A call of the loop's own behind a poll fails, or the warning cannot be written. -/
inductive Breaks (interval : Value) (round : Round) : Failure → Trace → Prop
  | unwritten (cause : Failure) (failed : round.found = .error cause)
      (long : interval.hasLongNumber = true) : Breaks interval round (.rule .tooManyDigits) []
  | unwarned (failure cause : Failure) (failed : round.found = .error cause)
      (written : round.IsWritten interval) :
      Breaks interval round failure [warned interval cause (.error failure)]
  | unpaused (failure : Failure) (backsOff : round.backsOff = true)
      (written : round.IsWritten interval) :
      Breaks interval round failure (round.warning interval ++ [paused interval (.error failure)])

/-- The loop ends with a round: its pass is the last that is asked for, it fails for good, or the
loop breaks behind it. -/
inductive Ends (interval : Value) (maxPasses : Option Int) (passes : Nat) (round : Round) :
    Trace → Except Failure Nat → Prop
  | enough (most : Int) (asked : maxPasses = some most) (counts : round.counts = true)
      (enough : most ≤ (passes : Int) + 1) :
      Ends interval maxPasses passes round [] (.ok (passes + 1))
  | lasting (cause : Failure) (failed : round.found = .error cause) (lasting : ¬Passing cause) :
      Ends interval maxPasses passes round [] (.error cause)
  | broken {trace : Trace} (failure : Failure) (goesOn : round.GoesOn maxPasses passes)
      (breaks : round.Breaks interval failure trace) :
      Ends interval maxPasses passes round trace (.error failure)

end Round

/-- The passes that count. -/
def counted (rounds : List Round) : Nat :=
  rounds.countP Round.counts

/-- How the loop ends with a number of passes behind it. -/
inductive Ending (settings : Settings) (interval : Value) (maxPasses : Option Int) (passes : Nat) :
    Trace → Except Failure Nat → Prop
  | stopped : Ending settings interval maxPasses passes [stopAsked (.ok true)] (.ok passes)
  | unasked (failure : Failure) :
      Ending settings interval maxPasses passes [stopAsked (.error failure)] (.error failure)
  | round {last : Trace} {result : Except Failure Nat} (round : Round)
      (polls : round.IsPoll settings) (ends : round.Ends interval maxPasses passes last result) :
      Ending settings interval maxPasses passes (stopAsked (.ok false) :: round.polled ++ last)
        result

/-- The loop makes rounds, one after another. -/
def GoesThrough (settings : Settings) (interval : Value) (maxPasses : Option Int) (passes : Nat)
    (rounds : List Round) : Prop :=
  ∀ before round after, rounds = before ++ round :: after →
    round.IsPoll settings ∧ round.IsWritten interval ∧
      round.GoesOn maxPasses (passes + counted before)

variable {settings : Settings} {interval : Value} {maxPasses : Option Int} {allotted passes : Nat}
  {trace : Trace} {result : Except Failure Nat} {round : Round} {rounds : List Round} {last : Trace}

def warnOf (interval : Value) (cause : Failure) : Work Unit := do
  Work.note .warning
    ("Change feed unavailable, retrying in " ++ (← .ofExcept interval.written) ++ "s: " ++
      cause.message)

/-- What the loop does with what comes of a poll. -/
def goOn (interval : Value) (maxPasses : Option Int) (again : Nat → Work Nat) (passes : Nat) :
    Except Failure (List Outcome) → Work Nat
  | .error cause =>
      if cause.isTransient then do
        warnOf interval cause
        Work.pause interval
        again passes
      else .fail cause
  | .ok [] => do
      Work.pause interval
      again passes
  | .ok (first :: others) =>
      if isEnough maxPasses (passes + 1) then .done (passes + 1)
      else if (first :: others).any Outcome.failed then do
        Work.pause interval
        again (passes + 1)
      else again (passes + 1)

theorem loop_succ (settings : Settings) (interval : Value) (maxPasses : Option Int)
    (allotted passes : Nat) :
    loop settings interval maxPasses (allotted + 1) passes = Work.stopRequested >>= fun stop =>
      if stop then .done passes
      else (poll settings).attempt >>=
        goOn interval maxPasses (loop settings interval maxPasses allotted) passes := by
  rw [loop]
  congr 1
  funext stop
  split
  · rfl
  · congr 1
    funext found
    cases found with
    | error failure =>
        simp only [goOn, warnOf]
        split
        · exact (bind_bind _ _ _).symm
        · rfl
    | ok outcomes =>
        cases outcomes with
        | nil => rfl
        | cons first rest =>
            simp only [goOn]
            split
            · rfl
            · split <;> rfl

namespace Round

def warn (interval : Value) (round : Round) : Work Unit :=
  match round.found with
  | .ok _ => .done ()
  | .error cause => warnOf interval cause

def takeRest (interval : Value) (round : Round) : Work Unit :=
  if round.backsOff then Work.pause interval else .done ()

/-- What the loop does behind a round, before the next. -/
def behind (interval : Value) (round : Round) : Work Unit := do
  round.warn interval
  round.takeRest interval

theorem isWritten_of_short (short : interval.hasLongNumber = false) : round.IsWritten interval :=
  fun _ _ => short

theorem warnOf_of_short (short : interval.hasLongNumber = false) (cause : Failure) :
    warnOf interval cause = Work.note .warning (retryText interval cause) := by
  rw [warnOf, Value.written, short, if_neg Bool.false_ne_true]
  rfl

theorem warnOf_of_long (long : interval.hasLongNumber = true) (cause : Failure) :
    warnOf interval cause = .fail (.rule .tooManyDigits) := by
  rw [warnOf, Value.written, if_pos long]
  rfl

theorem runs_warnOf_of_short {done : Except Failure Unit} {cause : Failure}
    (short : interval.hasLongNumber = false) :
    (warnOf interval cause).Runs trace done ↔ trace = [warned interval cause done] := by
  rw [warnOf_of_short short]
  exact runs_perform

theorem runs_warn {done : Except Failure Unit} :
    (round.warn interval).Runs trace done ↔
      (round.IsWritten interval ∧ trace = round.warning interval ∧ done = .ok ()) ∨
      ∃ cause, round.found = .error cause ∧
        ((interval.hasLongNumber = true ∧ trace = [] ∧ done = .error (.rule .tooManyDigits)) ∨
          interval.hasLongNumber = false ∧ ∃ failure,
            trace = [warned interval cause (.error failure)] ∧ done = .error failure) := by
  obtain ⟨polled, found⟩ := round
  cases found with
  | ok outcomes => simp [warn, warning, runs_done, IsWritten]
  | error cause =>
      change (warnOf interval cause).Runs trace done ↔ _
      cases written : interval.hasLongNumber with
      | true =>
          rw [warnOf_of_long written, runs_fail]
          simp [IsWritten, written]
      | false =>
          rw [runs_warnOf_of_short written]
          constructor
          · rintro rfl
            cases done with
            | ok _ => exact Or.inl ⟨isWritten_of_short written, rfl, rfl⟩
            | error failure => exact Or.inr ⟨cause, rfl, Or.inr ⟨rfl, failure, rfl, rfl⟩⟩
          · rintro (⟨_, rfl, rfl⟩ | ⟨_, failed, ⟨long, _⟩ | ⟨_, failure, rfl, rfl⟩⟩)
            · rfl
            · cases long
            · cases failed
              rfl

theorem runs_takeRest {done : Except Failure Unit} :
    (round.takeRest interval).Runs trace done ↔
      (trace = round.rest interval ∧ done = .ok ()) ∨
      ∃ failure, round.backsOff = true ∧ trace = [paused interval (.error failure)] ∧
        done = .error failure := by
  unfold takeRest rest
  split
  · rename_i backsOff
    constructor
    · intro ran
      obtain rfl := runs_perform.mp ran
      cases done with
      | ok _ => exact Or.inl ⟨rfl, rfl⟩
      | error failure => exact Or.inr ⟨failure, backsOff, rfl, rfl⟩
    · intro split
      rcases split with ⟨rfl, rfl⟩ | ⟨failure, _, rfl, rfl⟩
      · exact runs_perform.mpr rfl
      · exact runs_perform.mpr rfl
  · rename_i goesOn
    simp [runs_done, goesOn]

theorem runs_behind {done : Except Failure Unit} :
    (round.behind interval).Runs trace done ↔
      (round.IsWritten interval ∧ trace = round.warning interval ++ round.rest interval ∧
        done = .ok ()) ∨
      ∃ failure, round.Breaks interval failure trace ∧ done = .error failure := by
  unfold behind
  rw [runs_bind]
  constructor
  · intro split
    rcases split with ⟨before, _, after, rfl, warns, rests⟩ | ⟨failure, warns, rfl⟩
    · rcases runs_warn.mp warns with ⟨written, rfl, _⟩ | ⟨_, _, ⟨_, _, failed⟩ | ⟨_, _, _, failed⟩⟩
      · rcases runs_takeRest.mp rests with ⟨rfl, rfl⟩ | ⟨failure, backsOff, rfl, rfl⟩
        · exact Or.inl ⟨written, rfl, rfl⟩
        · exact Or.inr ⟨failure, .unpaused failure backsOff written, rfl⟩
      · cases failed
      · cases failed
    · rcases runs_warn.mp warns with ⟨_, _, done⟩ | ⟨cause, failed, ⟨long, rfl, same⟩ |
        ⟨short, _, rfl, same⟩⟩
      · cases done
      · cases same
        exact Or.inr ⟨_, .unwritten cause failed long, rfl⟩
      · cases same
        exact Or.inr ⟨_, .unwarned failure cause failed (isWritten_of_short short), rfl⟩
  · intro split
    rcases split with ⟨written, rfl, rfl⟩ | ⟨failure, breaks, rfl⟩
    · exact Or.inl ⟨_, (), _, rfl, runs_warn.mpr (Or.inl ⟨written, rfl, rfl⟩),
        runs_takeRest.mpr (Or.inl ⟨rfl, rfl⟩)⟩
    · cases breaks with
      | unwritten cause failed long =>
          exact Or.inr ⟨_, runs_warn.mpr (Or.inr ⟨cause, failed, Or.inl ⟨long, rfl, rfl⟩⟩), rfl⟩
      | unwarned _ cause failed written =>
          exact Or.inr ⟨failure, runs_warn.mpr
            (Or.inr ⟨cause, failed, Or.inr ⟨written cause failed, failure, rfl, rfl⟩⟩), rfl⟩
      | unpaused _ backsOff written =>
          exact Or.inl ⟨_, (), _, rfl, runs_warn.mpr (Or.inl ⟨written, rfl, rfl⟩),
            runs_takeRest.mpr (Or.inr ⟨failure, backsOff, rfl, rfl⟩)⟩

end Round

theorem Round.passing_iff {cause : Failure} : Passing cause ↔ cause.isTransient = true := by
  constructor
  · intro passing
    cases passing <;> rfl
  · intro transient
    cases cause with
    | transient text => exact .transient text
    | store text => exact .store text
    | scheduler text => exact .scheduler text
    | _ => cases transient

theorem isEnough_iff {made : Nat} :
    isEnough maxPasses made = true ↔ ∃ most, maxPasses = some most ∧ most ≤ (made : Int) := by
  cases maxPasses <;> simp [isEnough]

theorem goOn_of_goesOn (goesOn : round.GoesOn maxPasses passes) (again : Nat → Work Nat) :
    goOn interval maxPasses again passes round.found =
      round.behind interval >>= fun _ => again (passes + counted [round]) := by
  obtain ⟨polled, found⟩ := round
  cases found with
  | error cause =>
      simp only [goOn, Round.passing_iff.mp (goesOn.passing cause rfl), if_true]
      exact (bind_bind _ _ _).symm
  | ok outcomes =>
      cases outcomes with
      | nil => rfl
      | cons first others =>
          have few : ¬isEnough maxPasses (passes + 1) = true := by
            rw [isEnough_iff]
            rintro ⟨most, asked, reached⟩
            exact absurd (goesOn.few rfl most asked) (by omega)
          have backsOff : Round.backsOff ⟨polled, .ok (first :: others)⟩ =
              (first :: others).any Outcome.failed := rfl
          simp only [goOn, few, Bool.false_eq_true, if_false, Round.behind, Round.takeRest, backsOff]
          split <;> rfl

theorem goOn_of_enough {most : Int} (asked : maxPasses = some most) (counts : round.counts = true)
    (enough : most ≤ (passes : Int) + 1) (again : Nat → Work Nat) :
    goOn interval maxPasses again passes round.found = .done (passes + 1) := by
  have last : isEnough maxPasses (passes + 1) = true := isEnough_iff.mpr ⟨most, asked, enough⟩
  obtain ⟨polled, found⟩ := round
  cases found with
  | error cause => cases counts
  | ok outcomes =>
      cases outcomes with
      | nil => cases counts
      | cons first others => simp only [goOn, last, if_true]

theorem goOn_of_lasting {cause : Failure} (failed : round.found = .error cause)
    (lasting : ¬Round.Passing cause) (again : Nat → Work Nat) :
    goOn interval maxPasses again passes round.found = .fail cause := by
  rw [Round.passing_iff] at lasting
  simp only [failed, goOn, lasting, Bool.false_eq_true, if_false]

theorem Round.goesOn_or_last (maxPasses : Option Int) (passes : Nat) (round : Round) :
    round.GoesOn maxPasses passes ∨
      (∃ most, maxPasses = some most ∧ round.counts = true ∧ most ≤ (passes : Int) + 1) ∨
      ∃ cause, round.found = .error cause ∧ ¬Passing cause := by
  obtain ⟨polled, found⟩ := round
  cases found with
  | error cause =>
      by_cases passing : Passing cause
      · left
        constructor
        · intro other same
          cases same
          exact passing
        · intro counts
          cases counts
      · exact Or.inr (Or.inr ⟨cause, rfl, passing⟩)
  | ok outcomes =>
      by_cases last : ∃ most, maxPasses = some most ∧
          Round.counts ⟨polled, .ok outcomes⟩ = true ∧ most ≤ (passes : Int) + 1
      · exact Or.inr (Or.inl last)
      · left
        constructor
        · intro cause failed
          cases failed
        · intro counts most asked
          by_contra reached
          exact last ⟨most, asked, counts, by omega⟩

/-- Behind a poll the loop ends, or it goes on with the next round. -/
theorem runs_goOn {again : Nat → Work Nat} :
    (goOn interval maxPasses again passes round.found).Runs trace result ↔
      round.Ends interval maxPasses passes trace result ∨
      (round.IsWritten interval ∧ round.GoesOn maxPasses passes) ∧ ∃ later,
        trace = round.warning interval ++ round.rest interval ++ later ∧
        (again (passes + counted [round])).Runs later result := by
  constructor
  · intro ran
    rcases round.goesOn_or_last maxPasses passes with goesOn | ⟨most, asked, counts, enough⟩ |
      ⟨cause, failed, lasting⟩
    · rw [goOn_of_goesOn goesOn, runs_bind] at ran
      rcases ran with ⟨before, value, later, rfl, first, goes⟩ | ⟨failure, first, rfl⟩
      · rcases Round.runs_behind.mp first with ⟨written, rfl, _⟩ | ⟨failure, _, failed⟩
        · exact Or.inr ⟨⟨written, goesOn⟩, later, rfl, goes⟩
        · cases failed
      · rcases Round.runs_behind.mp first with ⟨_, _, done⟩ | ⟨other, breaks, same⟩
        · cases done
        · cases same
          exact Or.inl (.broken failure goesOn breaks)
    · rw [goOn_of_enough asked counts enough] at ran
      obtain ⟨rfl, rfl⟩ := runs_done.mp ran
      exact Or.inl (.enough most asked counts enough)
    · rw [goOn_of_lasting failed lasting] at ran
      obtain ⟨rfl, rfl⟩ := runs_fail.mp ran
      exact Or.inl (.lasting cause failed lasting)
  · intro split
    rcases split with ends | ⟨⟨written, goesOn⟩, later, rfl, goes⟩
    · cases ends with
      | enough most asked counts enough =>
          rw [goOn_of_enough asked counts enough]
          exact .done _
      | lasting cause failed lasting =>
          rw [goOn_of_lasting failed lasting]
          exact .fail cause
      | broken failure goesOn breaks =>
          rw [goOn_of_goesOn goesOn, runs_bind]
          exact Or.inr ⟨failure, Round.runs_behind.mpr (Or.inr ⟨failure, breaks, rfl⟩), rfl⟩
    · rw [goOn_of_goesOn goesOn, runs_bind]
      exact Or.inl ⟨_, (), later, rfl, Round.runs_behind.mpr (Or.inl ⟨written, rfl, rfl⟩), goes⟩

/-- Neither a poll nor its pass asks whether to stop, or pauses. -/
def leavesPace (c : Service.Call) : Prop :=
  setsPace c = false

theorem pass_leavesPace (settings : Settings) :
    (pass settings).Behaves leavesPace anything fun _ => True := by
  refine behaves_call rfl fun _ _ => ?_
  refine behaves_call rfl fun drained _ => ?_
  cases drained with
  | none => trivial
  | some batch =>
      dsimp only
      split
      · exact behaves_call rfl fun _ _ => trivial
      · refine behaves_call rfl fun _ _ => ?_
        refine behaves_call rfl fun _ _ => ?_
        refine (conclude_dispatches settings batch).mono_calls ?_ fun _ _ _ _ => trivial
        intro c permitted
        cases c with
        | loop c =>
            cases c with
            | note level text => rfl
            | _ => exact permitted.elim
        | _ => rfl

theorem poll_leavesPace (settings : Settings) :
    (poll settings).Behaves leavesPace anything fun _ => True := by
  refine behaves_call rfl fun pending _ => ?_
  split
  · refine behaves_call rfl fun entered _ => ?_
    split
    · refine behaves_bind (behaves_attempt (pass_leavesPace settings)) fun found _ => ?_
      refine behaves_call rfl fun _ _ => ?_
      exact behaves_ofExcept fun _ _ => trivial
    · exact behaves_call rfl fun _ _ => trivial
  · trivial

theorem Round.isPoll_of_runs (runs : (poll settings).Runs round.polled round.found) :
    round.IsPoll settings where
  runs := runs
  unpaced := runs.allowed (fun _ _ => trivial) (poll_leavesPace settings)
  drains := by
    intro limit answer drained
    rcases runs_call.mp runs with ⟨pending, after, polled, ran⟩ | ⟨failure, polled, _⟩
    · cases pending with
      | none =>
          obtain ⟨rfl, _⟩ := runs_done.mp ran
          rw [polled, List.mem_singleton] at drained
          cases congrArg Exchange.call drained
      | some waiting =>
          cases waiting with
          | true => rw [polled]; rfl
          | false =>
              obtain ⟨rfl, _⟩ := runs_done.mp ran
              rw [polled, List.mem_singleton] at drained
              cases congrArg Exchange.call drained
    · rw [polled, List.mem_singleton] at drained
      cases congrArg Exchange.call drained

theorem Round.told_append (round : Round) (later : Trace) :
    round.told interval ++ later = stopAsked (.ok false) ::
      (round.polled ++ (round.warning interval ++ round.rest interval ++ later)) := by
  simp [Round.told]

/-- What the loop goes through once it polls: it ends with the round, or goes on behind it. -/
theorem runs_round {polled after : Trace} {found : Except Failure (List Outcome)}
    (polls : (poll settings).Runs polled found)
    (ran : (goOn interval maxPasses (loop settings interval maxPasses allotted) passes found).Runs
      after result) :
    Ending settings interval maxPasses passes (stopAsked (.ok false) :: (polled ++ after)) result ∨
      ∃ round later, round.IsPoll settings ∧
        (round.IsWritten interval ∧ round.GoesOn maxPasses passes) ∧
        stopAsked (.ok false) :: (polled ++ after) = round.told interval ++ later ∧
        (loop settings interval maxPasses allotted (passes + counted [round])).Runs later
          result := by
  let round : Round := ⟨polled, found⟩
  have poll : round.IsPoll settings := Round.isPoll_of_runs polls
  have goes : (goOn interval maxPasses (loop settings interval maxPasses allotted) passes
    round.found).Runs after result := ran
  rcases runs_goOn.mp goes with ends | ⟨goesOn, later, rfl, rest⟩
  · exact Or.inl (.round round poll ends)
  · exact Or.inr ⟨round, later, poll, goesOn, (round.told_append later).symm, rest⟩

/-- A loop that is not to stop polls, and does what is to be done behind that. -/
theorem runs_unstopped {polled after : Trace} {found : Except Failure (List Outcome)}
    {again : Nat → Work Nat} (polls : (poll settings).Runs polled found)
    (ran : (goOn interval maxPasses again passes found).Runs after result) :
    (Work.stopRequested >>= fun stop =>
      if stop then .done passes
      else (poll settings).attempt >>= goOn interval maxPasses again passes).Runs
        (stopAsked (.ok false) :: (polled ++ after)) result := by
  have attempted := runs_attempt_bind.mpr ⟨polled, found, after, rfl, polls, ran⟩
  exact runs_call.mpr (Or.inl ⟨false, _, rfl, attempted⟩)

/-- The loop ends, or it makes a round and goes on. -/
theorem runs_loop_succ :
    (loop settings interval maxPasses (allotted + 1) passes).Runs trace result ↔
      Ending settings interval maxPasses passes trace result ∨
      ∃ round later, round.IsPoll settings ∧
        (round.IsWritten interval ∧ round.GoesOn maxPasses passes) ∧
        trace = round.told interval ++ later ∧
        (loop settings interval maxPasses allotted (passes + counted [round])).Runs later
          result := by
  rw [loop_succ]
  constructor
  · intro ran
    rcases runs_call.mp ran with ⟨stop, behind, rfl, goes⟩ | ⟨failure, rfl, rfl⟩
    · cases stop with
      | true =>
          obtain ⟨rfl, rfl⟩ := runs_done.mp goes
          exact Or.inl .stopped
      | false =>
          obtain ⟨polled, found, after, rfl, polls, ran⟩ := runs_attempt_bind.mp goes
          exact runs_round polls ran
    · exact Or.inl (.unasked failure)
  · intro split
    rcases split with ends | ⟨round, later, polls, goesOn, rfl, rest⟩
    · cases ends with
      | stopped => exact runs_call.mpr (Or.inl ⟨true, [], rfl, .done passes⟩)
      | unasked failure => exact runs_call.mpr (Or.inr ⟨failure, rfl, rfl⟩)
      | round round polls ends =>
          exact runs_unstopped polls.runs (runs_goOn.mpr (Or.inl ends))
    · rw [round.told_append]
      exact runs_unstopped polls.runs (runs_goOn.mpr (Or.inr ⟨goesOn, later, rfl, rest⟩))

theorem counted_cons (round : Round) (later : List Round) :
    counted (round :: later) = counted [round] + counted later := by
  simp [counted, List.countP_cons, Nat.add_comm]

theorem goesThrough_nil : GoesThrough settings interval maxPasses passes [] := by
  intro before round after split
  simp at split

theorem goesThrough_cons {later : List Round} :
    GoesThrough settings interval maxPasses passes (round :: later) ↔
      round.IsPoll settings ∧ (round.IsWritten interval ∧ round.GoesOn maxPasses passes) ∧
        GoesThrough settings interval maxPasses (passes + counted [round]) later := by
  constructor
  · intro goes
    obtain ⟨polls, goesOn⟩ := goes [] round later rfl
    refine ⟨polls, goesOn, ?_⟩
    intro before other after split
    have behind := goes (round :: before) other after (congrArg (round :: ·) split)
    rwa [counted_cons, ← Nat.add_assoc] at behind
  · intro goes before other after split
    obtain ⟨polls, goesOn, rest⟩ := goes
    cases before with
    | nil =>
        cases split
        exact ⟨polls, goesOn⟩
    | cons first before =>
        cases split
        rw [counted_cons, ← Nat.add_assoc]
        exact rest before other after rfl

/-- The rounds behind which the loop goes on do not come to the passes that are asked for. -/
theorem GoesThrough.few {most : Int} (goes : GoesThrough settings interval (some most) passes rounds)
    (counts : 0 < counted rounds) : (passes : Int) + counted rounds < most := by
  induction rounds generalizing passes with
  | nil => cases counts
  | cons round later ih =>
      obtain ⟨_, ⟨_, goesOn⟩, rest⟩ := goesThrough_cons.mp goes
      rw [counted_cons] at counts ⊢
      by_cases more : 0 < counted later
      · have below := ih rest more
        omega
      · cases own : round.counts with
        | false =>
            have none_counts : counted [round] = 0 := by simp [counted, own]
            omega
        | true =>
            have one : counted [round] = 1 := by simp [counted, own]
            have below := goesOn.few own most rfl
            omega

/-- The loop makes rounds until it ends, or until its allotment is used up. -/
theorem runs_loop :
    (loop settings interval maxPasses allotted passes).Runs trace result ↔
      ∃ rounds last, trace = rounds.flatMap (Round.told interval) ++ last ∧
        GoesThrough settings interval maxPasses passes rounds ∧
        (rounds.length = allotted ∧ last = [] ∧ result = .ok (passes + counted rounds) ∨
          rounds.length < allotted ∧
            Ending settings interval maxPasses (passes + counted rounds) last result) := by
  -- on the rounds that are left; the passes so far grow with each round that counts
  induction allotted generalizing passes trace with
  | zero =>
      constructor
      · intro ran
        obtain ⟨rfl, rfl⟩ := runs_done.mp ran
        exact ⟨[], [], rfl, goesThrough_nil, Or.inl ⟨rfl, rfl, rfl⟩⟩
      · intro split
        obtain ⟨rounds, last, rfl, _, ⟨none_made, rfl, rfl⟩ | ⟨fewer, _⟩⟩ := split
        · cases List.length_eq_zero_iff.mp none_made
          exact .done passes
        · cases fewer
  | succ allotted ih =>
      rw [runs_loop_succ]
      constructor
      · intro split
        rcases split with ends | ⟨round, later, polls, goesOn, rfl, ran⟩
        · exact ⟨[], trace, rfl, goesThrough_nil, Or.inr ⟨by simp, ends⟩⟩
        · obtain ⟨rounds, last, rfl, goes, ended⟩ := ih.mp ran
          refine ⟨round :: rounds, last, by simp, goesThrough_cons.mpr ⟨polls, goesOn, goes⟩, ?_⟩
          rw [counted_cons, ← Nat.add_assoc]
          simpa using ended
      · intro split
        obtain ⟨rounds, last, rfl, goes, ended⟩ := split
        cases rounds with
        | nil =>
            rcases ended with ⟨none_made, _⟩ | ⟨_, ends⟩
            · cases none_made
            · exact Or.inl ends
        | cons round rounds =>
            obtain ⟨polls, goesOn, goes⟩ := goesThrough_cons.mp goes
            rw [counted_cons, ← Nat.add_assoc] at ended
            refine Or.inr ⟨round, rounds.flatMap (Round.told interval) ++ last, polls, goesOn,
              by simp, ih.mpr ⟨rounds, last, rfl, goes, ?_⟩⟩
            simpa using ended

@[simp] theorem stopAsked_inj {answer other : Except Failure Bool} :
    stopAsked answer = stopAsked other ↔ answer = other := by
  constructor
  · intro same
    cases same
    rfl
  · exact congrArg stopAsked

@[simp] theorem stopAsked_ne_warned {answer : Except Failure Bool} {cause : Failure}
    {done : Except Failure Unit} : stopAsked answer ≠ warned interval cause done := by
  intro same
  cases congrArg Exchange.call same

@[simp] theorem stopAsked_ne_paused {answer : Except Failure Bool} {done : Except Failure Unit} :
    stopAsked answer ≠ paused interval done := by
  intro same
  cases congrArg Exchange.call same

theorem stopAsked_true_not_mem (polls : round.IsPoll settings) :
    stopAsked (.ok true) ∉ round.polled := by
  intro member
  cases polls.unpaced _ member

theorem stopAsked_not_mem_warning {answer : Except Failure Bool} :
    stopAsked answer ∉ round.warning interval := by
  obtain ⟨polled, found⟩ := round
  cases found <;> simp [Round.warning]

theorem stopAsked_not_mem_rest {answer : Except Failure Bool} :
    stopAsked answer ∉ round.rest interval := by
  unfold Round.rest
  split <;> simp

theorem stopAsked_true_not_mem_told (polls : round.IsPoll settings) :
    stopAsked (.ok true) ∉ round.told interval := by
  simp [Round.told, stopAsked_true_not_mem polls, stopAsked_not_mem_warning,
    stopAsked_not_mem_rest]

theorem waits_append (first second : Trace) :
    waits (first ++ second) = waits first ++ waits second :=
  List.filterMap_append

theorem waits_polled (polls : round.IsPoll settings) : waits round.polled = [] := by
  apply List.filterMap_eq_nil_iff.mpr
  intro exchange member
  have unpaced := polls.unpaced exchange member
  obtain ⟨call, answer⟩ := exchange
  cases call with
  | loop c =>
      cases c with
      | pause => cases unpaced
      | _ => rfl
  | _ => rfl

/-- A round pauses once if it backs off, and else not at all. -/
theorem waits_told (polls : round.IsPoll settings) :
    waits (round.told interval) = if round.backsOff then [interval] else [] := by
  have warning : waits (round.warning interval) = [] := by
    obtain ⟨polled, found⟩ := round
    cases found <;> rfl
  have first : waits [stopAsked (.ok false)] = [] := rfl
  have told : round.told interval = [stopAsked (.ok false)] ++ round.polled ++
      round.warning interval ++ round.rest interval := rfl
  rw [told, waits_append, waits_append, waits_append, first, waits_polled polls, warning,
    Round.rest]
  split <;> rfl

/-- The loop does not pause any more once it returns. -/
theorem Ending.waits {returned : Nat}
    (ends : Ending settings interval maxPasses passes last (.ok returned)) : waits last = [] := by
  cases ends with
  | stopped => rfl
  | round round polls ends =>
      cases ends with
      | enough =>
          rw [List.append_nil]
          exact waits_polled polls

/-- Nothing follows once the loop is told to stop. -/
theorem Ending.stops (ends : Ending settings interval maxPasses passes last result)
    {before after : Trace} (split : last = before ++ stopAsked (.ok true) :: after) :
    after = [] ∧ result = .ok passes := by
  have member : stopAsked (.ok true) ∈ last := by simp [split]
  cases ends with
  | stopped =>
      cases before with
      | nil => exact ⟨by simpa using split.symm, rfl⟩
      | cons first before => simp at split
  | unasked failure => simp at member
  | round round polls ends =>
      exfalso
      have polled := stopAsked_true_not_mem polls
      cases ends with
      | enough | lasting => simp [polled] at member
      | broken failure goesOn breaks =>
          cases breaks with
          | unwritten => simp [polled] at member
          | unwarned => simp [polled] at member
          | unpaused => simp [polled, stopAsked_not_mem_warning] at member

theorem split_behind {α : Type} {first second before after : List α} {x : α}
    (split : first ++ second = before ++ x :: after) (fresh : x ∉ first) :
    ∃ between, second = between ++ x :: after := by
  rcases List.append_eq_append_iff.mp split with ⟨between, _, rest⟩ | ⟨between, front, rest⟩
  · exact ⟨between, rest⟩
  · cases between with
    | nil => exact ⟨[], rest.symm⟩
    | cons y between =>
        cases rest
        exact absurd (by simp [front]) fresh

/-- An insertion is pending whose row is gone. -/
def oneAbsent : Memory.State :=
  ⟨(Memory.Tables.empty .earliest true).capture .insert "a", .start⟩

end CheckKeeper.Sync
