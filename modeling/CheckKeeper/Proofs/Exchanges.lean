import CheckKeeper.Proofs.Calls

namespace CheckKeeper.Program

/-! The exchanges of a program with its collaborators.

Here no handler answers: each call may be answered at will.  So what holds of all exchanges that a
program may go through holds whatever its collaborators do, and however they change their minds.
-/

variable {I : Interface} {α β σ : Type}

/-- A call, and how it is answered. -/
structure Exchange (I : Interface) where
  call : I.Call
  answer : Except Failure (I.Answer call)

/-- A program goes through a list of exchanges and comes to a result. -/
inductive Runs : Program I α → List (Exchange I) → Except Failure α → Prop
  | done (value : α) : Runs (.done value) [] (.ok value)
  | fail (failure : Failure) : Runs (.fail failure) [] (.error failure)
  | call {c : I.Call} {next : Except Failure (I.Answer c) → Program I α}
      {trace : List (Exchange I)} {result : Except Failure α} (answer : Except Failure (I.Answer c))
      (rest : Runs (next answer) trace result) : Runs (.call c next) (⟨c, answer⟩ :: trace) result

/-- The exchanges that a handler has with a program. -/
def exchanges (handle : Handler I σ) : Program I α → σ → List (Exchange I)
  | .done _, _ => []
  | .fail _, _ => []
  | .call c rest, s => ⟨c, (handle c s).1⟩ :: (rest (handle c s).1).exchanges handle (handle c s).2

variable {program : Program I α} {next : α → Program I β} {trace : List (Exchange I)}
  {result : Except Failure α} {last : Except Failure β}

theorem runs_exchanges (handle : Handler I σ) (program : Program I α) (s : σ) :
    program.Runs (program.exchanges handle s) (program.run handle s).1 := by
  induction program generalizing s with
  | done value => exact .done value
  | fail failure => exact .fail failure
  | call c rest ih => exact .call (handle c s).1 (ih _ _)

theorem runs_done {value : α} :
    (done value : Program I α).Runs trace result ↔ trace = [] ∧ result = .ok value := by
  constructor
  · intro ran
    cases ran
    exact ⟨rfl, rfl⟩
  · intro ended
    obtain ⟨rfl, rfl⟩ := ended
    exact .done value

theorem runs_fail {failure : Failure} :
    (fail failure : Program I α).Runs trace result ↔ trace = [] ∧ result = .error failure := by
  constructor
  · intro ran
    cases ran
    exact ⟨rfl, rfl⟩
  · intro ended
    obtain ⟨rfl, rfl⟩ := ended
    exact .fail failure

theorem runs_ofExcept {found : Except Failure α} :
    (ofExcept found : Program I α).Runs trace result ↔ trace = [] ∧ result = found := by
  cases found with
  | ok value => exact runs_done
  | error failure => exact runs_fail

/-- What the second program goes through stands behind what the first does, unless that fails. -/
theorem runs_bind :
    (program >>= next).Runs trace last ↔
      (∃ before value after, trace = before ++ after ∧ program.Runs before (.ok value) ∧
        (next value).Runs after last) ∨
      ∃ failure, program.Runs trace (.error failure) ∧ last = .error failure := by
  induction program generalizing trace with
  | done value =>
      constructor
      · intro ran
        exact Or.inl ⟨[], value, trace, rfl, .done value, ran⟩
      · intro split
        rcases split with ⟨before, value, after, rfl, first, ran⟩ | ⟨failure, first, rfl⟩
        · cases first
          exact ran
        · cases first
  | fail failure =>
      constructor
      · intro ran
        obtain ⟨rfl, rfl⟩ := runs_fail.mp ran
        exact Or.inr ⟨failure, .fail failure, rfl⟩
      · intro split
        rcases split with ⟨before, value, after, rfl, first, ran⟩ | ⟨failure, first, rfl⟩
        · cases first
        · cases first
          exact .fail failure
  | call c rest ih =>
      constructor
      · intro ran
        cases ran with
        | call answer ran =>
            rcases (ih answer).mp ran with ⟨before, value, after, rfl, first, ran⟩ |
              ⟨failure, first, rfl⟩
            · exact Or.inl ⟨_, value, after, rfl, .call answer first, ran⟩
            · exact Or.inr ⟨failure, .call answer first, rfl⟩
      · intro split
        rcases split with ⟨before, value, after, rfl, first, ran⟩ | ⟨failure, first, rfl⟩
        · cases first with
          | call answer first =>
              exact .call answer ((ih answer).mpr (Or.inl ⟨_, value, after, rfl, first, ran⟩))
        · cases first with
          | call answer first =>
              exact .call answer ((ih answer).mpr (Or.inr ⟨failure, first, rfl⟩))

theorem runs_attempt {found : Except Failure (Except Failure α)} :
    program.attempt.Runs trace found ↔
      ∃ result, found = .ok result ∧ program.Runs trace result := by
  induction program generalizing trace with
  | done value =>
      constructor
      · intro ran
        obtain ⟨rfl, rfl⟩ := runs_done.mp ran
        exact ⟨_, rfl, .done value⟩
      · intro ended
        obtain ⟨result, rfl, ran⟩ := ended
        cases ran
        exact .done _
  | fail failure =>
      constructor
      · intro ran
        obtain ⟨rfl, rfl⟩ := runs_done.mp ran
        exact ⟨_, rfl, .fail failure⟩
      · intro ended
        obtain ⟨result, rfl, ran⟩ := ended
        cases ran
        exact .done _
  | call c rest ih =>
      constructor
      · intro ran
        cases ran with
        | call answer rest =>
            obtain ⟨result, same, first⟩ := (ih answer).mp rest
            exact ⟨result, same, .call answer first⟩
      · intro ended
        obtain ⟨result, rfl, ran⟩ := ended
        cases ran with
        | call answer ran => exact .call answer ((ih answer).mpr ⟨result, rfl, ran⟩)

/-- What is attempted cannot fail, so the rest is always gone through. -/
theorem runs_attempt_bind {next : Except Failure α → Program I β} :
    (program.attempt >>= next).Runs trace last ↔
      ∃ before found after, trace = before ++ after ∧ program.Runs before found ∧
        (next found).Runs after last := by
  simp only [runs_bind, runs_attempt]
  constructor
  · intro split
    rcases split with ⟨before, found, after, told, ⟨result, same, ran⟩, rest⟩ |
      ⟨failure, ⟨result, same, _⟩, _⟩
    · cases same
      exact ⟨before, found, after, told, ran, rest⟩
    · cases same
  · intro ran
    obtain ⟨before, found, after, told, ran, rest⟩ := ran
    exact Or.inl ⟨before, found, after, told, ⟨found, rfl, ran⟩, rest⟩

theorem runs_perform {c : I.Call} {answer : Except Failure (I.Answer c)} :
    (perform c).Runs trace answer ↔ trace = [⟨c, answer⟩] := by
  constructor
  · intro ran
    cases ran with
    | call given rest =>
        obtain ⟨rfl, rfl⟩ := runs_ofExcept.mp rest
        rfl
  · intro only
    subst only
    exact .call answer (runs_ofExcept.mpr ⟨rfl, rfl⟩)

/-- A program goes on behind a call, or fails with it. -/
theorem runs_call {c : I.Call} {next : I.Answer c → Program I β} :
    (perform c >>= next).Runs trace last ↔
      (∃ value after, trace = ⟨c, .ok value⟩ :: after ∧ (next value).Runs after last) ∨
      ∃ failure, trace = [⟨c, .error failure⟩] ∧ last = .error failure := by
  simp only [runs_bind, runs_perform]
  constructor
  · intro split
    rcases split with ⟨before, value, after, rfl, rfl, ran⟩ | failed
    · exact Or.inl ⟨value, after, rfl, ran⟩
    · exact Or.inr failed
  · intro split
    rcases split with ⟨value, after, rfl, ran⟩ | failed
    · exact Or.inl ⟨_, value, after, rfl, rfl, ran⟩
    · exact Or.inr failed

/-- A program only has exchanges about calls that it may make, whatever they answer. -/
theorem Runs.allowed {allowed : I.Call → Prop}
    {expected : (c : I.Call) → Except Failure (I.Answer c) → Prop} {post : α → Prop}
    (ran : program.Runs trace result) (free : ∀ c answer, expected c answer)
    (behaves : program.Behaves allowed expected post) :
    ∀ exchange ∈ trace, allowed exchange.call := by
  induction ran with
  | done | fail => simp
  | call answer rest ih =>
      obtain ⟨permitted, later⟩ := behaves
      exact List.forall_mem_cons.mpr ⟨permitted, ih (later answer (free _ answer))⟩

end CheckKeeper.Program
