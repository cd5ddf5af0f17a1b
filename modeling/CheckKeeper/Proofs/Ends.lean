import CheckKeeper.Program.Basic

namespace CheckKeeper.Program

/-! What a program comes to, however its calls turn out.

A handler gives every call one turn.  Where a collaborator may fail, a call has
several, and a program is judged by all the ends that they lead to.
-/

variable {I : Interface} {α β σ : Type}

/-- How calls may turn out: what they may answer in a state, and the state that
they may leave. -/
abbrev Turns (I : Interface) (σ : Type) : Type :=
  (c : I.Call) → σ → Except Failure (I.Answer c) → σ → Prop

/-- Whatever turns its calls take, the program ends as `post` allows. -/
def Ends (turns : Turns I σ) (post : Except Failure α → σ → Prop) : Program I α → σ → Prop
  | .done value, s => post (.ok value) s
  | .fail failure, s => post (.error failure) s
  | .call c rest, s => ∀ answer after, turns c s answer after → (rest answer).Ends turns post after

def Continues (turns : Turns I σ) (post : Except Failure β → σ → Prop)
    (next : α → Program I β) : Except Failure α → σ → Prop
  | .ok value, s => (next value).Ends turns post s
  | .error failure, s => post (.error failure) s

variable {turns : Turns I σ} {program : Program I α} {next : α → Program I β} {s : σ}
  {post : Except Failure α → σ → Prop} {last : Except Failure β → σ → Prop}

theorem bind_bind {γ : Type} (program : Program I α) (next : α → Program I β) (last : β → Program I γ) :
    (program.bind next).bind last = program.bind fun value => (next value).bind last := by
  induction program with
  | done value => rfl
  | fail failure => rfl
  | call c rest ih =>
      simp only [bind]
      congr 1
      funext answer
      exact ih answer

theorem Ends.mono {weaker : Except Failure α → σ → Prop} (ends : program.Ends turns post s)
    (implies : ∀ found after, post found after → weaker found after) :
    program.Ends turns weaker s := by
  induction program generalizing s with
  | done value => exact implies _ _ ends
  | fail failure => exact implies _ _ ends
  | call c rest ih =>
      intro answer after turn
      exact ih answer (ends answer after turn)

/-- With fewer turns to take there are fewer ends. -/
theorem Ends.mono_turns {fewer : Turns I σ} (ends : program.Ends turns post s)
    (implies : ∀ c s answer after, fewer c s answer after → turns c s answer after) :
    program.Ends fewer post s := by
  induction program generalizing s with
  | done value => exact ends
  | fail failure => exact ends
  | call c rest ih =>
      intro answer after turn
      exact ih answer (ends answer after (implies c s answer after turn))

theorem ends_bind (first : program.Ends turns (Continues turns last next) s) :
    (program >>= next).Ends turns last s := by
  induction program generalizing s with
  | done value => exact first
  | fail failure => exact first
  | call c rest ih =>
      intro answer after turn
      exact ih answer (first answer after turn)

theorem ends_ofExcept {found : Except Failure α} (holds : post found s) :
    (ofExcept found).Ends turns post s := by
  cases found with
  | ok value => exact holds
  | error failure => exact holds

theorem ends_perform {c : I.Call} {post : Except Failure (I.Answer c) → σ → Prop}
    (holds : ∀ answer after, turns c s answer after → post answer after) :
    (perform c).Ends turns post s := by
  intro answer after turn
  exact ends_ofExcept (holds answer after turn)

theorem ends_attempt {post : Except Failure (Except Failure α) → σ → Prop}
    (ends : program.Ends turns (fun found after => post (.ok found) after) s) :
    program.attempt.Ends turns post s := by
  induction program generalizing s with
  | done value => exact ends
  | fail failure => exact ends
  | call c rest ih =>
      intro answer after turn
      exact ih answer (ends answer after turn)

/-- A last part that cannot fail leaves the end of the first as it is. -/
theorem ends_ensuring {finish : Program I Unit}
    (ends : program.Ends turns (fun found middle =>
      finish.Ends turns (fun done after => done = .ok () ∧ post found after) middle) s) :
    (program.ensuring finish).Ends turns post s := by
  apply ends_bind
  apply ends_attempt
  refine ends.mono fun found middle finishes => ?_
  apply ends_bind
  refine finishes.mono fun done after ended => ?_
  obtain ⟨rfl, holds⟩ := ended
  exact ends_ofExcept holds

/-- Whatever turns its calls take, a program that does not fail ends as `post` allows. -/
def Succeeds (turns : Turns I σ) (post : α → σ → Prop) (program : Program I α) (s : σ) : Prop :=
  program.Ends turns (fun found after => ∀ value, found = .ok value → post value after) s

theorem succeeds_done {value : α} {post : α → σ → Prop} (holds : post value s) :
    (Program.done value : Program I α).Succeeds turns post s := by
  intro other same
  cases same
  exact holds

theorem succeeds_bind {between : α → σ → Prop} {post : β → σ → Prop}
    (first : program.Succeeds turns between s)
    (rest : ∀ value after, between value after → (next value).Succeeds turns post after) :
    (program >>= next).Succeeds turns post s := by
  apply ends_bind
  refine Ends.mono first fun found after ended => ?_
  cases found with
  | ok value => exact rest value after (ended value rfl)
  | error failure =>
      intro value same
      cases same

theorem succeeds_ofExcept {found : Except Failure α} {post : β → σ → Prop}
    (rest : ∀ value, found = .ok value → (next value).Succeeds turns post s) :
    (ofExcept found >>= next).Succeeds turns post s := by
  cases found with
  | ok value => exact rest value rfl
  | error failure =>
      intro value same
      cases same

theorem succeeds_perform {c : I.Call} {post : I.Answer c → σ → Prop}
    (holds : ∀ value after, turns c s (.ok value) after → post value after) :
    (perform c).Succeeds turns post s := by
  apply ends_perform
  intro answer after turn value same
  subst same
  exact holds value after turn

theorem succeeds_call {c : I.Call} {next : I.Answer c → Program I β} {post : β → σ → Prop}
    (rest : ∀ value after, turns c s (.ok value) after → (next value).Succeeds turns post after) :
    (perform c >>= next).Succeeds turns post s :=
  succeeds_bind (succeeds_perform fun _ _ turn => turn) rest

theorem run_ensuring (handle : Handler I σ) (program : Program I α) (finish : Program I Unit) (s : σ) :
    (program.ensuring finish).run handle s =
      (finish.bind fun _ => ofExcept (program.run handle s).1).run handle (program.run handle s).2 := by
  change (program.attempt.bind _).run handle s = _
  rw [run_bind, run_attempt]
  rfl

/-- A run under a handler that shows the given turns, in what is seen of its states, ends as
every run does. -/
theorem run_of_ends_seen {τ : Type} {handle : Handler I τ} (seen : τ → σ) {t : τ}
    (follows : ∀ c t, turns c (seen t) (handle c t).1 (seen (handle c t).2))
    (ends : program.Ends turns post (seen t)) :
    post (program.run handle t).1 (seen (program.run handle t).2) := by
  induction program generalizing t with
  | done value => exact ends
  | fail failure => exact ends
  | call c rest ih => exact ih _ (ends _ _ (follows c t))

theorem run_of_ends {handle : Handler I σ}
    (follows : ∀ c s, turns c s (handle c s).1 (handle c s).2)
    (ends : program.Ends turns post s) :
    post (program.run handle s).1 (program.run handle s).2 :=
  run_of_ends_seen id follows ends

end CheckKeeper.Program
