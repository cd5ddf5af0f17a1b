import Mathlib.Logic.Relation
import CheckKeeper.Proofs.Ends

namespace CheckKeeper.Program

/-! Which calls a program makes, and what two runs of it have in common.

A program has all its calls written in it.  So what it may call, and what it may answer, is
told by its text alone, for every handler that answers as expected.
-/

variable {I : Interface} {α β σ τ : Type}

/-- The program only makes allowed calls and ends with a value that is as it should be, or
fails, as long as its calls are answered as expected. -/
def Behaves (allowed : I.Call → Prop) (expected : (c : I.Call) → Except Failure (I.Answer c) → Prop)
    (post : α → Prop) : Program I α → Prop
  | .done value => post value
  | .fail _ => True
  | .call c rest =>
      allowed c ∧ ∀ answer, expected c answer → (rest answer).Behaves allowed expected post

def calls (handle : Handler I σ) : Program I α → σ → List I.Call
  | .done _, _ => []
  | .fail _, _ => []
  | .call c rest, s => c :: (rest (handle c s).1).calls handle (handle c s).2

/-- The calls of a run, each with the state in which it is made. -/
def visits (handle : Handler I σ) : Program I α → σ → List (I.Call × σ)
  | .done _, _ => []
  | .fail _, _ => []
  | .call c rest, s => (c, s) :: (rest (handle c s).1).visits handle (handle c s).2

/-- A run makes each call in a state in which it may be made, and ends as it should. -/
def Observes (handle : Handler I σ) (good : I.Call → σ → Prop)
    (ending : Except Failure α → σ → Prop) : Program I α → σ → Prop
  | .done value, s => ending (.ok value) s
  | .fail failure, s => ending (.error failure) s
  | .call c rest, s =>
      good c s ∧ (rest (handle c s).1).Observes handle good ending (handle c s).2

def Resumes (handle : Handler I σ) (good : I.Call → σ → Prop)
    (ending : Except Failure β → σ → Prop) (next : α → Program I β) :
    Except Failure α → σ → Prop
  | .ok value, s => (next value).Observes handle good ending s
  | .error failure, s => ending (.error failure) s

/-- States that calls of a kind lead to. -/
def Reaches (handle : Handler I σ) (allowed : I.Call → Prop) : σ → σ → Prop :=
  Relation.ReflTransGen fun s after => ∃ c, allowed c ∧ after = (handle c s).2

variable {allowed : I.Call → Prop} {expected : (c : I.Call) → Except Failure (I.Answer c) → Prop}
  {program : Program I α} {next : α → Program I β} {post between : α → Prop} {last : β → Prop}
  {handle : Handler I σ} {s : σ}

theorem Behaves.mono {weaker : α → Prop} (behaves : program.Behaves allowed expected post)
    (implies : ∀ value, post value → weaker value) : program.Behaves allowed expected weaker := by
  induction program with
  | done value => exact implies value behaves
  | fail failure => trivial
  | call c rest ih =>
      obtain ⟨permitted, later⟩ := behaves
      exact ⟨permitted, fun answer met => ih answer (later answer met)⟩

theorem Behaves.mono_calls {more : I.Call → Prop}
    {fewer : (c : I.Call) → Except Failure (I.Answer c) → Prop}
    (behaves : program.Behaves allowed expected post) (permits : ∀ c, allowed c → more c)
    (narrows : ∀ c answer, allowed c → fewer c answer → expected c answer) :
    program.Behaves more fewer post := by
  induction program with
  | done value => exact behaves
  | fail failure => trivial
  | call c rest ih =>
      obtain ⟨permitted, later⟩ := behaves
      exact ⟨permits c permitted, fun answer met => ih answer (later answer (narrows c answer permitted met))⟩

theorem behaves_bind (first : program.Behaves allowed expected between)
    (rest : ∀ value, between value → (next value).Behaves allowed expected last) :
    (program >>= next).Behaves allowed expected last := by
  induction program with
  | done value => exact rest value first
  | fail failure => trivial
  | call c rest' ih =>
      obtain ⟨permitted, later⟩ := first
      exact ⟨permitted, fun answer met => ih answer (later answer met)⟩

theorem behaves_ofExcept {found : Except Failure α} (holds : ∀ value, found = .ok value → post value) :
    (ofExcept found).Behaves allowed expected post := by
  cases found with
  | ok value => exact holds value rfl
  | error failure => trivial

theorem behaves_perform {c : I.Call} {post : I.Answer c → Prop} (permitted : allowed c)
    (holds : ∀ value, expected c (.ok value) → post value) :
    (perform c).Behaves allowed expected post := by
  refine ⟨permitted, fun answer met => behaves_ofExcept fun value same => ?_⟩
  subst same
  exact holds value met

theorem behaves_call {c : I.Call} {next : I.Answer c → Program I β} (permitted : allowed c)
    (rest : ∀ value, expected c (.ok value) → (next value).Behaves allowed expected last) :
    (perform c >>= next).Behaves allowed expected last :=
  behaves_bind (behaves_perform permitted fun _ met => met) rest

theorem behaves_attempt (behaves : program.Behaves allowed expected post) :
    program.attempt.Behaves allowed expected fun found => ∀ value, found = .ok value → post value := by
  induction program with
  | done value =>
      intro other same
      cases same
      exact behaves
  | fail failure =>
      intro other same
      cases same
  | call c rest ih =>
      obtain ⟨permitted, later⟩ := behaves
      exact ⟨permitted, fun answer met => ih answer (later answer met)⟩

/-- What the allowed calls keep, a run keeps, and what it answers is as it should be. -/
theorem run_of_behaves (kept : σ → Prop)
    (step : ∀ c s, kept s → allowed c → expected c (handle c s).1 ∧ kept (handle c s).2)
    (behaves : program.Behaves allowed expected post) (start : kept s) :
    (∀ value, (program.run handle s).1 = .ok value → post value) ∧
      kept (program.run handle s).2 := by
  induction program generalizing s with
  | done value =>
      refine ⟨fun other same => ?_, start⟩
      cases same
      exact behaves
  | fail failure =>
      refine ⟨fun other same => ?_, start⟩
      cases same
  | call c rest ih =>
      obtain ⟨permitted, later⟩ := behaves
      obtain ⟨met, kept_after⟩ := step c s start permitted
      exact ih _ (later _ met) kept_after

/-- Two runs whose allowed calls are answered alike, and leave alike states, end alike. -/
theorem run_alike {other : Handler I τ} {t : τ} (alike : σ → τ → Prop)
    (step : ∀ c s t, alike s t → allowed c → expected c (handle c s).1 ∧
      (handle c s).1 = (other c t).1 ∧ alike (handle c s).2 (other c t).2)
    (behaves : program.Behaves allowed expected post) (start : alike s t) :
    (program.run handle s).1 = (program.run other t).1 ∧
      alike (program.run handle s).2 (program.run other t).2 := by
  induction program generalizing s t with
  | done value => exact ⟨rfl, start⟩
  | fail failure => exact ⟨rfl, start⟩
  | call c rest ih =>
      obtain ⟨permitted, later⟩ := behaves
      obtain ⟨met, same, alike_after⟩ := step c s t start permitted
      simp only [run]
      rw [← same]
      exact ih _ (later _ met) alike_after

theorem run_perform (handle : Handler I σ) (c : I.Call) (s : σ) :
    (perform c).run handle s = handle c s := by
  unfold perform run
  obtain ⟨answer, after⟩ := handle c s
  cases answer <;> rfl

/-- A program under another interface runs as it does under a handler that runs its calls. -/
theorem run_embed {J : Interface} (handle : Handler J σ) (call : (c : I.Call) → Program J (I.Answer c))
    (program : Program I α) (s : σ) :
    (program.embed call).run handle s = program.run (fun c s => (call c).run handle s) s := by
  induction program generalizing s with
  | done value => rfl
  | fail failure => rfl
  | call c rest ih =>
      simp only [embed, run_bind, run_attempt, run]
      exact ih _ _

theorem calls_bind (handle : Handler I σ) (program : Program I α) (next : α → Program I β) (s : σ) :
    (program.bind next).calls handle s = program.calls handle s ++
      match program.run handle s with
      | (.ok value, after) => (next value).calls handle after
      | (.error _, _) => [] := by
  induction program generalizing s with
  | done value => rfl
  | fail failure => rfl
  | call c rest ih => exact congrArg (c :: ·) (ih _ _)

theorem calls_attempt (handle : Handler I σ) (program : Program I α) (s : σ) :
    program.attempt.calls handle s = program.calls handle s := by
  induction program generalizing s with
  | done value => rfl
  | fail failure => rfl
  | call c rest ih => exact congrArg (c :: ·) (ih _ _)

theorem allowed_of_calls (answers : ∀ c s, allowed c → expected c (handle c s).1)
    (behaves : program.Behaves allowed expected post) (s : σ) :
    ∀ c ∈ program.calls handle s, allowed c := by
  induction program generalizing s with
  | done value => simp [calls]
  | fail failure => simp [calls]
  | call c rest ih =>
      obtain ⟨permitted, later⟩ := behaves
      intro made member
      rcases List.mem_cons.mp member with rfl | behind
      · exact permitted
      · exact ih _ (later _ (answers c s permitted)) _ made behind

theorem reaches_of_calls (allowed_all : ∀ c ∈ program.calls handle s, allowed c) :
    Reaches handle allowed s (program.run handle s).2 := by
  induction program generalizing s with
  | done value => exact .refl
  | fail failure => exact .refl
  | call c rest ih =>
      have later := ih _ (s := (handle c s).2) fun made member =>
        allowed_all made (List.mem_cons_of_mem _ member)
      exact .head ⟨c, allowed_all c List.mem_cons_self, rfl⟩ later

section

variable {good : I.Call → σ → Prop} {ending : Except Failure α → σ → Prop}
  {lastEnding : Except Failure β → σ → Prop}

theorem Observes.visits (observes : program.Observes handle good ending s) :
    ∀ visit ∈ program.visits handle s, good visit.1 visit.2 := by
  induction program generalizing s with
  | done value => simp [Program.visits]
  | fail failure => simp [Program.visits]
  | call c rest ih => exact List.forall_mem_cons.mpr ⟨observes.1, ih _ observes.2⟩

theorem Observes.run (observes : program.Observes handle good ending s) :
    ending (program.run handle s).1 (program.run handle s).2 := by
  induction program generalizing s with
  | done value => exact observes
  | fail failure => exact observes
  | call c rest ih => exact ih _ observes.2

theorem Observes.mono {weaker : Except Failure α → σ → Prop}
    (observes : program.Observes handle good ending s)
    (implies : ∀ found after, ending found after → weaker found after) :
    program.Observes handle good weaker s := by
  induction program generalizing s with
  | done value => exact implies _ _ observes
  | fail failure => exact implies _ _ observes
  | call c rest ih => exact ⟨observes.1, ih _ observes.2⟩

theorem observes_bind
    (first : program.Observes handle good (Resumes handle good lastEnding next) s) :
    (program >>= next).Observes handle good lastEnding s := by
  induction program generalizing s with
  | done value => exact first
  | fail failure => exact first
  | call c rest ih => exact ⟨first.1, ih _ first.2⟩

theorem observes_ofExcept {found : Except Failure α} (holds : ending found s) :
    (ofExcept found).Observes handle good ending s := by
  cases found with
  | ok value => exact holds
  | error failure => exact holds

theorem observes_call {c : I.Call} {next : I.Answer c → Program I β} (made : good c s)
    (rest : Resumes handle good lastEnding next (handle c s).1 (handle c s).2) :
    (perform c >>= next).Observes handle good lastEnding s :=
  observes_bind ⟨made, observes_ofExcept rest⟩

theorem observes_attempt {ending : Except Failure (Except Failure α) → σ → Prop}
    (observes : program.Observes handle good (fun found after => ending (.ok found) after) s) :
    program.attempt.Observes handle good ending s := by
  induction program generalizing s with
  | done value => exact observes
  | fail failure => exact observes
  | call c rest ih => exact ⟨observes.1, ih _ observes.2⟩

theorem observes_of_behaves (kept : σ → Prop)
    (step : ∀ c s, kept s → allowed c → expected c (handle c s).1 ∧ kept (handle c s).2)
    (made : ∀ c s, kept s → allowed c → good c s)
    (behaves : program.Behaves allowed expected post) (start : kept s) :
    program.Observes handle good (fun _ after => kept after) s := by
  induction program generalizing s with
  | done value => exact start
  | fail failure => exact start
  | call c rest ih =>
      obtain ⟨permitted, later⟩ := behaves
      obtain ⟨met, kept_after⟩ := step c s start permitted
      exact ⟨made c s start permitted, ih _ (later _ met) kept_after⟩

end

end CheckKeeper.Program
