import CheckKeeper.Proofs.Course
import CheckKeeper.Proofs.Ends

namespace CheckKeeper.Memory

open Program

/-! Collaborators in memory that may fail.

A call that fails may have been carried out all the same.  Which failures may befall
which calls is left open; where none may, a program runs as it does on the tables.
-/

/-- How a call turns out: it is carried out, or it fails before that, or after. -/
inductive Turn (befalls : Service.Call → Failure → Prop) : Turns Service.interface State
  | carried (c : Service.Call) (s : State) : Turn befalls c s (handle c s).1 (handle c s).2
  | early {c : Service.Call} {failure : Failure} (s : State) (fails : befalls c failure) :
      Turn befalls c s (.error failure) s
  | late {c : Service.Call} {failure : Failure} (s : State) (fails : befalls c failure) :
      Turn befalls c s (.error failure) (handle c s).2

def nothing (_ : Service.Call) (_ : Failure) : Prop :=
  False

/-- Whether a call is one of a collaborator that the reconciler works with.  Only these
fail; the loop is the reconciler's own, and rows are put by operators. -/
def exposed : Service.Call → Bool
  | .putDefinition _ => false
  | .loop _ => false
  | _ => true

/-- A failure of a call, and whether it comes when the call is done. -/
structure Mishap where
  failure : Failure
  late : Bool

/-- What happens to the exposed calls to come, one after another; to those behind the
end of the list, nothing. -/
abbrev Fate : Type :=
  List (Option Mishap)

/-- Tables and loop under a fate. -/
structure Trial where
  base : State
  fate : Fate

def Trial.handle : Handler Service.interface Trial := fun c trial =>
  let (answer, after) := Memory.handle c trial.base
  if exposed c then
    match trial.fate with
    | some mishap :: fate =>
        (.error mishap.failure, ⟨if mishap.late then after else trial.base, fate⟩)
    | _ => (answer, ⟨after, trial.fate.tail⟩)
  else (answer, ⟨after, trial.fate⟩)

def Fate.befalls (fate : Fate) (c : Service.Call) (failure : Failure) : Prop :=
  exposed c = true ∧ ∃ mishap, some mishap ∈ fate ∧ mishap.failure = failure

def Fate.mishaps (fate : Fate) : List Mishap :=
  fate.filterMap id

/-- A mishap by which a collaborator tells that a row is absent comes alone. -/
def Fate.Sparing (fate : Fate) : Prop :=
  ∀ mishap ∈ fate.mishaps, ∀ checkId, mishap.failure = .notFound checkId → fate.mishaps.length = 1

variable {α β : Type} {befalls : Service.Call → Failure → Prop} {s : State} {c : Service.Call}
  {post : Except Failure α → State → Prop}

theorem Fate.befalls_tail {fate : Fate} {failure : Failure}
    (fails : Fate.befalls fate.tail c failure) : fate.befalls c failure := by
  obtain ⟨open_to_it, mishap, member, same⟩ := fails
  exact ⟨open_to_it, mishap, List.mem_of_mem_tail member, same⟩

theorem Turn.mono {more : Service.Call → Failure → Prop} {answer : Except Failure (Service.Answer c)}
    {after : State} (turn : Turn befalls c s answer after)
    (implies : ∀ failure, befalls c failure → more c failure) : Turn more c s answer after := by
  cases turn with
  | carried => exact .carried c s
  | early _ fails => exact .early s (implies _ fails)
  | late _ fails => exact .late s (implies _ fails)

theorem Trial.turn (trial : Trial) (c : Service.Call) :
    Turn trial.fate.befalls c trial.base (Trial.handle c trial).1 (Trial.handle c trial).2.base := by
  unfold Trial.handle
  by_cases open_to_it : exposed c = true
  · simp only [open_to_it, if_true]
    split
    · rename_i mishap fate kept
      have fails : Fate.befalls trial.fate c mishap.failure :=
        ⟨open_to_it, mishap, by rw [kept]; exact List.mem_cons_self, rfl⟩
      by_cases behind : mishap.late = true
      · simpa only [behind, if_true] using .late trial.base fails
      · simpa only [behind, if_false, Bool.false_eq_true] using .early trial.base fails
    · exact .carried c trial.base
  · simp only [open_to_it, if_false, Bool.false_eq_true]
    exact .carried c trial.base

theorem Trial.fate_subset (trial : Trial) (c : Service.Call) {call : Service.Call}
    {failure : Failure} (fails : (Trial.handle c trial).2.fate.befalls call failure) :
    trial.fate.befalls call failure := by
  unfold Trial.handle at fails
  by_cases open_to_it : exposed c = true
  · simp only [open_to_it, if_true] at fails
    split at fails
    · rename_i mishap fate kept
      apply Fate.befalls_tail
      rw [kept]
      exact fails
    · exact Fate.befalls_tail fails
  · simpa only [open_to_it, if_false, Bool.false_eq_true] using fails

/-- A program under a fate ends as it may under the failures in store. -/
theorem Trial.run_of_ends {program : Work α} (trial : Trial)
    (ends : program.Ends (Turn trial.fate.befalls) post trial.base) :
    post (program.run Trial.handle trial).1 (program.run Trial.handle trial).2.base := by
  induction program generalizing trial with
  | done value => exact ends
  | fail failure => exact ends
  | call c rest ih =>
      apply ih
      refine (ends _ _ (trial.turn c)).mono_turns ?_
      intro call before answer after turn
      exact turn.mono fun failure fails => trial.fate_subset c fails

theorem Fate.befalls_iff {fate : Fate} {failure : Failure} :
    fate.befalls c failure ↔ exposed c = true ∧ ∃ mishap ∈ fate.mishaps, mishap.failure = failure := by
  simp [Fate.befalls, Fate.mishaps]

/-- A call uses up a mishap, or it is carried out. -/
theorem Trial.spent_call (trial : Trial) (c : Service.Call) :
    (Trial.handle c trial).2.fate.mishaps.length < trial.fate.mishaps.length ∨
      ((Trial.handle c trial).2.fate.mishaps = trial.fate.mishaps ∧
        (Trial.handle c trial).1 = (Memory.handle c trial.base).1 ∧
        (Trial.handle c trial).2.base = (Memory.handle c trial.base).2) := by
  unfold Trial.handle
  by_cases open_to_it : exposed c = true
  · simp only [open_to_it, if_true]
    split
    · rename_i mishap fate kept
      left
      simp [kept, Fate.mishaps]
    · rename_i harmless
      refine Or.inr ⟨?_, rfl, rfl⟩
      cases kept : trial.fate with
      | nil => rfl
      | cons first later =>
          cases first with
          | none => simp [Fate.mishaps]
          | some mishap => exact absurd kept (harmless mishap later)
  · right
    simp only [open_to_it, if_false, Bool.false_eq_true, and_self]

/-- A program uses up mishaps, or it runs as if there were none. -/
theorem Trial.spent (program : Work α) (trial : Trial) :
    (program.run Trial.handle trial).2.fate.mishaps.length < trial.fate.mishaps.length ∨
      ((program.run Trial.handle trial).2.fate.mishaps = trial.fate.mishaps ∧
        (program.run Trial.handle trial).1 = (program.run Memory.handle trial.base).1 ∧
        (program.run Trial.handle trial).2.base = (program.run Memory.handle trial.base).2) := by
  induction program generalizing trial with
  | done value => exact Or.inr ⟨rfl, rfl, rfl⟩
  | fail failure => exact Or.inr ⟨rfl, rfl, rfl⟩
  | call c rest ih =>
      have later := ih (Trial.handle c trial).1 (Trial.handle c trial).2
      rcases trial.spent_call c with used | ⟨same, answer, base⟩
      · rcases later with fewer | ⟨same, _, _⟩
        · exact Or.inl (Nat.lt_trans fewer used)
        · exact Or.inl (same ▸ used)
      · rw [same] at later
        simp only [run]
        rw [answer] at later ⊢
        rw [base] at later
        exact later

/-- A program to which nothing happens ends as it may when nothing goes wrong. -/
theorem run_of_ends_nothing {program : Work α} (ends : program.Ends (Turn nothing) post s) :
    post (program.run handle s).1 (program.run handle s).2 :=
  Program.run_of_ends (fun c s => .carried c s) ends

/-- The first call of a program may fail, before it is carried out or after, or be
carried out; then the program goes on. -/
theorem ends_call {next : Service.Answer c → Work β} {post : Except Failure β → State → Prop}
    (early : ∀ failure, befalls c failure → post (.error failure) s)
    (late : ∀ failure, befalls c failure → post (.error failure) (handle c s).2)
    (carried : Continues (Turn befalls) post next (handle c s).1 (handle c s).2) :
    (Program.perform (I := Service.interface) c >>= next).Ends (Turn befalls) post s := by
  apply ends_bind
  apply ends_perform
  intro answer after turn
  cases turn with
  | carried => exact carried
  | early _ fails => exact early _ fails
  | late _ fails => exact late _ fails

end CheckKeeper.Memory
