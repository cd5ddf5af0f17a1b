import CheckKeeper.Proofs.Synchronizer
import CheckKeeper.Sync.Reconciler

namespace CheckKeeper.Sync

open Memory Program

/-! Reconciling one id, whatever befalls the calls.

An id is dropped if it has no row, and also if bringing it in step tells that there is
none.  A collaborator that tells so of its own accord has the id dropped as well.
-/

variable {befalls : Service.Call → Failure → Prop} {ids : List String} {settings : Settings}
  {resultsTable : Value} {checkId : String} {s : State} {before after : Tables} {row : Definition}

/-- The first part of reconciling an id; it answers nothing where the id is to be dropped. -/
def probe (settings : Settings) (checkId : String) : Work (Option Outcome) := do
  match ← Work.getDefinition checkId with
  | none => return none
  | some _ =>
      match ← (createOrReplace settings.resultsTable checkId).attempt with
      | .ok outcome => return some outcome
      | .error (.notFound _) => return none
      | .error failure => .fail failure

def orDrop (checkId : String) : Option Outcome → Work Outcome
  | some outcome => return outcome
  | none => drop checkId

theorem reconcileOne_eq (settings : Settings) (checkId : String) :
    reconcileOne settings checkId = (probe settings checkId).bind (orDrop checkId) := by
  unfold reconcileOne probe
  change Program.bind _ _ = Program.bind (Program.bind _ _) _
  rw [bind_bind]
  congr 1
  funext found
  cases found with
  | none => rfl
  | some row =>
      change Program.bind _ _ = Program.bind (Program.bind _ _) _
      rw [bind_bind]
      congr 1
      funext answer
      cases answer with
      | ok outcome => rfl
      | error failure => cases failure <;> rfl

theorem Kept.settled (kept : Kept resultsTable checkId before after)
    (there : before.row? checkId = some row) (settled : Settled resultsTable before checkId) :
    Settled resultsTable after checkId := by
  rcases settled with absent | ⟨row, check, message, there', valid, jobs⟩
  · rw [absent.row] at there
    cases there
  · obtain ⟨row_kept, jobs_kept⟩ := kept row check message there' valid
    refine Or.inr ⟨row, check, message, row_kept, valid, ?_⟩
    rcases jobs_kept with same | renewed
    · rw [same]
      exact jobs
    · exact renewed

/-- The first part leaves a settled id settled, and asks for the drop only of an id without
row, or when a call has told that there is none. -/
theorem probe_ends (quiet : Quiet befalls) (tidy : s.tables.Tidy ids)
    (compiles : ∀ row, s.tables.row? checkId = some row →
      (Compile.compile row settings.resultsTable).isOk = true) :
    (probe settings checkId).Ends (Turn befalls)
      (fun found after => Acted [checkId] s after ∧
        (Settled settings.resultsTable s.tables checkId →
          Settled settings.resultsTable after.tables checkId) ∧
        (found = .ok none → s.tables.row? checkId = none ∨
          ∃ told, Befallen befalls (.notFound told))) s := by
  have unread : ∀ failure : Failure, Acted [checkId] s s ∧
      (Settled settings.resultsTable s.tables checkId →
        Settled settings.resultsTable s.tables checkId) ∧
      ((Except.error failure : Except Failure (Option Outcome)) = .ok none →
        s.tables.row? checkId = none ∨ ∃ told, Befallen befalls (.notFound told)) :=
    fun failure => ⟨Acted.refl _ s, fun settled => settled, fun answered => by cases answered⟩
  refine ends_call (fun failure _ => unread failure) (fun failure _ => unread failure) ?_
  simp only [Memory.handle, Continues]
  cases there : s.tables.row? checkId with
  | none => exact ⟨Acted.refl _ s, fun settled => settled, fun _ => Or.inl rfl⟩
  | some row =>
      apply ends_bind
      apply ends_attempt
      refine (createOrReplace_ends quiet tidy).mono ?_
      rintro answer after ⟨bringing, ended⟩
      have settled := bringing.kept.settled there
      simp only [Continues]
      split
      · exact ⟨bringing.toActed, settled, fun answered => by cases answered⟩
      · rename_i told
        refine ⟨bringing.toActed, settled, fun _ => Or.inr ⟨told, ?_⟩⟩
        rcases ended with befallen | ⟨gone, _⟩ | ⟨row', there', failed⟩
        · exact befallen
        · rw [there] at gone
          cases gone
        · have compiled := compiles row' (there ▸ there')
          rw [failed] at compiled
          cases compiled
      · exact ⟨bringing.toActed, settled, fun answered => by cases answered⟩

/-- Dropping an id without row leaves it settled, even if a call fails. -/
theorem drop_settled (quiet : Quiet befalls) (tidy : s.tables.Tidy ids)
    (gone : s.tables.row? checkId = none) (settled : Settled resultsTable s.tables checkId) :
    (drop checkId).Ends (Turn befalls)
      (fun _ after => Settled resultsTable after.tables checkId) s := by
  refine (drop_ends quiet tidy).mono ?_
  rintro _ after ⟨dropping, _⟩
  refine Or.inl ⟨dropping.course.row?_none tidy gone, ?_⟩
  rcases settled with absent | ⟨row, _, _, there, _⟩
  · rcases dropping.jobs with same | none_left
    · exact same.trans absent.jobs
    · exact none_left
  · rw [gone] at there
    cases there

theorem drop_undisturbed {trial : Trial} (tidy : trial.base.tables.Tidy ids)
    (none_left : trial.fate.mishaps = []) :
    Absent ((drop checkId).run Trial.handle trial).2.base.tables checkId := by
  have ends : (drop checkId).Ends (Turn trial.fate.befalls)
      (fun _ after => Absent after.tables checkId) trial.base := by
    refine (drop_ends (quiet_fate _) tidy).mono ?_
    rintro found after ⟨_, ended⟩
    cases found with
    | ok outcome => exact ended.2.2
    | error failure =>
        obtain ⟨c, fails⟩ := ended
        obtain ⟨_, mishap, member, _⟩ := Fate.befalls_iff.mp fails
        rw [none_left] at member
        cases member
  exact trial.run_of_ends ends

/-- Reconciling an id leaves it settled, unless a collaborator tells that its row is absent
and another call fails too. -/
theorem reconcileOne_settled (settings : Settings) {trial : Trial} (tidy : trial.base.tables.Tidy ids)
    (compiles : ∀ row, trial.base.tables.row? checkId = some row →
      (Compile.compile row settings.resultsTable).isOk = true)
    (sparing : trial.fate.Sparing)
    (settled : Settled settings.resultsTable trial.base.tables checkId) :
    Settled settings.resultsTable
      ((reconcileOne settings checkId).run Trial.handle trial).2.base.tables checkId := by
  obtain ⟨acted, keeps, asks⟩ := trial.run_of_ends (probe_ends (quiet_fate _) tidy compiles)
  have spent := trial.spent (probe settings checkId)
  rw [reconcileOne_eq, run_bind]
  generalize (probe settings checkId).run Trial.handle trial = first at *
  obtain ⟨found, middle⟩ := first
  have settled' := keeps settled
  have tidy' := acted.course.tidy tidy
  cases found with
  | error failure => exact settled'
  | ok answer =>
      cases answer with
      | some outcome => exact settled'
      | none =>
          have dropped : trial.base.tables.row? checkId = none →
              Settled settings.resultsTable
                ((drop checkId).run Trial.handle middle).2.base.tables checkId := fun gone =>
            middle.run_of_ends
              (drop_settled (quiet_fate _) tidy' (acted.course.row?_none tidy gone) settled')
          rcases asks rfl with gone | ⟨told, c, fails⟩
          · exact dropped gone
          · obtain ⟨_, mishap, member, same⟩ := Fate.befalls_iff.mp fails
            have alone := sparing mishap member told same
            rcases spent with used | ⟨_, answered, _⟩
            · -- The one mishap lies behind, so nothing disturbs the drop.
              rw [alone] at used
              have none_left : middle.fate.mishaps = [] :=
                List.length_eq_zero_iff.mp (Nat.lt_one_iff.mp used)
              exact Or.inl (drop_undisturbed tidy' none_left)
            · have calm := run_of_ends_nothing (probe_ends quiet_nothing tidy compiles)
              rcases calm.2.2 answered.symm with gone | ⟨_, _, fails⟩
              · exact dropped gone
              · exact fails.elim

end CheckKeeper.Sync
