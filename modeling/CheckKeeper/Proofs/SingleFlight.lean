import CheckKeeper.Memory.Tables
import CheckKeeper.Proofs.Remit

namespace CheckKeeper.Sync

open Program

/-! One pass at a time.

While a pass works with its collaborators it tells the phase that it is in, and a pass that is
started in the midst of it is turned away before it touches anything.  However the pass ends, the
next one is let in.  What stands behind the collaborators is left open: any state, any answers,
any failures.
-/

variable {κ τ : Type} {serve : Handler Service.interface κ} {settings other : Settings} {k : κ}
  {l : Loop.State} {c : Service.Call} {β : Type}

/-- The loop, with any collaborators beside it. -/
def attended (serve : Handler Service.interface κ) : Handler Service.interface (κ × Loop.State)
  | .loop c, (k, l) =>
      let (answer, after) := Loop.handle c l
      (answer, (k, after))
  | c, (k, l) =>
      let (answer, after) := serve c k
      (answer, (after, l))

def isCollaboration : Service.Call → Bool
  | .loop _ => false
  | _ => true

/-- The phase in which a pass makes a call of a collaborator. -/
def phaseOf : Service.Call → Phase
  | .drain _ => .draining
  | _ => .dispatching

/-- A collaborator is called within a pass, and in the phase that the call belongs to. -/
def InPhase (c : Service.Call) (s : κ × Loop.State) : Prop :=
  isCollaboration c = true → s.2.inPass = true ∧ s.2.phase = phaseOf c

/-- The loop with the note that a pass leaves which is turned away. -/
def turnedAway (l : Loop.State) : Loop.State :=
  { l with
    journal := l.journal ++ [⟨.info, "Reconciliation pass already in progress, skipping"⟩] }

/-- A pass that is started within another answers nothing, and leaves a note and no more. -/
theorem run_turnedAway (running : l.inPass = true) :
    (reconcileBatch other).run (attended serve) (k, l) = (.ok [], (k, turnedAway l)) := by
  obtain ⟨phase, inPass, signal, journal⟩ := l
  obtain rfl : inPass = true := running
  rfl

theorem calls_turnedAway (running : l.inPass = true) :
    (reconcileBatch other).calls (attended serve) (k, l) =
      [.loop .enterPass,
        .loop (.note .info "Reconciliation pass already in progress, skipping")] := by
  obtain ⟨phase, inPass, signal, journal⟩ := l
  obtain rfl : inPass = true := running
  rfl

/-- A pass that is let in drains the feed. -/
theorem drains_of_free (free : l.inPass = false) :
    .drain other.batchLimit ∈ (reconcileBatch other).calls (attended serve) (k, l) := by
  obtain ⟨phase, inPass, signal, journal⟩ := l
  obtain rfl : inPass = false := free
  exact List.mem_cons_of_mem _ (List.mem_cons_of_mem _ List.mem_cons_self)

/-- What a pass may call once its batch is drained. -/
def dispatches : Service.Call → Prop
  | .drain _ => False
  | .loop (.note _ _) => True
  | .loop _ => False
  | _ => True

/-- What a pass settles of its batch in the phase in which it dispatches. -/
def conclude (settings : Settings) (batch : Batch) : Work (List Outcome) := do
  let outcomes ← applyAll settings (ChangeEvent.collapse batch.events)
  let failedIds := (outcomes.filter Outcome.failed).map Outcome.checkId
  Work.acknowledge (batch.excluding failedIds)
  if !failedIds.isEmpty then
    Work.note .warning
      ("Leaving " ++ count failedIds.length ++ " failed check(s) pending: " ++
        Text.join ", " failedIds)
  Work.note .info
    ("Reconciliation pass done: " ++ count (outcomes.length - failedIds.length) ++ " ok, " ++
      count failedIds.length ++ " failed")
  return outcomes

theorem dispatches_of_permits {remit : Remit} {checkId : String}
    (permitted : remit.permits checkId c) : dispatches c := by
  cases c with
  | loop c =>
      cases c with
      | note level text => trivial
      | _ => exact permitted.elim
  | drain limit => exact permitted.elim
  | _ => trivial

/-- Answers of any kind. -/
def anything (c : Service.interface.Call) (_ : Except Failure (Service.interface.Answer c)) : Prop :=
  True

theorem apply_dispatches (settings : Settings) (checkId : String) (action : ChangeAction) :
    (apply settings checkId action).Behaves dispatches anything fun _ => True :=
  ((apply_behaves (Remit.covers_unlimited _) checkId action).mono fun _ _ => trivial).mono_calls
    (fun _ permitted => dispatches_of_permits permitted)
    fun c answer _ _ => Remit.informs_unlimited c answer

theorem applyEach_dispatches (settings : Settings) (actions : List (String × ChangeAction)) :
    (applyEach settings actions).Behaves dispatches anything fun _ => True := by
  induction actions with
  | nil => trivial
  | cons asked rest ih =>
      have first := behaves_attempt (apply_dispatches settings asked.1 asked.2)
      refine behaves_bind first fun found _ => ?_
      exact behaves_bind ih fun later _ => trivial

theorem conclude_dispatches (settings : Settings) (batch : Batch) :
    (conclude settings batch).Behaves dispatches anything fun _ => True := by
  have applied : (applyAll settings (ChangeEvent.collapse batch.events)).Behaves dispatches anything
      fun _ => True := by
    refine behaves_bind (applyEach_dispatches settings _) fun results _ => ?_
    exact behaves_ofExcept fun _ _ => trivial
  refine behaves_bind applied fun outcomes _ => ?_
  refine behaves_call trivial fun _ _ => ?_
  split
  · refine behaves_call trivial fun _ _ => ?_
    exact behaves_call trivial fun _ _ => trivial
  · exact behaves_call trivial fun _ _ => trivial

/-- A pass is running and carries its actions out. -/
def Dispatching (s : κ × Loop.State) : Prop :=
  s.2.inPass = true ∧ s.2.phase = .dispatching

theorem inPhase_loop (c : Loop.Call) (s : κ × Loop.State) : InPhase (.loop c) s := by
  intro collaborates
  cases collaborates

theorem Dispatching.inPhase {s : κ × Loop.State} (now : Dispatching s) (permitted : dispatches c) :
    InPhase c s := by
  cases c with
  | drain limit => exact permitted.elim
  | loop c => exact inPhase_loop c s
  | _ => exact fun _ => now

theorem Dispatching.step {s : κ × Loop.State} (now : Dispatching s) (permitted : dispatches c) :
    Dispatching (attended serve c s).2 := by
  cases c with
  | drain limit => exact permitted.elim
  | loop c =>
      cases c with
      | note level text => exact now
      | _ => exact permitted.elim
  | _ => exact now

theorem conclude_observes (batch : Batch) {s : κ × Loop.State} (now : Dispatching s) :
    (conclude settings batch).Observes (attended serve) InPhase (fun _ _ => True) s := by
  have observes : (conclude settings batch).Observes (attended serve) InPhase
      (fun _ after => Dispatching after) s :=
    observes_of_behaves Dispatching (fun c s now permitted => ⟨trivial, now.step permitted⟩)
      (fun c s now permitted => now.inPhase permitted) (conclude_dispatches settings batch) now
  exact observes.mono fun _ _ _ => trivial

/-- The loop never fails, so a pass goes on behind each of its calls. -/
theorem observes_loop {c : Loop.Call} {next : Loop.Answer c → Work β}
    {ending : Except Failure β → κ × Loop.State → Prop}
    (rest : ∀ value, (Loop.handle c l).1 = .ok value →
      (next value).Observes (attended serve) InPhase ending (k, (Loop.handle c l).2)) :
    (Program.perform (I := Service.interface) (.loop c) >>= next).Observes (attended serve) InPhase
      ending (k, l) := by
  apply observes_call (inPhase_loop c _)
  have answered : ∃ value, (Loop.handle c l).1 = .ok value := by cases c <;> exact ⟨_, rfl⟩
  obtain ⟨value, answered⟩ := answered
  simp only [attended]
  rw [answered]
  exact rest value answered

theorem pass_observes (running : l.inPass = true) :
    (pass settings).Observes (attended serve) InPhase (fun _ _ => True) (k, l) := by
  apply observes_loop
  intro _ _
  apply observes_call
  · exact fun _ => ⟨running, rfl⟩
  simp only [attended]
  cases (serve (.drain settings.batchLimit) k).1 with
  | error failure => trivial
  | ok drained =>
      cases drained with
      | none => trivial
      | some batch =>
          simp only [Resumes]
          split
          · apply observes_loop
            intro _ _
            trivial
          · apply observes_loop
            intro _ _
            apply observes_loop
            intro _ _
            exact conclude_observes batch ⟨running, rfl⟩

/-- A pass that is let in calls its collaborators in phase, and leaves the loop at rest. -/
theorem reconcileBatch_observes (free : l.inPass = false) :
    (reconcileBatch settings).Observes (attended serve) InPhase
      (fun _ after => after.2.phase = .idle ∧ after.2.inPass = false) (k, l) := by
  apply observes_loop
  intro entered answered
  obtain rfl : (!l.inPass) = entered := Except.ok.inj answered
  simp only [free, Bool.not_false, if_true]
  apply observes_bind
  apply observes_attempt
  refine (pass_observes rfl).mono fun found after _ => ?_
  apply observes_loop
  intro _ _
  exact observes_ofExcept ⟨rfl, rfl⟩

/-- Starts passes, one after another. -/
def startAll (serve : Handler Service.interface κ) (passes : List Settings)
    (s : κ × Loop.State) : κ × Loop.State :=
  passes.foldl (fun s other => ((reconcileBatch other).run (attended serve) s).2) s

/-- Collaborators that start passes before and after they carry a call out. -/
def intruded (serve : Handler Service.interface κ)
    (before after : Service.Call → List Settings) : Handler Service.interface (κ × Loop.State) :=
  fun c s =>
    if isCollaboration c then
      let (answer, served) := attended serve c (startAll serve (before c) s)
      (answer, startAll serve (after c) served)
    else attended serve c s

/-- Two states within a pass that differ in the notes only. -/
structure SameButNotes (s t : κ × Loop.State) : Prop where
  tables : t.1 = s.1
  running : s.2.inPass = true
  loop : ∃ journal, t.2 = { s.2 with journal }

/-- What a pass calls between being let in and leaving. -/
def within : Service.Call → Prop
  | .loop .enterPass => False
  | .loop .leavePass => False
  | _ => True

variable {before after : Service.Call → List Settings} {s t : κ × Loop.State}

theorem SameButNotes.startAll (same : SameButNotes s t) (passes : List Settings) :
    SameButNotes s (startAll serve passes t) := by
  induction passes generalizing t with
  | nil => exact same
  | cons other passes ih =>
      apply ih
      obtain ⟨tables, running, journal, loop⟩ := same
      have running_too : t.2.inPass = true := by rw [loop]; exact running
      have away : (reconcileBatch other).run (attended serve) t = (.ok [], (t.1, turnedAway t.2)) :=
        run_turnedAway running_too
      change SameButNotes s ((reconcileBatch other).run (attended serve) t).2
      rw [away]
      exact ⟨tables, running, _, by rw [loop]; rfl⟩

theorem attended_collaboration (collaborates : isCollaboration c = true) (s : κ × Loop.State) :
    attended serve c s = ((serve c s.1).1, ((serve c s.1).2, s.2)) := by
  cases c with
  | loop c => cases collaborates
  | _ => rfl

theorem SameButNotes.served (same : SameButNotes s t) (collaborates : isCollaboration c = true) :
    (attended serve c s).1 = (attended serve c t).1 ∧
      SameButNotes (attended serve c s).2 (attended serve c t).2 := by
  obtain ⟨tables, running, loop⟩ := same
  rw [attended_collaboration collaborates, attended_collaboration collaborates, tables]
  exact ⟨rfl, rfl, running, loop⟩

/-- The call of a pass turns out as it does without the passes that are started around it. -/
theorem SameButNotes.call (same : SameButNotes s t) (permitted : within c) :
    (attended serve c s).1 = (intruded serve before after c t).1 ∧
      SameButNotes (attended serve c s).2 (intruded serve before after c t).2 := by
  unfold intruded
  split
  · rename_i collaborates
    obtain ⟨answer, served⟩ := (same.startAll (before c)).served collaborates
    exact ⟨answer, served.startAll (after c)⟩
  · cases c with
    | loop c =>
        obtain ⟨tables, running, journal, loop⟩ := same
        obtain ⟨k, l⟩ := s
        obtain ⟨k', l'⟩ := t
        cases tables
        cases loop
        cases c with
        | enterPass => exact permitted.elim
        | leavePass => exact permitted.elim
        | _ => exact ⟨rfl, rfl, running, _, rfl⟩
    | _ => exact absurd rfl ‹_›

theorem pass_within (settings : Settings) :
    (pass settings).Behaves within anything fun _ => True := by
  refine behaves_call trivial fun _ _ => ?_
  refine behaves_call trivial fun drained _ => ?_
  cases drained with
  | none => trivial
  | some batch =>
      dsimp only
      split
      · exact behaves_call trivial fun _ _ => trivial
      · refine behaves_call trivial fun _ _ => ?_
        refine behaves_call trivial fun _ _ => ?_
        refine (conclude_dispatches settings batch).mono_calls ?_ fun _ _ _ _ => trivial
        intro c permitted
        cases c with
        | loop c => cases c <;> trivial
        | _ => trivial

/-- A pass that is let in is run, and then the loop is at rest. -/
theorem run_reconcileBatch {handle : Handler Service.interface (κ × Loop.State)}
    (loops : ∀ c (s : κ × Loop.State), handle (.loop c) s =
      ((Loop.handle c s.2).1, (s.1, (Loop.handle c s.2).2)))
    (free : l.inPass = false) :
    let passed := (pass settings).run handle (k, { l with inPass := true })
    (reconcileBatch settings).run handle (k, l) =
      (passed.1, (passed.2.1, { passed.2.2 with phase := .idle, inPass := false })) := by
  intro passed
  have entered : (Work.enterPass).run handle (k, l) = (.ok true, (k, { l with inPass := true })) := by
    simp only [Work.enterPass, Program.perform, Program.run, loops, Loop.handle, free,
      Bool.not_false]
    rfl
  have left (s : κ × Loop.State) : (Work.leavePass).run handle s =
      (.ok (), (s.1, { s.2 with phase := .idle, inPass := false })) := by
    simp only [Work.leavePass, Program.perform, Program.run, loops]
    rfl
  change (Program.bind _ _).run handle (k, l) = _
  rw [run_bind, entered]
  simp only [if_true]
  rw [run_ensuring, run_bind, left]
  change (ofExcept passed.1).run handle _ = _
  cases passed.1 <;> rfl

/-- Passes that are started between its calls change nothing for a pass but the notes. -/
theorem run_intruded (free : l.inPass = false) :
    let ran := (reconcileBatch settings).run (attended serve) (k, l)
    ∃ journal, (reconcileBatch settings).run (intruded serve before after) (k, l) =
      (ran.1, (ran.2.1, { ran.2.2 with journal })) := by
  intro ran
  have start : SameButNotes (k, { l with inPass := true }) (k, { l with inPass := true }) :=
    ⟨rfl, rfl, l.journal, rfl⟩
  have alike : _ = ((pass settings).run (intruded serve before after)
        (k, { l with inPass := true })).1 ∧
      SameButNotes ((pass settings).run (attended serve) (k, { l with inPass := true })).2 _ :=
    run_alike SameButNotes (fun c s t same permitted => ⟨trivial, same.call permitted⟩)
      (pass_within settings) start
  obtain ⟨answer, tables, _, journal, loop⟩ := alike
  have alone : ran = _ := run_reconcileBatch (fun _ _ => rfl) free
  have disturbed : (reconcileBatch settings).run (intruded serve before after) (k, l) = _ :=
    run_reconcileBatch (fun _ _ => rfl) free
  refine ⟨journal, ?_⟩
  rw [disturbed, alone, ← answer, tables, loop]

/-- At each call of a collaborator a pass tells its phase, and any pass that is started there is
turned away; however the pass ends, the loop is at rest and the next pass drains the feed; and
passes started around its calls leave it as it is. -/
theorem reconcileBatch_single_flight (serve : Handler Service.interface κ) (settings : Settings)
    (k : κ) (l : Loop.State) (free : l.inPass = false) :
    let ran := (reconcileBatch settings).run (attended serve) (k, l)
    (∀ visit ∈ (reconcileBatch settings).visits (attended serve) (k, l),
      isCollaboration visit.1 = true →
        visit.2.2.phase = phaseOf visit.1 ∧
        ∀ (τ : Type) (around : Handler Service.interface τ) (t : τ) (other : Settings),
          (reconcileBatch other).run (attended around) (t, visit.2.2) =
            (.ok [], (t, turnedAway visit.2.2)) ∧
          ∀ c ∈ (reconcileBatch other).calls (attended around) (t, visit.2.2),
            isCollaboration c = false) ∧
    (ran.2.2.phase = .idle ∧ ran.2.2.inPass = false ∧
      ∀ (τ : Type) (around : Handler Service.interface τ) (t : τ) (other : Settings),
        .drain other.batchLimit ∈ (reconcileBatch other).calls (attended around) (t, ran.2.2)) ∧
    ∀ before after, ∃ journal,
      (reconcileBatch settings).run (intruded serve before after) (k, l) =
        (ran.1, (ran.2.1, { ran.2.2 with journal })) := by
  intro ran
  have observes : (reconcileBatch settings).Observes (attended serve) InPhase _ (k, l) :=
    reconcileBatch_observes free
  obtain ⟨idle, left⟩ := observes.run
  refine ⟨fun visit member collaborates => ?_, ⟨idle, left, ?_⟩, ?_⟩
  · obtain ⟨running, phase⟩ := observes.visits visit member collaborates
    refine ⟨phase, fun τ around t other => ⟨run_turnedAway running, ?_⟩⟩
    intro c member
    rw [calls_turnedAway running] at member
    rcases List.mem_cons.mp member with rfl | last
    · rfl
    · rw [List.mem_singleton.mp last]
      rfl
  · exact fun τ around t other => drains_of_free left
  · exact fun before after => run_intruded free

def serveTables : Handler Service.interface Memory.Tables :=
  fun c tables =>
    let (answer, after) := Memory.handle c ⟨tables, .start⟩
    (answer, after.tables)

/-- A deletion is pending. -/
def oneDeleted : Memory.Tables :=
  (Memory.Tables.empty .earliest true).capture .delete "a"

theorem oneDeleted_single_flight :
    let settings : Settings := ⟨.text "results", none⟩
    let ran := (reconcileBatch settings).run (attended serveTables) (oneDeleted, .start)
    let visits := (reconcileBatch settings).visits (attended serveTables) (oneDeleted, .start)
    (visits.filter (isCollaboration ·.1)).map (·.2.2.phase) =
        [.draining, .dispatching, .dispatching, .dispatching] ∧
      (∀ visit ∈ visits, isCollaboration visit.1 = true →
        (reconcileBatch settings).run (attended serveTables) visit.2 =
          (.ok [], (visit.2.1, turnedAway visit.2.2))) ∧
      ran.2.2.phase = .idle ∧ ran.2.1.feed.pending = [] := by
  intro settings ran visits
  obtain ⟨inside, ⟨idle, _⟩, _⟩ :=
    reconcileBatch_single_flight serveTables settings oneDeleted .start rfl
  refine ⟨by decide +kernel, fun visit member collaborates => ?_, idle, by decide +kernel⟩
  exact ((inside visit member collaborates).2 _ serveTables visit.2.1 settings).1

end CheckKeeper.Sync
