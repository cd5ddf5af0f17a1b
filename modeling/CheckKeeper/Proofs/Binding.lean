import Mathlib.Data.List.Basic
import CheckKeeper.Proofs.Remit
import CheckKeeper.Proofs.Synchronizer

namespace CheckKeeper.Sync

open Program

/-! What a call on an id makes of the jobs that are bound to it.

A call asks the scheduler once which job is bound to its id, and works on the one that it is
told of.  An id may have several jobs all the same, and which of them is found is up to the
scheduler.
-/

/-- A job as it is found: the id that it is bound to, and the time of its last change in
microseconds, if there was one. -/
structure Binding where
  name : String
  checkId : String
  updatedAt : Option Int

/-- A job that never changed comes before all others. -/
def Binding.notAfter (b other : Binding) : Bool :=
  match b.updatedAt, other.updatedAt with
  | none, _ => true
  | some _, none => false
  | some time, some later => decide (time ≤ later)

theorem Binding.notAfter_refl (b : Binding) : b.notAfter b = true := by
  unfold notAfter
  cases b.updatedAt with
  | none => rfl
  | some time => exact decide_eq_true (Int.le_refl time)

theorem Binding.notAfter_trans {b other last : Binding} (first : b.notAfter other = true)
    (second : other.notAfter last = true) : b.notAfter last = true := by
  unfold notAfter at first second ⊢
  cases before : b.updatedAt with
  | none => rfl
  | some time =>
      cases between : other.updatedAt with
      | none => simp [before, between] at first
      | some later =>
          cases after : last.updatedAt with
          | none => simp [between, after] at second
          | some latest =>
              simp only [before, between, after, decide_eq_true_eq] at first second ⊢
              exact Int.le_trans first second

theorem Binding.notAfter_total (b other : Binding) :
    b.notAfter other = true ∨ other.notAfter b = true := by
  unfold notAfter
  cases b.updatedAt with
  | none => exact Or.inl rfl
  | some time =>
      cases other.updatedAt with
      | none => exact Or.inr rfl
      | some later => exact (Int.le_total time later).imp decide_eq_true decide_eq_true

/-- Which job a scheduler finds for an id. -/
abbrev Rule : Type :=
  List Binding → String → Option String

variable {rule : Rule} {checkId : String} {found : Option String} {s after : List Binding}
  {c : Service.Call} {b : Binding} {action : OutcomeAction}

def bound (checkId : String) (bindings : List Binding) : List Binding :=
  bindings.filter (·.checkId == checkId)

def boundNames (checkId : String) (bindings : List Binding) : List String :=
  (bound checkId bindings).map (·.name)

/-- No two jobs have one name, and none has the empty name. -/
structure Named (bindings : List Binding) : Prop where
  distinct : (bindings.map (·.name)).Nodup
  given : ∀ b ∈ bindings, b.name ≠ ""

/-- Each job has the name that its id gives it. -/
def Derived (bindings : List Binding) : Prop :=
  ∀ b ∈ bindings, b.name = Job.nameOf b.checkId

/-- What is found is bound to the id, and nothing is found only where nothing is bound. -/
structure Finds (rule : Rule) : Prop where
  found : ∀ bindings checkId name, rule bindings checkId = some name →
    name ∈ boundNames checkId bindings
  absent : ∀ bindings checkId, rule bindings checkId = none → boundNames checkId bindings = []

def firstInserted : Rule :=
  fun bindings checkId => (boundNames checkId bindings).head?

/-- Any job such that none was changed later. -/
structure LastUpdated (rule : Rule) : Prop where
  absent : ∀ bindings checkId, rule bindings checkId = none → boundNames checkId bindings = []
  latest : ∀ bindings checkId name, rule bindings checkId = some name →
    ∃ b ∈ bound checkId bindings, b.name = name ∧
      ∀ other ∈ bound checkId bindings, other.notAfter b = true

theorem finds_firstInserted : Finds firstInserted where
  found _ _ _ first := List.mem_of_head? first
  absent _ _ none_first := List.head?_eq_none_iff.mp none_first

theorem LastUpdated.finds (last : LastUpdated rule) : Finds rule where
  found bindings checkId name found := by
    obtain ⟨b, member, named, _⟩ := last.latest bindings checkId name found
    exact List.mem_map.mpr ⟨b, member, named⟩
  absent := last.absent

def without (found : Option String) (bindings : List Binding) : List Binding :=
  bindings.filter fun b => some b.name != found

/-- What a call may answer, and what it may leave of the jobs: one that stores or removes a job
may fail, and may have done so all the same. -/
def Moves (rule : Rule) : (c : Service.interface.Call) → List Binding →
    Except Failure (Service.interface.Answer c) → List Binding → Prop
  | Service.Call.getDefinition checkId, s, answer, after =>
      after = s ∧ ∀ row, answer = .ok (some row) → row.checkId = checkId
  | Service.Call.findJob checkId, s, answer, after =>
      after = s ∧ ∀ name, answer = .ok name → name = rule s checkId
  | Service.Call.putJob job, s, answer, after =>
      (∃ now, after = Keyed.put (·.name) ⟨job.name, job.checkId, now⟩ s) ∨
        (after = s ∧ answer.isOk = false)
  | Service.Call.deleteJob name, s, answer, after =>
      after = without (some name) s ∨ (after = s ∧ answer.isOk = false)
  | Service.Call.deleteDefinition _, s, _, after => after = s
  | Service.Call.loop _, s, _, after => after = s
  | _, _, _, _ => True

theorem moves_informs {answer : Except Failure (Service.Answer c)}
    (moves : Moves rule c s answer after) (checkId : String)
    (permitted : (Remit.ofId checkId fun _ => True).permits checkId c) :
    (Remit.ofId checkId fun _ => True).informs c answer := by
  cases c with
  | getDefinition about =>
      intro row told
      exact (moves.2 row told).trans permitted
  | findJob about => exact fun _ _ => trivial
  | _ => trivial

/-- A call that fails may have left anything that it leaves otherwise, or nothing new. -/
theorem moves_late {answer : Except Failure (Service.Answer c)}
    (moves : Moves rule c s answer after) (failure : Failure) : Moves rule c s (.error failure) after := by
  cases c with
  | getDefinition about => exact ⟨moves.1, fun _ told => by cases told⟩
  | findJob about => exact ⟨moves.1, fun _ told => by cases told⟩
  | putJob job => exact moves.imp_right fun still => ⟨still.1, rfl⟩
  | deleteJob name => exact moves.imp_right fun still => ⟨still.1, rfl⟩
  | deleteDefinition about => exact moves
  | loop c => exact moves
  | _ => trivial

theorem moves_early (rule : Rule) (c : Service.Call) (s : List Binding) (failure : Failure) :
    Moves rule c s (.error failure) s := by
  cases c with
  | getDefinition about => exact ⟨rfl, fun _ told => by cases told⟩
  | findJob about => exact ⟨rfl, fun _ told => by cases told⟩
  | putJob job => exact Or.inr ⟨rfl, rfl⟩
  | deleteJob name => exact Or.inr ⟨rfl, rfl⟩
  | deleteDefinition about => rfl
  | loop c => rfl
  | _ => trivial

/-- A property of the jobs that neither storing a job under its own name nor removing one
touches. -/
structure Stable (P : List Binding → Prop) : Prop where
  stores : ∀ s checkId now, P s → P (Keyed.put (·.name) ⟨Job.nameOf checkId, checkId, now⟩ s)
  removes : ∀ s found, P s → P (without found s)

theorem stable_named : Stable Named where
  stores s checkId now named := by
    refine ⟨Keyed.nodup_put named.distinct, fun b member => ?_⟩
    rcases Keyed.mem_put member with rfl | old
    · exact nameOf_ne_empty checkId
    · exact named.given b old
  removes s found named :=
    ⟨named.distinct.sublist (List.filter_sublist.map _),
      fun b member => named.given b (List.mem_of_mem_filter member)⟩

theorem stable_derived : Stable Derived where
  stores s checkId now derived := by
    intro b member
    rcases Keyed.mem_put member with rfl | old
    · rfl
    · exact derived b old
  removes s found derived := fun b member => derived b (List.mem_of_mem_filter member)

theorem Stable.moves {P : List Binding → Prop} (stable : Stable P)
    {answer : Except Failure (Service.Answer c)} (moves : Moves rule c s answer after)
    (permitted : (Remit.ofId checkId fun _ => True).permits checkId c) (holds : P s) : P after := by
  cases c with
  | getDefinition about => exact moves.1 ▸ holds
  | findJob about => exact moves.1 ▸ holds
  | deleteDefinition about =>
      obtain rfl : after = s := moves
      exact holds
  | putJob job =>
      obtain ⟨about, named⟩ := permitted
      rcases moves with ⟨now, rfl⟩ | ⟨rfl, _⟩
      · rw [about, named]
        exact stable.stores s checkId now holds
      · exact holds
  | deleteJob name =>
      rcases moves with rfl | ⟨rfl, _⟩
      · exact stable.removes s (some name) holds
      · exact holds
  | loop c =>
      obtain rfl : after = s := moves
      exact holds
  | _ => exact permitted.elim

theorem succeeds_note {α : Type} {level : LogLevel} {text : String} {next : Unit → Work α}
    {post : α → List Binding → Prop} (rest : (next ()).Succeeds (Moves rule) post s) :
    (Work.note level text >>= next).Succeeds (Moves rule) post s := by
  apply succeeds_call
  intro value after moves
  obtain rfl : after = s := moves
  exact rest

theorem without_none (s : List Binding) : without none s = s :=
  List.filter_eq_self.mpr fun _ _ => rfl

/-- What is found has a name, so it is taken for a job that is there. -/
theorem givenName_of_finds (finds : Finds rule) (named : Named s) (checkId : String) :
    givenName (rule s checkId) = rule s checkId := by
  cases found : rule s checkId with
  | none => rfl
  | some name =>
      obtain ⟨b, member, rfl⟩ := List.mem_map.mp (finds.found s checkId name found)
      have given := named.given b (List.mem_of_mem_filter member)
      simpa [givenName] using given

theorem deleteBoundJob_leaves (given : givenName found = found) :
    (deleteBoundJob found).Succeeds (Moves rule) (fun _ after => after = without found s) s := by
  unfold deleteBoundJob
  rw [given]
  cases found with
  | none => exact succeeds_done (without_none s).symm
  | some name =>
      apply succeeds_perform
      rintro deleted after (removed | ⟨_, failed⟩)
      · exact removed
      · cases failed

theorem drop_leaves (finds : Finds rule) (named : Named s) (checkId : String) :
    (drop checkId).Succeeds (Moves rule)
      (fun outcome after => outcome.action = .dropped ∧ after = without (rule s checkId) s) s := by
  apply succeeds_call
  rintro found after ⟨rfl, told⟩
  obtain rfl := told found rfl
  apply succeeds_bind (deleteBoundJob_leaves (givenName_of_finds finds named checkId))
  rintro deleted after rfl
  apply succeeds_call
  rintro row_deleted last moves
  obtain rfl : last = without (rule after checkId) after := moves
  split
  · exact succeeds_note (succeeds_done ⟨rfl, rfl⟩)
  · exact succeeds_note (succeeds_done ⟨rfl, rfl⟩)

theorem applyInvalid_leaves (finds : Finds rule) (named : Named s) (checkId : String)
    (reason : InvalidReason) (message : String) :
    (applyInvalid checkId reason message).Succeeds (Moves rule)
      (fun outcome after => (outcome.action = .unsupported ∧ after = s) ∨
        (outcome.action = .invalidated ∧ after = without (rule s checkId) s)) s := by
  unfold applyInvalid
  split
  · exact succeeds_note (succeeds_done (Or.inl ⟨rfl, rfl⟩))
  · apply succeeds_note
    apply succeeds_bind (drop_leaves finds named checkId)
    rintro dropped after ⟨_, ended⟩
    exact succeeds_done (Or.inr ⟨rfl, ended⟩)

theorem deactivate_leaves (given : givenName found = found) :
    (deactivate checkId found).Succeeds (Moves rule)
      (fun outcome after => outcome.action = .deactivated ∧ after = without found s) s := by
  apply succeeds_bind (deleteBoundJob_leaves given)
  rintro deleted after ended
  exact succeeds_note (succeeds_done ⟨rfl, ended⟩)

/-- The job that was found goes, unless it has the new name. -/
def superseded (name : String) (found : Option String) (bindings : List Binding) : List Binding :=
  bindings.filter fun b => b.name == name || some b.name != found

theorem superseded_own (name : String) (s : List Binding) : superseded name (some name) s = s :=
  List.filter_eq_self.mpr fun b _ => by by_cases same : b.name = name <;> simp [same]

theorem superseded_other (different : found ≠ some name) :
    superseded name found s = without found s := by
  apply List.filter_congr
  intro b _
  by_cases same : b.name = name
  · simp [same, different.symm]
  · simp [same]

theorem supersede_leaves (given : givenName found = found) (name : String) :
    (supersede checkId found name).Succeeds (Moves rule)
      (fun _ after => after = superseded name found s) s := by
  unfold supersede
  rw [given]
  cases found with
  | none =>
      have kept : superseded name none s = s := by
        rw [superseded_other (by simp), without_none]
      exact succeeds_done kept.symm
  | some old =>
      by_cases same : old = name
      · subst same
        simp only [if_true]
        exact succeeds_done (superseded_own old s).symm
      · simp only [same, if_false]
        apply succeeds_call
        rintro deleted after (removed | ⟨_, failed⟩)
        · apply succeeds_note
          refine succeeds_done (removed.trans (superseded_other ?_).symm)
          simpa using same
        · cases failed

/-- What a call that returns leaves of the jobs, when it has found this job of its id. -/
def Left (checkId : String) (found : Option String) (s after : List Binding) : OutcomeAction → Prop
  | .created | .replaced => ∃ now, after =
      superseded (Job.nameOf checkId) found
        (Keyed.put (·.name) ⟨Job.nameOf checkId, checkId, now⟩ s)
  | .dropped | .invalidated | .deactivated => after = without found s
  | .unsupported => after = s
  | .failed => False

theorem schedule_leaves {check : CompiledCheck} (given : givenName found = found)
    (about : check.checkId = checkId) (named : check.jobName = Job.nameOf checkId) :
    (schedule checkId check found).Succeeds (Moves rule)
      (fun outcome after => Left checkId found s after outcome.action) s := by
  subst about
  apply succeeds_call
  rintro replaced stored (⟨now, rfl⟩ | ⟨_, failed⟩)
  · apply succeeds_bind (supersede_leaves given check.jobName)
    rintro removed after rfl
    apply succeeds_note
    apply succeeds_done
    have left : ∃ time, superseded check.jobName found
          (Keyed.put (·.name) ⟨check.toJob.name, check.toJob.checkId, now⟩ s) =
        superseded (Job.nameOf check.checkId) found
          (Keyed.put (·.name) ⟨Job.nameOf check.checkId, check.checkId, time⟩ s) :=
      ⟨now, by rw [← named]; rfl⟩
    dsimp only
    split
    · exact left
    · exact left
  · cases failed

theorem dispatch_leaves (resultsTable : Value) (checkId : String) :
    (dispatch resultsTable checkId).Succeeds (Moves rule)
      (fun read after => after = s ∧ read.definition.checkId = checkId ∧
        Compile.compile read.definition resultsTable = .ok read.verdict) s := by
  apply succeeds_call
  rintro answer after ⟨rfl, own⟩
  cases answer with
  | none =>
      intro read same
      cases same
  | some row =>
      apply succeeds_ofExcept
      intro verdict compiled
      apply succeeds_ofExcept
      intro kind _
      exact succeeds_done ⟨rfl, own row rfl, compiled⟩

theorem createOrReplace_leaves (finds : Finds rule) (named : Named s) (resultsTable : Value)
    (checkId : String) :
    (createOrReplace resultsTable checkId).Succeeds (Moves rule)
      (fun outcome after => Left checkId (rule s checkId) s after outcome.action) s := by
  have given := givenName_of_finds finds named checkId
  apply succeeds_bind (dispatch_leaves resultsTable checkId)
  rintro ⟨row, kind, verdict⟩ after ⟨rfl, own, compiled⟩
  cases verdict with
  | invalid about reason message =>
      refine (applyInvalid_leaves finds named checkId reason message).mono ?_
      intro answer last ended outcome answered
      rcases ended outcome answered with ⟨action, left⟩ | ⟨action, left⟩
      · rw [action]
        exact left
      · rw [action]
        exact left
  | valid check message =>
      obtain ⟨about, job⟩ := Compile.isOf_compile compiled
      rw [own] at about job
      apply succeeds_call
      rintro found last ⟨rfl, told⟩
      obtain rfl := told found rfl
      dsimp only
      split
      · exact schedule_leaves given about job
      · refine (deactivate_leaves given).mono ?_
        intro answer after ended outcome answered
        obtain ⟨action, left⟩ := ended outcome answered
        rw [action]
        exact left

/-- The names of the jobs that are to be bound to an id after a call on it. -/
def expectedNames (checkId : String) : OutcomeAction → List String
  | .created | .replaced => [Job.nameOf checkId]
  | _ => []

theorem boundNames_without (checkId : String) (found : Option String) (s : List Binding) :
    boundNames checkId (without found s) =
      (boundNames checkId s).filter fun name => some name != found := by
  unfold boundNames bound without
  rw [List.filter_filter, List.filter_map, List.filter_filter]
  congr 1
  apply List.filter_congr
  intro b _
  exact Bool.and_comm _ _

theorem boundNames_without_iff :
    boundNames checkId (without found s) = [] ↔
      ∀ name ∈ boundNames checkId s, found = some name := by
  rw [boundNames_without, List.filter_eq_nil_iff]
  refine forall₂_congr fun name _ => ?_
  rw [Bool.not_eq_true, bne_eq_false_iff_eq]
  exact eq_comm

theorem boundNames_superseded_iff (named : Named s) (own : b.checkId = checkId) :
    boundNames checkId (superseded b.name found (Keyed.put (·.name) b s)) = [b.name] ↔
      ∀ name ∈ boundNames checkId s, found = some name ∨ name = b.name := by
  constructor
  · intro alone name member
    obtain ⟨old, inside, rfl⟩ := List.mem_map.mp member
    obtain ⟨inside, about⟩ := List.mem_filter.mp inside
    -- an old job that was not found and has another name is bound to the id after the call too
    by_contra neither
    rw [not_or] at neither
    obtain ⟨not_found, other⟩ := neither
    have kept : old ∈ superseded b.name found (Keyed.put (·.name) b s) :=
      List.mem_filter.mpr ⟨Keyed.mem_put_of_mem inside other, by simp [Ne.symm not_found]⟩
    have listed : old.name ∈
        boundNames checkId (superseded b.name found (Keyed.put (·.name) b s)) :=
      List.mem_map.mpr ⟨old, List.mem_filter.mpr ⟨kept, about⟩, rfl⟩
    rw [alone, List.mem_singleton] at listed
    exact other listed
  · intro told
    have alone : bound checkId (superseded b.name found (Keyed.put (·.name) b s)) = [b] := by
      unfold bound superseded
      rw [List.filter_filter]
      apply Keyed.filter_put_of_own named.distinct
      · simp [own]
      · intro old inside seen
        rw [Bool.and_eq_true, Bool.or_eq_true, beq_iff_eq, beq_iff_eq] at seen
        obtain ⟨about, kept⟩ := seen
        have listed : old.name ∈ boundNames checkId s :=
          List.mem_map.mpr ⟨old, List.mem_filter.mpr ⟨inside, by simpa using about⟩, rfl⟩
        rcases told old.name listed with found_it | same
        · simpa [found_it] using kept
        · exact same
    rw [boundNames, alone, List.map_singleton]

/-- A call leaves an id the jobs that it is to have exactly when, of those that it had, each
was found by the call or has the new name. -/
theorem Left.expected_iff (left : Left checkId found s after action) (named : Named s)
    (supported : action ≠ .unsupported) :
    boundNames checkId after = expectedNames checkId action ↔
      ∀ name ∈ boundNames checkId s, found = some name ∨ name ∈ expectedNames checkId action := by
  have stored : ∀ now, boundNames checkId (superseded (Job.nameOf checkId) found
        (Keyed.put (·.name) ⟨Job.nameOf checkId, checkId, now⟩ s)) = [Job.nameOf checkId] ↔
      ∀ name ∈ boundNames checkId s, found = some name ∨ name ∈ [Job.nameOf checkId] := by
    intro now
    simp only [List.mem_singleton]
    exact boundNames_superseded_iff (b := ⟨Job.nameOf checkId, checkId, now⟩) named rfl
  have removed : boundNames checkId (without found s) = [] ↔
      ∀ name ∈ boundNames checkId s, found = some name ∨ name ∈ ([] : List String) := by
    simp only [List.not_mem_nil, or_false]
    exact boundNames_without_iff
  cases action with
  | created =>
      obtain ⟨now, rfl⟩ := left
      exact stored now
  | replaced =>
      obtain ⟨now, rfl⟩ := left
      exact stored now
  | dropped => exact left ▸ removed
  | invalidated => exact left ▸ removed
  | deactivated => exact left ▸ removed
  | unsupported => exact absurd rfl supported
  | failed => exact left.elim

end CheckKeeper.Sync
