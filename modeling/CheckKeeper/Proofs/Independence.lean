import CheckKeeper.Proofs.Pass
import CheckKeeper.Proofs.Share
import CheckKeeper.Proofs.Staleness

namespace CheckKeeper.Sync

open Calendar Memory Program

/-! The actions of a pass do not depend on one another.

An action reads and changes the share of its id and nothing else.  So in whatever order the
actions of a pass are carried out, each comes to what it comes to when it is carried out
alone, and the tables that are left are the same.
-/

variable {settings : Settings} {checkId : String} {names : List String} {action : ChangeAction}
  {s t : Timed} {c : Service.Call}

/-- The remit of an action of an id: its row, the job that it asks for, and jobs of some names. -/
def remitOf (checkId : String) (names : List String) : Remit where
  owns row := row.checkId = checkId
  stores job := job.checkId = checkId ∧ job.name = Job.nameOf checkId
  removes name := name ∈ names

theorem covers_remitOf (checkId : String) (names : List String) (resultsTable : Value) :
    (remitOf checkId names).Covers resultsTable :=
  Remit.covers_ofId checkId (· ∈ names) resultsTable

/-- What one call within the remit of an id does to the tables. -/
inductive Stroke (checkId : String) (names : List String) (tables : Tables) : Tables → Prop
  | still : Stroke checkId names tables tables
  | deleteRow : Stroke checkId names tables (tables.deleteRow checkId)
  | setJob {job : Job} (bound : job.checkId = checkId) (named : job.name = Job.nameOf checkId) :
      Stroke checkId names tables (tables.setJob job)
  | removeJob {name : String} (own : name ∈ names) : Stroke checkId names tables (tables.removeJob name)

theorem stroke_of_permits (permitted : (remitOf checkId names).permits checkId c) (s : State) :
    Stroke checkId names s.tables (Memory.handle c s).2.tables := by
  cases c with
  | getDefinition about => exact .still
  | deleteDefinition about =>
      cases permitted
      rw [handle_deleteDefinition]
      exact .deleteRow
  | findJob about => exact .still
  | putJob job => exact .setJob permitted.1 permitted.2
  | deleteJob name => exact .removeJob permitted
  | loop c =>
      cases c with
      | note level text => exact .still
      | _ => exact permitted.elim
  | _ => exact permitted.elim

variable {before after : Tables}

theorem Stroke.frame (stroke : Stroke checkId names before after) (own : Job.nameOf checkId ∈ names) :
    Tables.Frame [checkId] names before after := by
  cases stroke with
  | still => exact .refl _ _ _
  | deleteRow =>
      refine ⟨fun other free => ?_, fun free _ => ?_, fun job member _ => ?_⟩
      · exact Tables.row?_deleteRow_other fun same => free (by simp [same])
      · simp only [Tables.share, Tables.jobs_deleteRow]
      · rwa [Tables.jobs_deleteRow] at member
  | @setJob job bound named =>
      refine ⟨fun _ _ => rfl, fun free apart => ?_, fun job member free => ?_⟩
      · exact Tables.share_setJob_other fun member => apart _ member (named ▸ own)
      · rw [Tables.setJob_jobs] at member
        rcases Keyed.mem_put member with rfl | old
        · exact absurd (List.mem_singleton.mpr bound) free
        · exact old
  | removeJob own =>
      refine ⟨fun _ _ => rfl, fun free apart => ?_, fun job member _ => ?_⟩
      · exact Tables.share_removeJob_other fun member => apart _ member own
      · exact List.mem_of_mem_filter member

theorem Stroke.gone {start : Tables} {gone : List String}
    (stroke : Stroke checkId names before after) (lost : Tables.Gone start before gone) :
    ∃ more, Tables.Gone start after more := by
  cases stroke with
  | still => exact ⟨gone, lost⟩
  | deleteRow => exact lost.deleteRow checkId
  | setJob => exact ⟨gone, { lost with }⟩
  | removeJob => exact ⟨gone, { lost with }⟩

theorem Stroke.held (stroke : Stroke checkId names before after) (own : Job.nameOf checkId ∈ names)
    (held : Tables.Held checkId names before) : Tables.Held checkId names after := by
  cases stroke with
  | still => exact held
  | deleteRow =>
      intro job member bound
      rw [Tables.jobs_deleteRow] at member
      exact held job member bound
  | setJob _ named =>
      intro job member bound
      rw [Tables.setJob_jobs] at member
      rcases Keyed.mem_put member with rfl | old
      · exact named ▸ own
      · exact held job old bound
  | removeJob => exact fun job member bound => held job (List.mem_of_mem_filter member) bound

/-- A call within the remit is answered alike where the share of the id is the same, and
leaves the same share. -/
theorem agree_handle {u v : State} (own : Job.nameOf checkId ∈ names)
    (agree : Tables.Agree checkId names u.tables v.tables)
    (permitted : (remitOf checkId names).permits checkId c) :
    (remitOf checkId names).informs c (Memory.handle c u).1 ∧
      (Memory.handle c u).1 = (Memory.handle c v).1 ∧
      Tables.Agree checkId names (Memory.handle c u).2.tables (Memory.handle c v).2.tables := by
  have left := (stroke_of_permits permitted u).held own agree.left
  have right := (stroke_of_permits permitted v).held own agree.right
  cases c with
  | getDefinition about =>
      cases permitted
      refine ⟨fun row told => ?_, congrArg Except.ok agree.row, agree⟩
      exact Tables.row?_checkId (Except.ok.inj told)
  | deleteDefinition about =>
      cases permitted
      rw [handle_deleteDefinition] at left ⊢
      rw [handle_deleteDefinition] at right ⊢
      refine ⟨trivial, by rw [agree.row], ?_, ?_, left, right⟩
      · exact (Tables.row?_deleteRow_self _ _).trans (Tables.row?_deleteRow_self _ _).symm
      · simp only [State.withTables, Tables.share, Tables.jobs_deleteRow]
        exact agree.share
  | findJob about =>
      cases permitted
      have same : u.tables.jobNameOf checkId = v.tables.jobNameOf checkId := by
        rw [Tables.jobNameOf_eq agree.left, Tables.jobNameOf_eq agree.right, agree.share]
      refine ⟨fun name told => ?_, congrArg Except.ok same, agree⟩
      obtain ⟨job, member, rfl, bound⟩ := Tables.jobNameOf_eq_some (Except.ok.inj told)
      exact agree.left job member bound
  | putJob job =>
      obtain ⟨bound, named⟩ := permitted
      have inside : job.name ∈ names := named ▸ own
      refine ⟨trivial, ?_, agree.row, ?_, left, right⟩
      · simp only [Memory.handle]
        rw [Tables.hasJob_eq inside, Tables.hasJob_eq inside, agree.share]
      · simp only [Memory.handle, State.withTables]
        rw [Tables.share_setJob_own inside, Tables.share_setJob_own inside, agree.share]
  | deleteJob name =>
      have inside : name ∈ names := permitted
      refine ⟨trivial, ?_, agree.row, ?_, left, right⟩
      · simp only [Memory.handle]
        rw [Tables.hasJob_eq inside, Tables.hasJob_eq inside, agree.share]
      · simp only [Memory.handle, State.withTables]
        rw [Tables.share_removeJob, Tables.share_removeJob, agree.share]
  | loop c =>
      cases c with
      | note level text => exact ⟨trivial, rfl, agree⟩
      | _ => exact permitted.elim
  | _ => exact permitted.elim

theorem agree_timed (own : Job.nameOf checkId ∈ names)
    (agree : Tables.Agree checkId names s.base.tables t.base.tables)
    (permitted : (remitOf checkId names).permits checkId c) :
    (remitOf checkId names).informs c (Timed.handle c s).1 ∧
      (Timed.handle c s).1 = (Timed.handle c t).1 ∧
      Tables.Agree checkId names (Timed.handle c s).2.base.tables
        (Timed.handle c t).2.base.tables :=
  agree_handle (u := s.base.at (s.clock 0)) (v := t.base.at (t.clock 0)) own
    ⟨agree.row, agree.share, agree.left, agree.right⟩ permitted

theorem stroke_timed (permitted : (remitOf checkId names).permits checkId c) (s : Timed) :
    Stroke checkId names (s.base.at (s.clock 0)).tables (Timed.handle c s).2.base.tables :=
  stroke_of_permits permitted (s.base.at (s.clock 0))

/-- What an action comes to, and the share that it leaves, only depend on the share of its id. -/
theorem apply_alike (settings : Settings) (action : ChangeAction) (own : Job.nameOf checkId ∈ names)
    (agree : Tables.Agree checkId names s.base.tables t.base.tables) :
    ((apply settings checkId action).run Timed.handle s).1 =
        ((apply settings checkId action).run Timed.handle t).1 ∧
      Tables.Agree checkId names
        ((apply settings checkId action).run Timed.handle s).2.base.tables
        ((apply settings checkId action).run Timed.handle t).2.base.tables :=
  run_alike (fun s t : Timed => Tables.Agree checkId names s.base.tables t.base.tables)
    (fun _ _ _ agree permitted => agree_timed own agree permitted)
    (apply_behaves (covers_remitOf checkId names _) checkId action) agree

theorem apply_frame (settings : Settings) (action : ChangeAction)
    (own : Job.nameOf checkId ∈ names) {start : Tables} {gone : List String}
    (held : Tables.Held checkId names s.base.tables) (lost : Tables.Gone start s.base.tables gone) :
    let after := ((apply settings checkId action).run Timed.handle s).2.base.tables
    Tables.Frame [checkId] names s.base.tables after ∧ ∃ more, Tables.Gone start after more := by
  let kept (t : Timed) : Prop := Tables.Held checkId names t.base.tables ∧
    Tables.Frame [checkId] names s.base.tables t.base.tables ∧
    ∃ more, Tables.Gone start t.base.tables more
  have step : ∀ c t, kept t → (remitOf checkId names).permits checkId c →
      (remitOf checkId names).informs c (Timed.handle c t).1 ∧ kept (Timed.handle c t).2 := by
    rintro c t ⟨held, frame, gone, lost⟩ permitted
    have stroke := stroke_timed permitted t
    refine ⟨(agree_timed own ⟨rfl, rfl, held, held⟩ permitted).1, stroke.held own held, ?_, ?_⟩
    · exact frame.trans { stroke.frame own with }
    · have lost_then : Tables.Gone start (t.base.at (t.clock 0)).tables gone := { lost with }
      exact stroke.gone lost_then
  exact (run_of_behaves kept step (apply_behaves (covers_remitOf checkId names _) checkId action)
    ⟨held, .refl _ _ _, gone, lost⟩).2.2

/-- The names that the actions of an id may touch: that of its own, and those of its jobs. -/
def namesOf (tables : Tables) (checkId : String) : List String :=
  Job.nameOf checkId :: (tables.jobsOf checkId).map (·.name)

theorem nameOf_mem_namesOf (tables : Tables) (checkId : String) :
    Job.nameOf checkId ∈ namesOf tables checkId :=
  List.mem_cons_self

theorem held_namesOf (tables : Tables) (checkId : String) :
    Tables.Held checkId (namesOf tables checkId) tables := by
  intro job member bound
  refine List.mem_cons_of_mem _ (List.mem_map_of_mem (List.mem_filter.mpr ⟨member, ?_⟩))
  simpa using bound

/-- No job of one of the ids carries the name that another of them gives. -/
def Separate (ids : List String) (tables : Tables) : Prop :=
  ∀ job ∈ tables.jobs, job.checkId ∈ ids → ∀ other ∈ ids, job.name = Job.nameOf other →
    job.checkId = other

theorem disjoint_namesOf {ids : List String} {tables : Tables} {a b name : String}
    (named : (tables.jobs.map (·.name)).Nodup) (apart : Tables.Apart ids)
    (separate : Separate ids tables) (first : a ∈ ids) (second : b ∈ ids) (differ : a ≠ b)
    (own : name ∈ namesOf tables a) : name ∉ namesOf tables b := by
  have bound : ∀ {id job}, job ∈ tables.jobsOf id → job ∈ tables.jobs ∧ job.checkId = id := by
    intro id job member
    obtain ⟨inside, same⟩ := List.mem_filter.mp member
    exact ⟨inside, by simpa using same⟩
  intro other
  apply differ
  rcases List.mem_cons.mp own with rfl | own
  · rcases List.mem_cons.mp other with same | other
    · exact apart a first b second same
    · obtain ⟨job, member, same⟩ := List.mem_map.mp other
      obtain ⟨inside, rfl⟩ := bound member
      exact (separate job inside second a first same).symm
  · obtain ⟨job, member, rfl⟩ := List.mem_map.mp own
    obtain ⟨inside, rfl⟩ := bound member
    rcases List.mem_cons.mp other with same | other
    · exact separate job inside first b second same
    · obtain ⟨job', member', same⟩ := List.mem_map.mp other
      obtain ⟨inside', rfl⟩ := bound member'
      rw [List.inj_on_of_nodup_map named inside' inside same]

def alone (settings : Settings) (s : State) (asked : String × ChangeAction) :
    Except Failure Outcome × Timed :=
  (apply settings asked.1 asked.2).run Timed.handle ⟨s, fun _ => s.tables.clock⟩

variable {actions : List (String × ChangeAction)} {start : State}

theorem run_applyEach_cons (settings : Settings) (asked : String × ChangeAction)
    (rest : List (String × ChangeAction)) (s : Timed) :
    let first := (apply settings asked.1 asked.2).run Timed.handle s
    let later := (applyEach settings rest).run Timed.handle first.2
    (applyEach settings (asked :: rest)).run Timed.handle s =
      (later.1.map (first.1 :: ·), later.2) := by
  intro first later
  change (Program.bind _ _).run Timed.handle s = _
  rw [run_bind, run_attempt]
  change (Program.bind (applyEach settings rest) _).run Timed.handle first.2 = _
  rw [run_bind]
  rcases ran : (applyEach settings rest).run Timed.handle first.2 with ⟨answer, after⟩
  have same : later = (answer, after) := ran
  rw [same]
  cases answer <;> rfl

/-- Each of the actions comes to what it comes to alone, and leaves the share of its id as it
does alone. -/
theorem applyEach_alone (settings : Settings) (distinct : (actions.map (·.1)).Nodup)
    (disjoint : ∀ a ∈ actions, ∀ b ∈ actions, a.1 ≠ b.1 →
      ∀ name ∈ namesOf start.tables a.1, name ∉ namesOf start.tables b.1)
    (agree : ∀ asked ∈ actions, Tables.Agree asked.1 (namesOf start.tables asked.1) start.tables
      s.base.tables)
    {gone : List String} (lost : Tables.Gone start.tables s.base.tables gone) :
    let ran := (applyEach settings actions).run Timed.handle s
    ran.1 = .ok (actions.map fun asked => (alone settings start asked).1) ∧
      (∀ asked ∈ actions, Tables.Agree asked.1 (namesOf start.tables asked.1)
        (alone settings start asked).2.base.tables ran.2.base.tables) ∧
      Tables.Frame (actions.map (·.1)) (actions.flatMap fun asked => namesOf start.tables asked.1)
        s.base.tables ran.2.base.tables ∧
      ∃ more, Tables.Gone start.tables ran.2.base.tables more := by
  induction actions generalizing s gone with
  | nil => exact ⟨rfl, by simp, .refl _ _ _, gone, lost⟩
  | cons asked rest ih =>
      rw [List.map_cons, List.nodup_cons] at distinct
      obtain ⟨fresh, distinct⟩ := distinct
      have apart : ∀ other ∈ rest, asked.1 ≠ other.1 := fun other member same =>
        fresh (same ▸ List.mem_map_of_mem member)
      have own := nameOf_mem_namesOf start.tables asked.1
      have agree_first := agree asked List.mem_cons_self
      obtain ⟨answer, share⟩ := apply_alike settings asked.2
        (s := ⟨start, fun _ => start.tables.clock⟩) (t := s) own agree_first
      obtain ⟨frame, more, lost'⟩ := apply_frame settings asked.2 own
        agree_first.right lost
      have agree_rest : ∀ other ∈ rest, Tables.Agree other.1 (namesOf start.tables other.1)
          start.tables ((apply settings asked.1 asked.2).run Timed.handle s).2.base.tables := by
        intro other member
        have differ := (apart other member).symm
        refine (agree other (List.mem_cons_of_mem _ member)).frame frame ?_ ?_
        · exact fun same => differ (List.mem_singleton.mp same)
        · exact disjoint other (List.mem_cons_of_mem _ member) asked List.mem_cons_self differ
      obtain ⟨answers, shares, frame', later⟩ := ih distinct
        (fun a first b second => disjoint a (List.mem_cons_of_mem _ first) b
          (List.mem_cons_of_mem _ second)) agree_rest lost'
      intro ran
      have whole : ran = _ := run_applyEach_cons settings asked rest s
      rw [whole]
      refine ⟨?_, ?_, ?_, later⟩
      · rw [answers, List.map_cons]
        exact congrArg (fun found => Except.ok (found :: _)) answer.symm
      · intro other member
        rcases List.mem_cons.mp member with rfl | behind
        · refine share.frame frame' fresh fun name inside among => ?_
          obtain ⟨another, listed, own⟩ := List.mem_flatMap.mp among
          exact disjoint other List.mem_cons_self another (List.mem_cons_of_mem _ listed)
            (apart another listed) name inside own
        · exact shares other behind
      · refine (frame.mono (by simp) (by simp)).trans (frame'.mono (by simp) (by simp))

/-- What some actions leave, told by what each of them leaves alone. -/
structure Composed (settings : Settings) (start : State) (actions : List (String × ChangeAction))
    (after : Tables) : Prop where
  shares : ∀ asked ∈ actions, Tables.Agree asked.1 (namesOf start.tables asked.1)
    (alone settings start asked).2.base.tables after
  frame : Tables.Frame (actions.map (·.1))
    (actions.flatMap fun asked => namesOf start.tables asked.1) start.tables after
  gone : ∃ gone, Tables.Gone start.tables after gone

theorem applyEach_composed (settings : Settings) (distinct : (actions.map (·.1)).Nodup)
    (named : (start.tables.jobs.map (·.name)).Nodup) (apart : Tables.Apart (actions.map (·.1)))
    (separate : Separate (actions.map (·.1)) start.tables) (clock : Nat → Moment) :
    let ran := (applyEach settings actions).run Timed.handle ⟨start, clock⟩
    ran.1 = .ok (actions.map fun asked => (alone settings start asked).1) ∧
      Composed settings start actions ran.2.base.tables := by
  have disjoint : ∀ a ∈ actions, ∀ b ∈ actions, a.1 ≠ b.1 →
      ∀ name ∈ namesOf start.tables a.1, name ∉ namesOf start.tables b.1 :=
    fun a first b second differ name own => disjoint_namesOf named apart separate
      (List.mem_map_of_mem first) (List.mem_map_of_mem second) differ own
  obtain ⟨answers, shares, frame, gone⟩ := applyEach_alone settings
    (s := ⟨start, clock⟩) distinct disjoint
    (fun asked _ => ⟨rfl, rfl, held_namesOf _ _, held_namesOf _ _⟩) (.refl _)
  exact ⟨answers, shares, frame, gone⟩

namespace Composed

variable {others : List (String × ChangeAction)} {after after' : Tables}

theorem row? (first : Composed settings start actions after)
    (second : Composed settings start others after') (reordered : actions.Perm others)
    (checkId : String) : after.row? checkId = after'.row? checkId := by
  by_cases among : checkId ∈ actions.map (·.1)
  · obtain ⟨asked, member, rfl⟩ := List.mem_map.mp among
    have row := (first.shares asked member).row
    rw [← row, (second.shares asked (reordered.mem_iff.mp member)).row]
  · rw [first.frame.rows checkId among, second.frame.rows checkId fun member =>
      among ((reordered.map _).mem_iff.mpr member)]

theorem job? (first : Composed settings start actions after)
    (second : Composed settings start others after') (reordered : actions.Perm others)
    (name : String) : (after.job? name).map Job.content = (after'.job? name).map Job.content := by
  by_cases among : ∃ asked ∈ actions, name ∈ namesOf start.tables asked.1
  · obtain ⟨asked, member, own⟩ := among
    rw [Tables.job?_eq own, Tables.job?_eq own, ← (first.shares asked member).share,
      (second.shares asked (reordered.mem_iff.mp member)).share]
  · have free : ∀ other ∈ [name],
        other ∉ actions.flatMap fun asked => namesOf start.tables asked.1 := by
      intro other member inside
      rw [List.mem_singleton] at member
      subst other
      exact among (List.mem_flatMap.mp inside)
    have free' : ∀ other ∈ [name],
        other ∉ others.flatMap fun asked => namesOf start.tables asked.1 :=
      fun other member inside => free other member ((reordered.flatMap_right _).mem_iff.mpr inside)
    have own : name ∈ [name] := List.mem_singleton_self name
    rw [Tables.job?_eq own, Tables.job?_eq own, first.frame.share _ free,
      second.frame.share _ free']

end Composed

/-- In whatever order actions of different ids are carried out, and however time passes,
each has the same outcome, and the same rows and jobs are left, with the same news. -/
theorem applyEach_independent (settings : Settings) {others : List (String × ChangeAction)}
    (distinct : (actions.map (·.1)).Nodup) (named : (start.tables.jobs.map (·.name)).Nodup)
    (apart : Tables.Apart (actions.map (·.1)))
    (separate : Separate (actions.map (·.1)) start.tables) (reordered : actions.Perm others)
    (clock clock' : Nat → Moment) :
    let first := (applyEach settings actions).run Timed.handle ⟨start, clock⟩
    let second := (applyEach settings others).run Timed.handle ⟨start, clock'⟩
    ∃ results results', first.1 = .ok results ∧ second.1 = .ok results' ∧
      (actions.zip results).Perm (others.zip results') ∧
      first.2.base.tables.rows = second.2.base.tables.rows ∧
      (∀ name, (first.2.base.tables.job? name).map Job.content =
        (second.2.base.tables.job? name).map Job.content) ∧
      ∃ news news', first.2.base.tables.feed.entries = start.tables.feed.entries ++ news ∧
        second.2.base.tables.feed.entries = start.tables.feed.entries ++ news' ∧
        (news.map fun entry => (entry.2.action, entry.2.checkId)).Perm
          (news'.map fun entry => (entry.2.action, entry.2.checkId)) := by
  intro first second
  have ids := reordered.map (·.1)
  obtain ⟨answered, composed⟩ :=
    applyEach_composed settings distinct named apart separate clock
  obtain ⟨answered', composed'⟩ :=
    applyEach_composed settings (ids.nodup_iff.mp distinct) named
      (fun a first b second => apart a (ids.mem_iff.mpr first) b (ids.mem_iff.mpr second))
      (fun job inside bound other member =>
        separate job inside (ids.mem_iff.mpr bound) other (ids.mem_iff.mpr member)) clock'
  obtain ⟨gone, lost⟩ := composed.gone
  obtain ⟨gone', lost'⟩ := composed'.gone
  obtain ⟨rows, same⟩ := lost.alike lost' (composed.row? composed' reordered)
  obtain ⟨news, entries, told⟩ := lost.told
  obtain ⟨news', entries', told'⟩ := lost'.told
  refine ⟨_, _, answered, answered', ?_, rows, composed.job? composed' reordered, news, news',
    entries, entries', ?_⟩
  · have paired : ∀ items : List (String × ChangeAction),
        items.zip (items.map fun asked => (alone settings start asked).1) =
          items.map fun asked => (asked, (alone settings start asked).1) := by
      intro items
      have zipped := List.zip_map' (f := id) (l := items)
        (g := fun asked => (alone settings start asked).1)
      rwa [List.map_id] at zipped
    rw [paired, paired]
    exact reordered.map _
  · rw [told, told']
    split
    · exact same.map _
    · exact List.Perm.refl _

/-- One id has a row and a job of another name, one has a row and a job, and one has
neither; the first is brought in step, the second is dropped, and the third fails. -/
def cluttered : State where
  tables := { Tables.empty .earliest true with
    rows := [sample, otherSample]
    jobs := [⟨"old", "a", .uniqueness, .null, .null, [], none⟩,
      ⟨Job.nameOf "b", "b", .uniqueness, .null, .null, [], none⟩] }
  loop := .start

def upkeep : List (String × ChangeAction) :=
  [("a", .update), ("b", .delete), ("c", .insert)]

/-- The clock of the second run loses its offset after four calls. -/
theorem upkeep_independent :
    let first := (applyEach ⟨.text "results", none⟩ upkeep).run Timed.handle
      ⟨cluttered, fun _ => .earliest⟩
    let second := (applyEach ⟨.text "results", none⟩ upkeep.reverse).run Timed.handle
      ⟨cluttered, fun n => { Moment.earliest with offset := if n < 4 then some .utc else none }⟩
    ∃ results results', first.1 = .ok results ∧ second.1 = .ok results' ∧
      (upkeep.zip results).Perm (upkeep.reverse.zip results') ∧
      first.2.base.tables.rows = second.2.base.tables.rows := by
  have named : (cluttered.tables.jobs.map (·.name)).Nodup := by decide +kernel
  have apart : Tables.Apart (upkeep.map (·.1)) := by
    unfold Tables.Apart
    decide +kernel
  have separate : Separate (upkeep.map (·.1)) cluttered.tables := by
    unfold Separate
    decide +kernel
  obtain ⟨results, results', answered, answered', same, rows, _⟩ :=
    applyEach_independent ⟨.text "results", none⟩ (by decide) named apart separate
      (List.reverse_perm upkeep).symm (fun _ => .earliest)
      fun n => { Moment.earliest with offset := if n < 4 then some .utc else none }
  exact ⟨results, results', answered, answered', same, rows⟩

end CheckKeeper.Sync
