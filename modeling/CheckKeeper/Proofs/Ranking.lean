import Mathlib.Order.Bounds.Basic
import Mathlib.Data.List.Nodup
import CheckKeeper.Proofs.Spans
import CheckKeeper.Proofs.Tables
import CheckKeeper.Rehearsal.Run

namespace CheckKeeper

open Calendar

/-! Which results of a check are shown.

The results of an id are ranked: newer ones come first, and of those that are as new the one that was
appended earlier.  What is shown is the beginning of the ranking.  Results stand in it with the places
at which they were appended, so that two of them with the same content are told apart.
-/

namespace Calendar

/-- The start of year 1 in universal time, from which spans are counted. -/
def yearOne : Span := 0

/-- The instants that moments with an offset tell. -/
def instants : Set Span :=
  {instant | ∃ moment : Moment, moment.isNaive = false ∧ moment.instant = instant}

theorem instant_earliest : Moment.earliest.instant = yearOne := by
  decide

/-- The earliest instant is almost a day before year 1 in universal time: where it is told, year 1 has
begun. -/
theorem isLeast_instants : IsLeast instants (1 - day) := by
  constructor
  · exact ⟨{ Moment.earliest with offset := some ⟨day - 1, by decide⟩ }, rfl, by decide⟩
  · rintro _ ⟨moment, aware, rfl⟩
    obtain ⟨date, time, offset⟩ := moment
    cases offset with
    | none => cases aware
    | some offset =>
        obtain ⟨clock, same, begun, _⟩ := Preview.wallClock_within ⟨date, time, some offset⟩
        have lower : ∀ ahead whole : Int, ahead < whole → 1 - whole ≤ clock - ahead := by omega
        rw [Moment.instant, same]
        exact lower offset.span day offset.inRange.2

end Calendar

section Sorting

variable {α : Type} {le : α → α → Bool} {Before : α → α → Prop} {items : List α}

/-- What is as great as one another keeps the order in which it came. -/
theorem pairwise_mergeSort_of_pairwise (trans : ∀ a b c, le a b = true → le b c = true → le a c = true)
    (total : ∀ a b, (le a b || le b a) = true) (order : items.Pairwise Before) :
    (items.mergeSort le).Pairwise fun a b => le a b = true ∧ (le b a = true → Before a b) := by
  refine (List.pairwise_mergeSort trans total items).and ?_
  induction items with
  | nil => rw [List.mergeSort_nil]; exact .nil
  | cons item rest ih =>
      -- The first item is put in behind those only that must stand before it.
      obtain ⟨earlier, later, sorted, sorted_rest, less⟩ := List.mergeSort_cons trans total item rest
      have before := (List.pairwise_cons.mp order).1
      have kept := ih (List.pairwise_cons.mp order).2
      rw [sorted_rest, List.pairwise_append] at kept
      rw [sorted, List.pairwise_append, List.pairwise_cons]
      refine ⟨kept.1, ⟨fun b inside _ => before b ?_, kept.2.1⟩, fun a inside b there back => ?_⟩
      · have inside_sorted : b ∈ rest.mergeSort le := by
          rw [sorted_rest]
          exact List.mem_append_right _ inside
        exact List.mem_mergeSort.mp inside_sorted
      · rcases List.mem_cons.mp there with rfl | there
        · have strict := less a inside
          rw [back] at strict
          cases strict
        · exact kept.2.2 a inside b there back

end Sorting

namespace CheckResult

variable {missing : Span} {result : CheckResult} {results : List CheckResult} {checkId : String}
  {first second : List (CheckResult × Nat)} {one other : CheckResult × Nat}

/-- Whether a result is one of the check with an id. -/
def isAbout (checkId : String) (result : CheckResult) : Bool :=
  result.checkId.text? == some checkId

/-- Whether the moment of a result, if it has one, has an offset. -/
def hasOffset (result : CheckResult) : Bool :=
  result.executedAt.all fun moment => !moment.isNaive

/-- If a result has a moment, that is later than an instant. -/
def IsLaterThan (instant : Span) (result : CheckResult) : Prop :=
  ∀ moment, result.executedAt = some moment → instant < moment.instant

/-- The instant of a result; `missing` is what counts for one that has no moment. -/
def instantOr (missing : Span) (result : CheckResult) : Span :=
  result.executedAt.elim missing Moment.instant

/-- The one result is newer than the other, or as new and appended before it. -/
def Ahead (missing : Span) (one other : CheckResult × Nat) : Prop :=
  other.1.instantOr missing < one.1.instantOr missing ∨
    one.1.instantOr missing = other.1.instantOr missing ∧ one.2 < other.2

instance : Decidable (Ahead missing one other) :=
  inferInstanceAs (Decidable (_ ∨ _))

/-- All results of an id among those that were appended, each with its place, in their order. -/
structure Ranks (missing : Span) (results : List CheckResult) (checkId : String)
    (ranking : List (CheckResult × Nat)) : Prop where
  covers : ∀ entry, entry ∈ ranking ↔ entry ∈ results.zipIdx ∧ isAbout checkId entry.1 = true
  ordered : ranking.Pairwise (Ahead missing)

/-- Whether the one result is as new as the other, or newer. -/
def isAsNew (missing : Span) (one other : CheckResult) : Bool :=
  other.instantOr missing ≤ one.instantOr missing

def ranking (missing : Span) (results : List CheckResult) (checkId : String) :
    List (CheckResult × Nat) :=
  (results.zipIdx.filter fun entry => isAbout checkId entry.1).mergeSort fun one other =>
    isAsNew missing one.1 other.1

theorem Ahead.asymm (ahead : Ahead missing one other) : ¬ Ahead missing other one := by
  rintro (newer | ⟨same, earlier⟩)
  · rcases ahead with older | ⟨same, _⟩
    · exact lt_asymm older newer
    · exact newer.ne same
  · rcases ahead with older | ⟨_, later⟩
    · exact older.ne same
    · exact lt_asymm later earlier

theorem Ahead.ne (ahead : Ahead missing one other) : one ≠ other := by
  rintro rfl
  exact ahead.asymm ahead

theorem Ahead.le (ahead : Ahead missing one other) :
    other.1.instantOr missing ≤ one.1.instantOr missing := by
  rcases ahead with newer | ⟨same, _⟩
  · exact newer.le
  · exact same.ge

/-- To put the results without a moment at an earlier instant changes nothing for those that have a later
one. -/
theorem Ahead.lower {lower : Span} (ahead : Ahead missing one other) (le : lower ≤ missing)
    (one_later : one.1.IsLaterThan missing) (other_later : other.1.IsLaterThan missing) :
    Ahead lower one other := by
  unfold IsLaterThan at one_later other_later
  unfold Ahead instantOr at ahead ⊢
  cases first : one.1.executedAt with
  | none =>
      cases second : other.1.executedAt with
      | none =>
          rw [first, second] at ahead
          exact .inr ⟨rfl, (ahead.resolve_left (lt_irrefl _)).2⟩
      | some moment =>
          have later := other_later moment second
          rw [first, second] at ahead
          rcases ahead with newer | ⟨same, _⟩
          · exact absurd newer (lt_asymm later)
          · exact absurd same later.ne
  | some moment =>
      cases second : other.1.executedAt with
      | none => exact .inl (le.trans_lt (one_later moment first))
      | some moment' =>
          rw [first, second] at ahead
          exact ahead

theorem pairwise_zipIdx (results : List CheckResult) :
    results.zipIdx.Pairwise fun a b => a.2 < b.2 := by
  rw [← List.pairwise_map, List.zipIdx_map_snd]
  exact List.pairwise_lt_range'

theorem Ranks.nodup (ranks : Ranks missing results checkId first) : first.Nodup :=
  ranks.ordered.imp Ahead.ne

theorem Ranks.of_perm
    (perm : first.Perm (results.zipIdx.filter fun entry => isAbout checkId entry.1))
    (ordered : first.Pairwise (Ahead missing)) : Ranks missing results checkId first where
  covers entry := by rw [perm.mem_iff, List.mem_filter]
  ordered := ordered

theorem Ranks.perm (ranks : Ranks missing results checkId first) :
    first.Perm (results.zipIdx.filter fun entry => isAbout checkId entry.1) := by
  have distinct : results.zipIdx.Nodup := (pairwise_zipIdx results).imp fun lt same => by
    rw [same] at lt
    exact lt_irrefl _ lt
  rw [List.perm_ext_iff_of_nodup ranks.nodup (distinct.filter _)]
  exact fun entry => by rw [ranks.covers, List.mem_filter]

/-- There is one ranking only. -/
theorem Ranks.unique (ranks : Ranks missing results checkId first)
    (again : Ranks missing results checkId second) : first = second := by
  refine List.Perm.eq_of_pairwise ?_ ranks.ordered again.ordered (ranks.perm.trans again.perm.symm)
  intro a b _ _ ahead behind
  exact absurd behind ahead.asymm

/-- No place stands twice in a ranking. -/
theorem Ranks.nodup_places (ranks : Ranks missing results checkId first) :
    (first.map (·.2)).Nodup := by
  refine (ranks.perm.map (·.2)).nodup_iff.mpr ?_
  exact List.pairwise_map.mpr (((pairwise_zipIdx results).filter _).imp Nat.ne_of_lt)

theorem Ranks.length (ranks : Ranks missing results checkId first) :
    first.length = results.countP (isAbout checkId) := by
  rw [ranks.perm.length_eq, ← List.countP_eq_length_filter]
  conv_rhs => rw [← List.zipIdx_map_fst 0 results, List.countP_map]
  rfl

theorem Ranks.lower {lower : Span} (ranks : Ranks missing results checkId first) (le : lower ≤ missing)
    (later : ∀ result ∈ results, isAbout checkId result = true → result.IsLaterThan missing) :
    Ranks lower results checkId first where
  covers := ranks.covers
  ordered := by
    have later_of_mem : ∀ entry ∈ first, entry.1.IsLaterThan missing := by
      intro entry ranked
      obtain ⟨appended, about⟩ := (ranks.covers entry).mp ranked
      exact later entry.1 (List.fst_mem_of_mem_zipIdx appended) about
    refine List.Pairwise.imp_of_mem ?_ ranks.ordered
    intro one other one_ranked other_ranked ahead
    exact ahead.lower le (later_of_mem one one_ranked) (later_of_mem other other_ranked)

/-- What stands in the beginning of a ranking is as new as what does not. -/
theorem Ranks.le_of_shown (ranks : Ranks missing results checkId first) (limit : Nat) :
    ∀ shown ∈ first.take limit, ∀ other ∈ first, other ∉ first.take limit →
      other.1.instantOr missing ≤ shown.1.instantOr missing := by
  intro shown inside other ranked omitted
  have parts := ranks.ordered
  rw [← List.take_append_drop limit first] at parts ranked
  have behind := (List.mem_append.mp ranked).resolve_left omitted
  exact ((List.pairwise_append.mp parts).2.2 shown inside other behind).le

theorem isAsNew_iff {one other : CheckResult} :
    isAsNew missing one other = true ↔ other.instantOr missing ≤ one.instantOr missing :=
  decide_eq_true_iff

theorem isAsNew_trans (a b c : CheckResult) (ab : isAsNew missing a b = true)
    (bc : isAsNew missing b c = true) : isAsNew missing a c = true :=
  isAsNew_iff.mpr ((isAsNew_iff.mp bc).trans (isAsNew_iff.mp ab))

theorem isAsNew_total (a b : CheckResult) :
    (isAsNew missing a b || isAsNew missing b a) = true := by
  rw [Bool.or_eq_true, isAsNew_iff, isAsNew_iff]
  exact le_total _ _

theorem ranks_ranking (missing : Span) (results : List CheckResult) (checkId : String) :
    Ranks missing results checkId (ranking missing results checkId) where
  covers entry := by rw [ranking, List.mem_mergeSort, List.mem_filter]
  ordered := by
    have places := (pairwise_zipIdx results).filter fun entry => isAbout checkId entry.1
    refine (pairwise_mergeSort_of_pairwise (fun a b c => isAsNew_trans a.1 b.1 c.1)
      (fun a b => isAsNew_total a.1 b.1) places).imp ?_
    rintro a b ⟨as_new, earlier⟩
    rw [isAsNew_iff] at as_new earlier
    exact as_new.lt_or_eq.imp id fun same => ⟨same.symm, earlier same.ge⟩

theorem same_checkId (result : CheckResult) (checkId : String) :
    result.checkId.same (.text checkId) = isAbout checkId result := by
  unfold isAbout
  cases result.checkId <;> rfl

theorem instant_sortMoment (result : CheckResult) :
    result.sortMoment.instant = result.instantOr yearOne := by
  unfold sortMoment instantOr
  cases result.executedAt with
  | none => exact instant_earliest
  | some moment => rfl

theorem isNaive_sortMoment (dated : result.hasOffset = true) : result.sortMoment.isNaive = false := by
  unfold hasOffset at dated
  unfold sortMoment
  cases moment : result.executedAt with
  | none => rfl
  | some moment' => simpa [moment] using dated

theorem haveOneClock_of_hasOffset (dated : ∀ result ∈ results, result.hasOffset = true) :
    haveOneClock results = true := by
  cases results with
  | nil => rfl
  | cons first rest =>
      rw [haveOneClock, List.all_eq_true]
      intro other inside
      rw [Moment.comparable, isNaive_sortMoment (dated first List.mem_cons_self),
        isNaive_sortMoment (dated other (List.mem_cons_of_mem first inside))]
      rfl

/-- Results are shown from the first of the ranking on, in which those without a moment count as of the
start of year 1 in universal time. -/
theorem recent_eq_take (limit : Nat)
    (dated : ∀ result ∈ results, isAbout checkId result = true → result.hasOffset = true) :
    recent results checkId limit = .ok (((ranking yearOne results checkId).take limit).map (·.1)) := by
  have about : (fun result : CheckResult => result.checkId.same (.text checkId)) = isAbout checkId :=
    funext fun result => same_checkId result checkId
  have found : (results.zipIdx.filter fun entry => isAbout checkId entry.1).map (·.1) =
      results.filter (isAbout checkId) := by
    conv_rhs => rw [← List.zipIdx_map_fst 0 results, List.filter_map]
    rfl
  have one_clock : haveOneClock (results.filter (isAbout checkId)) = true := by
    refine haveOneClock_of_hasOffset fun result inside => ?_
    exact dated result (List.mem_filter.mp inside).1 (List.mem_filter.mp inside).2
  have sorted : (results.filter (isAbout checkId)).mergeSort
        (fun a b => b.sortMoment.instant ≤ a.sortMoment.instant) =
      (ranking yearOne results checkId).map (·.1) := by
    rw [ranking, List.map_mergeSort (s := isAsNew yearOne) (fun _ _ _ _ => rfl), found]
    simp only [instant_sortMoment]
    rfl
  unfold recent
  rw [about]
  dsimp only
  rw [if_pos one_clock, sorted, List.map_take]
  rfl

end CheckResult

/-- No call of a collaborator changes the table of results. -/
theorem Memory.results_handle (c : Service.Call) (s : State) :
    (handle c s).2.tables.results = s.tables.results := by
  cases c with
  | putDefinition d =>
      simp only [handle]
      split
      · rename_i action after stored
        obtain ⟨_, rfl⟩ := Tables.eq_setRow_of_putRow stored
        exact Tables.results_capture _ action d.checkId
      · rfl
  | deleteDefinition checkId =>
      simp only [handle]
      split
      · exact Tables.results_capture _ .delete checkId
      · rfl
  | _ => rfl

namespace Rehearsal

open CheckResult (Ranks isAbout)

/-- What is done while results come in: one is appended, or a collaborator is called. -/
inductive ResultDeed where
  | append (result : CheckResult)
  | call (c : Service.Call)

namespace ResultDeed

def carryOut (s : State) : ResultDeed → State
  | .append result => (addResult result s).2
  | .call c => (plainly c s).2

def result? : ResultDeed → Option CheckResult
  | .append result => some result
  | .call _ => none

end ResultDeed

def afterResults (s : State) (deeds : List ResultDeed) : State :=
  deeds.foldl ResultDeed.carryOut s

/-- The results that were appended, in their order. -/
def appended (deeds : List ResultDeed) : List CheckResult :=
  deeds.filterMap ResultDeed.result?

theorem results_carryOut (s : State) (deed : ResultDeed) :
    (deed.carryOut s).tables.results = s.tables.results ++ deed.result?.toList := by
  cases deed with
  | append result => rfl
  | call c => exact (Memory.results_handle c s.base).trans (List.append_nil _).symm

theorem results_afterResults (s : State) (deeds : List ResultDeed) :
    (afterResults s deeds).tables.results = s.tables.results ++ appended deeds := by
  induction deeds generalizing s with
  | nil => exact (List.append_nil _).symm
  | cons deed later ih =>
      have rest : (afterResults s (deed :: later)).tables.results =
          (deed.carryOut s).tables.results ++ appended later := ih _
      rw [rest, results_carryOut, List.append_assoc]
      cases deed <;> rfl

/-- A call for the latest results of an id shows the beginning of their ranking, in which those that
have no moment count as of the start of year 1 in universal time.  It shows so many as are asked for,
or all if there are fewer, each of them once, and leaves out none that is newer than one it shows.  If
the moments are later than that start, it makes no difference how much earlier those without one
count. -/
theorem results_ranked (clock : Moment) (captures : Bool) (settings : Sync.Settings)
    (deeds : List ResultDeed) (checkId : String) (limit : Nat)
    (dated : ∀ result ∈ appended deeds, isAbout checkId result = true → result.hasOffset = true) :
    let s := afterResults (.start clock captures settings) deeds
    ∃ ranking, Ranks yearOne (appended deeds) checkId ranking ∧
      ((∀ result ∈ appended deeds, isAbout checkId result = true → result.IsLaterThan yearOne) →
        ∀ missing ≤ yearOne, Ranks missing (appended deeds) checkId ranking) ∧
      ranking.length = (appended deeds).countP (isAbout checkId) ∧
      plainly (.recentResults checkId limit) s = (.ok ((ranking.take limit).map (·.1)), s) ∧
      (ranking.take limit).length = min limit ranking.length ∧
      ((ranking.take limit).map (·.2)).Nodup ∧
      ∀ shown ∈ ranking.take limit, ∀ other ∈ ranking, other ∉ ranking.take limit →
        other.1.instantOr yearOne ≤ shown.1.instantOr yearOne := by
  intro s
  have ranks := CheckResult.ranks_ranking yearOne (appended deeds) checkId
  have stored : s.tables.results = appended deeds := results_afterResults _ deeds
  have answer := CheckResult.recent_eq_take limit dated
  rw [← stored] at answer
  refine ⟨_, ranks, fun later missing le => ranks.lower le later, ranks.length, ?_,
    List.length_take, ?_, ?_⟩
  · rw [← stored]
    exact Prod.ext answer rfl
  · exact ranks.nodup_places.sublist ((List.take_sublist limit _).map _)
  · exact ranks.le_of_shown limit

def resultOf (checkId : String) (executedAt : Option Moment) : CheckResult where
  checkId := .text checkId
  checkName := .text checkId
  checkType := .text "UNIQUENESS"
  status := .ok
  details := .record []
  executedAt

/-- What a clock that is one hour ahead of universal time shows at some hour of the first day. -/
def anHourAhead (hours : Fin 24) : Moment where
  date := Moment.earliest.date
  time := { TimeOfDay.midnight with hours, hoursInRange := hours.isLt }
  offset := some ⟨hour, by decide⟩

def plainStart : State :=
  .start .earliest true ⟨.text "dq.results", none⟩

def noon : Moment :=
  { anHourAhead 12 with offset := some .utc }

/-- Results of the first day of year 1.  Two of them are from its noon in universal time, two count as
of its start, and the last one is from an hour before. -/
def firstDay : List ResultDeed :=
  [.append (resultOf "orders" (some .earliest)),
    .append (resultOf "stock" (some { noon with offset := none })),
    .append (resultOf "orders" none),
    .call (.findJob "orders"),
    .append (resultOf "orders" (some noon)),
    .append (resultOf "orders" (some (anHourAhead 13))),
    .append (resultOf "orders" (some (anHourAhead 0)))]

theorem ranks_firstDay :
    Ranks yearOne (appended firstDay) "orders"
      [(resultOf "orders" (some noon), 3), (resultOf "orders" (some (anHourAhead 13)), 4),
        (resultOf "orders" (some .earliest), 0), (resultOf "orders" none, 2),
        (resultOf "orders" (some (anHourAhead 0)), 5)] :=
  .of_perm (.append_right [_] (@List.perm_append_comm _ [_, _] [_, _])) (by decide)

theorem firstDay_ranked :
    (∀ result ∈ appended firstDay, isAbout "orders" result = true → result.hasOffset = true) ∧
    let s := afterResults plainStart firstDay
    ∃ ranking, ranking.map (·.2) = [3, 4, 0, 2, 5] ∧ Ranks yearOne (appended firstDay) "orders" ranking ∧
      plainly (.recentResults "orders" 4) s = (.ok ((ranking.take 4).map (·.1)), s) ∧
      ((ranking.take 4).map (·.2)).Nodup ∧
      ∀ shown ∈ ranking.take 4, ∀ other ∈ ranking, other ∉ ranking.take 4 →
        other.1.instantOr yearOne ≤ shown.1.instantOr yearOne := by
  have dated : ∀ result ∈ appended firstDay, isAbout "orders" result = true → result.hasOffset = true := by
    decide
  obtain ⟨ranking, ranks, _, _, answer, _, once, newest⟩ :=
    results_ranked .earliest true ⟨.text "dq.results", none⟩ firstDay "orders" 4 dated
  refine ⟨dated, ranking, ?_, ranks, answer, once, newest⟩
  rw [ranks.unique ranks_firstDay]
  rfl

/-- A result from an hour before the start of year 1 in universal time, and one without a moment. -/
def firstHour : List ResultDeed :=
  [.append (resultOf "orders" (some (anHourAhead 0))), .append (resultOf "orders" none)]

theorem ranks_firstHour :
    Ranks yearOne (appended firstHour) "orders"
      [(resultOf "orders" none, 1), (resultOf "orders" (some (anHourAhead 0)), 0)] :=
  .of_perm (.swap _ _ _) (by decide)

/-- Of the two the one without a moment is shown, although it would be the last if it counted as of the
earliest instant that there is. -/
theorem undated_shown :
    (∀ result ∈ appended firstHour, result.hasOffset = true) ∧ IsLeast instants (1 - day) ∧
    ¬ ∃ ranking, Ranks (1 - day) (appended firstHour) "orders" ranking ∧
      (plainly (.recentResults "orders" 1) (afterResults plainStart firstHour)).1 =
        .ok ((ranking.take 1).map (·.1)) := by
  have dated : ∀ result ∈ appended firstHour, result.hasOffset = true := by decide
  have last : Ranks (1 - day) (appended firstHour) "orders"
      [(resultOf "orders" (some (anHourAhead 0)), 0), (resultOf "orders" none, 1)] :=
    .of_perm (.refl _) (by decide)
  refine ⟨dated, isLeast_instants, ?_⟩
  rintro ⟨ranking, ranks, answer⟩
  have shown : (plainly (.recentResults "orders" 1) (afterResults plainStart firstHour)).1 =
      .ok [resultOf "orders" none] := by
    have taken : CheckResult.recent (appended firstHour) "orders" 1 = _ :=
      CheckResult.recent_eq_take 1 fun result inside _ => dated result inside
    rw [(CheckResult.ranks_ranking _ _ _).unique ranks_firstHour] at taken
    exact taken
  rw [shown, ranks.unique last] at answer
  have same := congrArg (·.head?.bind (·.executedAt)) (Except.ok.inj answer)
  cases same

end Rehearsal

end CheckKeeper
