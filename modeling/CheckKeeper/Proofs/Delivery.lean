import CheckKeeper.Proofs.Collapse

namespace CheckKeeper.ChangeEvent

/-! How a batch is delivered does not matter to what it asks for.

The numbers of the events, where every event has one, say which of them comes before
another.  A batch that arrives in another order, or with some of its events more than
once, then asks for the same actions in the same order.
-/

variable {events delivered : List ChangeEvent} {event other : ChangeEvent}
  {pairs : List (String × ChangeAction)}

def number (event : ChangeEvent) : Int :=
  event.seq.getD 0

/-- What is looked at of an event: all of it but the time of the change. -/
def news (event : ChangeEvent) : Option Int × String × ChangeAction :=
  (event.seq, event.checkId, event.action)

/-- Every event has a number, and events with one number are the same. -/
structure Numbered (events : List ChangeEvent) : Prop where
  given : ∀ event ∈ events, event.seq.isSome
  told : ∀ a ∈ events, ∀ b ∈ events, a.seq = b.seq → a.news = b.news

/-- Two batches hold the same events, each of them once or more and in any order. -/
def SameNews (events delivered : List ChangeEvent) : Prop :=
  ∀ told, told ∈ events.map news ↔ told ∈ delivered.map news

/-- Some event about the one id has a smaller number than every event about the other. -/
def Precedes (events : List ChangeEvent) (former latter : String) : Prop :=
  ∃ event ∈ events, event.checkId = former ∧
    ∀ other ∈ events, other.checkId = latter → event.number < other.number

/-- No event about the id of this one has a larger number. -/
def Latest (events : List ChangeEvent) (event : ChangeEvent) : Prop :=
  event ∈ events ∧ ∀ other ∈ events, other.checkId = event.checkId → other.number ≤ event.number

/-- A list of actions sums up a batch by the numbers of its events. -/
structure Sums (events : List ChangeEvent) (pairs : List (String × ChangeAction)) : Prop where
  once : (pairs.map (·.1)).Nodup
  covers : ∀ checkId, checkId ∈ pairs.map (·.1) ↔ ∃ event ∈ events, event.checkId = checkId
  latest : ∀ checkId action, (checkId, action) ∈ pairs ↔
    ∃ event, Latest events event ∧ event.checkId = checkId ∧ event.action = action
  ordered : (pairs.map (·.1)).Pairwise (Precedes events)

/-- A list of actions sums up a batch by the arrival of its events. -/
structure SumsArrival (events : List ChangeEvent) (pairs : List (String × ChangeAction)) : Prop where
  ids : pairs.map (·.1) = (events.map (·.checkId)).eraseDups
  once : (pairs.map (·.1)).Nodup
  last : ∀ checkId action, (checkId, action) ∈ pairs ↔ lastAction checkId events = some action

theorem Numbered.news_eq (numbered : Numbered events) (inside : event ∈ events)
    (other_inside : other ∈ events) (same : event.number = other.number) :
    event.news = other.news := by
  obtain ⟨seq, seq_eq⟩ := Option.isSome_iff_exists.mp (numbered.given event inside)
  obtain ⟨seq', seq'_eq⟩ := Option.isSome_iff_exists.mp (numbered.given other other_inside)
  apply numbered.told event inside other other_inside
  simp only [number, seq_eq, seq'_eq, Option.getD_some] at same
  rw [seq_eq, seq'_eq, same]

theorem Numbered.of_subset (numbered : Numbered events) (subset : delivered ⊆ events) :
    Numbered delivered where
  given event inside := numbered.given event (subset inside)
  told a a_inside b b_inside := numbered.told a (subset a_inside) b (subset b_inside)

theorem Numbered.lt_of_le (numbered : Numbered events) (inside : event ∈ events)
    (other_inside : other ∈ events) (le : event.number ≤ other.number)
    (differs : event.checkId ≠ other.checkId) : event.number < other.number := by
  have apart : event.number ≠ other.number := by
    intro same
    exact differs (congrArg (·.2.1) (numbered.news_eq inside other_inside same))
  omega

theorem pairwise_inOrder (numbered : Numbered events) :
    (inOrder events).Pairwise fun a b => a.number ≤ b.number := by
  have all_given : events.all (·.seq.isSome) = true := List.all_eq_true.mpr numbered.given
  unfold inOrder
  rw [if_pos all_given]
  refine List.Pairwise.imp (fun le => of_decide_eq_true le) (List.pairwise_mergeSort ?_ ?_ events)
  · intro a b c ab bc
    simp only [decide_eq_true_eq] at ab bc ⊢
    omega
  · intro a b
    simp only [Bool.or_eq_true, decide_eq_true_eq]
    omega

theorem latest_of_lastAction {checkId : String} {action : ChangeAction}
    (sorted : events.Pairwise fun a b => a.number ≤ b.number)
    (last : lastAction checkId events = some action) :
    ∃ event, Latest events event ∧ event.checkId = checkId ∧ event.action = action := by
  obtain ⟨event, is_last, rfl⟩ := Option.map_eq_some_iff.mp last
  obtain ⟨earlier, about⟩ := List.getLast?_eq_some_iff.mp is_last
  have mem_about (other : ChangeEvent) :
      other ∈ earlier ++ [event] ↔ other ∈ events ∧ other.checkId = checkId := by
    rw [← about]
    simp
  have le_last : ∀ other ∈ earlier, other.number ≤ event.number := by
    have about_sorted := sorted.filter (·.checkId == checkId)
    rw [about] at about_sorted
    intro other inside
    exact (List.pairwise_append.mp about_sorted).2.2 other inside event (List.mem_singleton_self _)
  obtain ⟨inside, event_about⟩ := (mem_about event).mp (by simp)
  refine ⟨event, ⟨inside, ?_⟩, event_about, rfl⟩
  intro other other_inside same
  have other_about := (mem_about other).mpr ⟨other_inside, same.trans event_about⟩
  rcases List.mem_append.mp other_about with before | last
  · exact le_last other before
  · exact Int.le_of_eq (congrArg number (List.mem_singleton.mp last))

theorem Numbered.lastAction_eq_some_iff (numbered : Numbered events)
    (sorted : events.Pairwise fun a b => a.number ≤ b.number) {checkId : String}
    {action : ChangeAction} :
    lastAction checkId events = some action ↔
      ∃ event, Latest events event ∧ event.checkId = checkId ∧ event.action = action := by
  constructor
  · exact latest_of_lastAction sorted
  · rintro ⟨event, latest, rfl, rfl⟩
    cases last : lastAction event.checkId events with
    | none => exact absurd rfl (lastAction_eq_none.mp last event latest.1)
    | some action =>
        obtain ⟨other, other_latest, same, rfl⟩ := latest_of_lastAction sorted last
        have number_eq : event.number = other.number :=
          Int.le_antisymm (other_latest.2 event latest.1 same.symm) (latest.2 other other_latest.1 same)
        have told := numbered.news_eq latest.1 other_latest.1 number_eq
        exact congrArg some (congrArg (·.2.2) told).symm

/-- The events that are about another id than this one. -/
def aboutOthers (event : ChangeEvent) (events : List ChangeEvent) : List ChangeEvent :=
  events.filter fun other => !(other.checkId == event.checkId)

theorem mem_aboutOthers :
    other ∈ aboutOthers event events ↔ other ∈ events ∧ other.checkId ≠ event.checkId := by
  simp [aboutOthers]

theorem aboutOthers_sublist (event : ChangeEvent) (later : List ChangeEvent) :
    (aboutOthers event later).Sublist (event :: later) :=
  List.filter_sublist.trans (List.sublist_cons_self event later)

theorem eraseDups_checkIds (event : ChangeEvent) (later : List ChangeEvent) :
    ((event :: later).map (·.checkId)).eraseDups =
      event.checkId :: ((aboutOthers event later).map (·.checkId)).eraseDups := by
  rw [List.map_cons, List.eraseDups_cons, List.filter_map]
  rfl

/-- The ids of sorted events, each where it first appears.  After the first event come
the ids of the events that are about others. -/
theorem Numbered.pairwise_eraseDups {events : List ChangeEvent} (numbered : Numbered events)
    (sorted : events.Pairwise fun a b => a.number ≤ b.number) :
    (events.map (·.checkId)).eraseDups.Pairwise (Precedes events) := by
  match events with
  | [] => simp
  | first :: rest =>
      have kept := aboutOthers_sublist first rest
      have later_ids : ∀ checkId ∈ ((aboutOthers first rest).map (·.checkId)).eraseDups,
          checkId ≠ first.checkId := by
        intro checkId member
        obtain ⟨event, inside, rfl⟩ := List.mem_map.mp (List.mem_eraseDups.mp member)
        exact (mem_aboutOthers.mp inside).2
      rw [eraseDups_checkIds, List.pairwise_cons]
      constructor
      · intro checkId member
        refine ⟨first, List.mem_cons_self, rfl, ?_⟩
        intro other inside about
        have apart : first.checkId ≠ other.checkId := by
          rw [about]
          exact (later_ids checkId member).symm
        rcases List.mem_cons.mp inside with rfl | later
        · exact absurd rfl apart
        · exact numbered.lt_of_le List.mem_cons_self inside
            ((List.pairwise_cons.mp sorted).1 other later) apart
      · have later := (numbered.of_subset kept.subset).pairwise_eraseDups (sorted.sublist kept)
        refine later.imp_of_mem ?_
        intro former latter _ latter_later precedes
        obtain ⟨event, inside, about, least⟩ := precedes
        refine ⟨event, kept.subset inside, about, ?_⟩
        intro other other_inside other_about
        refine least other ?_ other_about
        have apart : other.checkId ≠ first.checkId := by
          rw [other_about]
          exact later_ids latter latter_later
        rcases List.mem_cons.mp other_inside with rfl | other_inside
        · exact absurd rfl apart
        · exact mem_aboutOthers.mpr ⟨other_inside, apart⟩
termination_by events.length
decreasing_by exact Nat.lt_succ_of_le (List.length_filter_le _ _)

theorem mem_inOrder : event ∈ inOrder events ↔ event ∈ events :=
  (inOrder_perm events).mem_iff

theorem precedes_inOrder {former latter : String} :
    Precedes (inOrder events) former latter ↔ Precedes events former latter := by
  simp only [Precedes, mem_inOrder]

theorem latest_inOrder : Latest (inOrder events) event ↔ Latest events event := by
  simp only [Latest, mem_inOrder]

theorem sums_collapse (numbered : Numbered events) : Sums events (collapse events) := by
  have sorted := pairwise_inOrder numbered
  have ordered_numbered : Numbered (inOrder events) :=
    numbered.of_subset (inOrder_perm events).subset
  constructor
  case once => exact nodup_collapse events
  case covers => exact fun checkId => mem_collapse_ids
  case latest =>
    intro checkId action
    rw [mem_collapse]
    unfold finalAction
    rw [ordered_numbered.lastAction_eq_some_iff sorted]
    simp only [latest_inOrder]
  case ordered =>
    rw [map_collapse]
    exact (ordered_numbered.pairwise_eraseDups sorted).imp precedes_inOrder.mp

theorem SameNews.find (same : SameNews events delivered) (inside : event ∈ events) :
    ∃ other ∈ delivered, other.news = event.news :=
  List.mem_map.mp ((same event.news).mp (List.mem_map_of_mem inside))

theorem SameNews.symm (same : SameNews events delivered) : SameNews delivered events :=
  fun told => (same told).symm

theorem number_eq (told : event.news = other.news) : event.number = other.number :=
  congrArg (fun told => told.1.getD 0) told

theorem checkId_eq (told : event.news = other.news) : event.checkId = other.checkId :=
  congrArg (·.2.1) told

theorem action_eq (told : event.news = other.news) : event.action = other.action :=
  congrArg (·.2.2) told

theorem Numbered.of_sameNews (numbered : Numbered events) (same : SameNews events delivered) :
    Numbered delivered where
  given event inside := by
    obtain ⟨other, other_inside, told⟩ := same.symm.find inside
    have seq_eq : other.seq = event.seq := congrArg (·.1) told
    rw [← seq_eq]
    exact numbered.given other other_inside
  told a a_inside b b_inside seq_eq := by
    obtain ⟨a', a'_inside, a_told⟩ := same.symm.find a_inside
    obtain ⟨b', b'_inside, b_told⟩ := same.symm.find b_inside
    have seq_eq' : a'.seq = b'.seq :=
      (congrArg (·.1) a_told).trans (seq_eq.trans (congrArg (·.1) b_told).symm)
    rw [← a_told, ← b_told]
    exact numbered.told a' a'_inside b' b'_inside seq_eq'

theorem Latest.of_sameNews (latest : Latest events event) (same : SameNews events delivered) :
    ∃ other, Latest delivered other ∧ other.news = event.news := by
  obtain ⟨inside, largest⟩ := latest
  obtain ⟨event', inside', told⟩ := same.find inside
  refine ⟨event', ⟨inside', ?_⟩, told⟩
  intro other other_inside about
  obtain ⟨other', other_inside', other_told⟩ := same.symm.find other_inside
  have about' : other'.checkId = event.checkId :=
    (checkId_eq other_told).trans (about.trans (checkId_eq told))
  have le := largest other' other_inside' about'
  rwa [number_eq other_told, ← number_eq told] at le

theorem Precedes.of_sameNews {former latter : String} (precedes : Precedes events former latter)
    (same : SameNews events delivered) : Precedes delivered former latter := by
  obtain ⟨event, inside, about, least⟩ := precedes
  obtain ⟨event', inside', told⟩ := same.find inside
  refine ⟨event', inside', (checkId_eq told).trans about, ?_⟩
  intro other other_inside other_about
  obtain ⟨other', other_inside', other_told⟩ := same.symm.find other_inside
  have lt := least other' other_inside' ((checkId_eq other_told).trans other_about)
  rwa [number_eq other_told, ← number_eq told] at lt

theorem Sums.of_sameNews (sums : Sums events pairs) (same : SameNews events delivered) :
    Sums delivered pairs where
  once := sums.once
  covers checkId := by
    rw [sums.covers]
    constructor
    · rintro ⟨event, inside, about⟩
      obtain ⟨other, other_inside, told⟩ := same.find inside
      exact ⟨other, other_inside, (checkId_eq told).trans about⟩
    · rintro ⟨event, inside, about⟩
      obtain ⟨other, other_inside, told⟩ := same.symm.find inside
      exact ⟨other, other_inside, (checkId_eq told).trans about⟩
  latest checkId action := by
    rw [sums.latest]
    constructor
    · rintro ⟨event, latest, rfl, rfl⟩
      obtain ⟨other, other_latest, told⟩ := latest.of_sameNews same
      exact ⟨other, other_latest, checkId_eq told, action_eq told⟩
    · rintro ⟨event, latest, rfl, rfl⟩
      obtain ⟨other, other_latest, told⟩ := latest.of_sameNews same.symm
      exact ⟨other, other_latest, checkId_eq told, action_eq told⟩
  ordered := sums.ordered.imp fun precedes => precedes.of_sameNews same

theorem Precedes.asymm {a b : String} (precedes : Precedes events a b) : ¬ Precedes events b a := by
  rintro ⟨late, late_inside, late_about, late_least⟩
  obtain ⟨early, early_inside, early_about, early_least⟩ := precedes
  have lt := early_least late late_inside late_about
  have lt' := late_least early early_inside early_about
  omega

theorem Sums.unique {others : List (String × ChangeAction)} (sums : Sums events pairs)
    (other_sums : Sums events others) : pairs = others := by
  have perm : pairs.Perm others := by
    rw [List.perm_ext_iff_of_nodup sums.once.of_map other_sums.once.of_map]
    rintro ⟨checkId, action⟩
    rw [sums.latest, other_sums.latest]
  apply List.Perm.eq_of_pairwise _ (List.pairwise_map.mp sums.ordered)
    (List.pairwise_map.mp other_sums.ordered) perm
  intro a b _ _ precedes follows
  exact absurd follows precedes.asymm

theorem sumsArrival_collapse (unnumbered : ∃ event ∈ events, event.seq = none) :
    SumsArrival events (collapse events) := by
  have as_arrived : inOrder events = events := by
    obtain ⟨event, inside, absent⟩ := unnumbered
    unfold inOrder
    rw [if_neg]
    intro all_given
    have given := List.all_eq_true.mp all_given event inside
    simp [absent] at given
  constructor
  case ids => rw [map_collapse, as_arrived]
  case once => exact nodup_collapse events
  case last =>
    intro checkId action
    rw [mem_collapse]
    unfold finalAction
    rw [as_arrived]

/-- What a batch asks for depends on which events there are, not on how they were
delivered; only where some event has no number does the order of arrival count. -/
theorem collapse_of_delivery (events : List ChangeEvent) :
    (Numbered events → Sums events (collapse events) ∧
      ∀ delivered, SameNews events delivered → collapse delivered = collapse events) ∧
    ((∃ event ∈ events, event.seq = none) → SumsArrival events (collapse events)) := by
  refine ⟨fun numbered => ⟨sums_collapse numbered, ?_⟩, sumsArrival_collapse⟩
  intro delivered same
  have sums : Sums delivered (collapse events) := (sums_collapse numbered).of_sameNews same
  exact (sums_collapse (numbered.of_sameNews same)).unique sums

/-- The changes of two checks, in the order of their numbers. -/
def twoChecks : List ChangeEvent :=
  [⟨.insert, "a", some 1, .null⟩, ⟨.update, "b", some 2, .null⟩, ⟨.delete, "a", some 3, .null⟩]

theorem collapse_twoChecks :
    Numbered twoChecks ∧ SameNews twoChecks (twoChecks.reverse ++ twoChecks) ∧
      collapse (twoChecks.reverse ++ twoChecks) = collapse twoChecks ∧
      collapse twoChecks = [("a", .delete), ("b", .update)] ∧
      SumsArrival (⟨.delete, "b", none, .null⟩ :: twoChecks) [("b", .update), ("a", .delete)] := by
  have numbered : Numbered twoChecks := by
    constructor <;> simp [twoChecks, news]
  have same : SameNews twoChecks (twoChecks.reverse ++ twoChecks) := by
    intro told
    simp
  have sorted : inOrder twoChecks = twoChecks := inOrder_of_numbered (by simp [twoChecks])
  refine ⟨numbered, same, ((collapse_of_delivery twoChecks).1 numbered).2 _ same, ?_,
    (collapse_of_delivery (⟨.delete, "b", none, .null⟩ :: twoChecks)).2 ⟨_, List.mem_cons_self, rfl⟩⟩
  unfold collapse
  rw [sorted]
  rfl

end CheckKeeper.ChangeEvent
