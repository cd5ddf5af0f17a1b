import CheckKeeper.Change.Event
import CheckKeeper.Proofs.Keyed

namespace CheckKeeper.ChangeEvent

/-! What is left of a batch of events: the last action of each id. -/

variable {events : List ChangeEvent} {checkId : String} {action : ChangeAction}

/-- The action of the last event about an id. -/
def lastAction (checkId : String) (events : List ChangeEvent) : Option ChangeAction :=
  (events.filter (·.checkId == checkId)).getLast?.map (·.action)

/-- The action of the last event about an id, in the own order of the events. -/
def finalAction (checkId : String) (events : List ChangeEvent) : Option ChangeAction :=
  lastAction checkId (inOrder events)

theorem lastAction_append (checkId : String) (earlier later : List ChangeEvent) :
    lastAction checkId (earlier ++ later) =
      (lastAction checkId later).or (lastAction checkId earlier) := by
  unfold lastAction
  rw [List.filter_append, List.getLast?_append]
  cases (later.filter (·.checkId == checkId)).getLast? <;> rfl

theorem lastAction_cons (checkId : String) (event : ChangeEvent) (later : List ChangeEvent) :
    lastAction checkId (event :: later) =
      (lastAction checkId later).or (if event.checkId = checkId then some event.action else none) := by
  rw [← List.singleton_append, lastAction_append]
  congr 1
  by_cases about : event.checkId = checkId <;> simp [lastAction, about]

theorem lastAction_eq_none :
    lastAction checkId events = none ↔ ∀ event ∈ events, event.checkId ≠ checkId := by
  simp [lastAction]

theorem inOrder_perm (events : List ChangeEvent) : (inOrder events).Perm events := by
  unfold inOrder
  split
  · exact List.mergeSort_perm _ _
  · exact List.Perm.refl _

theorem inOrder_of_numbered (numbered : events.Pairwise fun a b => a.seq.getD 0 ≤ b.seq.getD 0) :
    inOrder events = events := by
  unfold inOrder
  split
  · exact List.mergeSort_of_pairwise (numbered.imp fun le => by simpa using le)
  · rfl

theorem finalAction_eq_none :
    finalAction checkId events = none ↔ ∀ event ∈ events, event.checkId ≠ checkId := by
  unfold finalAction
  rw [lastAction_eq_none]
  exact forall_congr' fun event => imp_congr_left (inOrder_perm events).mem_iff

theorem setAction_eq_put (pairs : List (String × ChangeAction)) (checkId : String)
    (action : ChangeAction) :
    setAction pairs checkId action = Keyed.put (·.1) (checkId, action) pairs :=
  rfl

theorem nodup_foldl_setAction (pairs : List (String × ChangeAction))
    (distinct : (pairs.map (·.1)).Nodup) (events : List ChangeEvent) :
    ((events.foldl (fun pairs event => setAction pairs event.checkId event.action) pairs).map
      (·.1)).Nodup := by
  induction events generalizing pairs with
  | nil => exact distinct
  | cons event later ih =>
      rw [List.foldl_cons, setAction_eq_put]
      exact ih _ (Keyed.nodup_put distinct)

theorem find?_foldl_setAction (pairs : List (String × ChangeAction)) (events : List ChangeEvent) :
    (events.foldl (fun pairs event => setAction pairs event.checkId event.action) pairs).find?
        (·.1 == checkId) =
      ((lastAction checkId events).map fun action => (checkId, action)).or
        (pairs.find? (·.1 == checkId)) := by
  induction events generalizing pairs with
  | nil => rfl
  | cons event later ih =>
      rw [List.foldl_cons, ih, setAction_eq_put, Keyed.find?_put, lastAction_cons]
      cases lastAction checkId later with
      | some last => rfl
      | none =>
          by_cases about : event.checkId = checkId
          · subst about
            simp
          · simp [about]

theorem nodup_collapse (events : List ChangeEvent) : ((collapse events).map (·.1)).Nodup :=
  nodup_foldl_setAction [] List.nodup_nil (inOrder events)

/-- The ids of a list of pairs to which events are added, one after another. -/
theorem map_foldl_setAction (pairs : List (String × ChangeAction)) (events : List ChangeEvent) :
    (events.foldl (fun pairs event => setAction pairs event.checkId event.action) pairs).map (·.1) =
      pairs.map (·.1) ++
        ((events.map (·.checkId)).filter fun checkId => !(pairs.map (·.1)).contains checkId).eraseDups := by
  induction events generalizing pairs with
  | nil => simp
  | cons event later ih =>
      rw [List.foldl_cons, ih, setAction_eq_put, Keyed.map_key_put, List.map_cons, List.filter_cons]
      dsimp only
      by_cases there : event.checkId ∈ pairs.map (·.1)
      · simp only [if_pos there, List.contains_iff_mem.mpr there, Bool.not_true, Bool.false_eq_true,
          if_false]
      · have unseen : (pairs.map (·.1)).contains event.checkId = false := by
          rw [Bool.eq_false_iff]
          exact fun seen => there (List.contains_iff_mem.mp seen)
        simp only [if_neg there, unseen, Bool.not_false, if_true, List.eraseDups_cons,
          List.filter_filter, List.append_assoc, List.singleton_append]
        congr 3
        apply List.filter_congr
        intro checkId _
        rw [Bool.eq_iff_iff]
        simp [and_comm]

/-- What a batch asks for are its ids, each where it first appears. -/
theorem map_collapse (events : List ChangeEvent) :
    (collapse events).map (·.1) = ((inOrder events).map (·.checkId)).eraseDups := by
  unfold collapse
  rw [map_foldl_setAction]
  simp

/-- What a batch asks for are the final actions of its ids. -/
theorem mem_collapse :
    (checkId, action) ∈ collapse events ↔ finalAction checkId events = some action := by
  have found : (collapse events).find? (·.1 == checkId) =
      (finalAction checkId events).map fun action => (checkId, action) := by
    unfold collapse finalAction
    rw [find?_foldl_setAction]
    simp
  constructor
  · intro member
    have first : (collapse events).find? (·.1 == checkId) = some (checkId, action) :=
      Keyed.find?_of_mem (nodup_collapse events) member
    rw [found] at first
    cases last : finalAction checkId events with
    | none => simp [last] at first
    | some action' => simpa [last] using first
  · intro last
    rw [last] at found
    exact List.mem_of_find?_eq_some found

theorem action_unique {other : ChangeAction} (member : (checkId, action) ∈ collapse events)
    (also : (checkId, other) ∈ collapse events) : action = other := by
  rw [mem_collapse] at member also
  exact Option.some.inj (member.symm.trans also)

theorem mem_collapse_ids :
    checkId ∈ (collapse events).map (·.1) ↔ ∃ event ∈ events, event.checkId = checkId := by
  rw [List.mem_map]
  constructor
  · rintro ⟨⟨_, action⟩, member, rfl⟩
    by_contra none_about
    have absent : finalAction _ events = none :=
      finalAction_eq_none.mpr fun event inside about => none_about ⟨event, inside, about⟩
    rw [mem_collapse.mp member] at absent
    cases absent
  · rintro ⟨event, inside, about⟩
    cases last : finalAction checkId events with
    | none => exact absurd about (finalAction_eq_none.mp last event inside)
    | some action => exact ⟨(checkId, action), mem_collapse.mpr last, rfl⟩

end CheckKeeper.ChangeEvent
