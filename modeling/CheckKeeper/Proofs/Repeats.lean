import Mathlib.Data.Finset.Card
import Mathlib.Data.List.Dedup
import Mathlib.Data.List.Perm.Subperm
import CheckKeeper.Proofs.Sampling

namespace CheckKeeper

/-! Previews of uniqueness checks.

The rows that pass the filter are counted by key.  A preview answers how many keys are those of two
rows or more, whatever the order of the rows.
-/

namespace Value

variable {a b : Value}

/-- The values that sample rows have in their key columns. -/
def IsKey : Value → Prop
  | .null | .bool _ | .int _ | .text _ => True
  | _ => False

/-- What counts of a value in a key column; a truth value counts as its number. -/
inductive KeyPart where
  | nothing
  | number (number : Int)
  | word (content : String)
deriving DecidableEq

def keyPart : Value → KeyPart
  | .bool flag => .number (bit flag)
  | .int number => .number number
  | .text content => .word content
  | _ => .nothing

theorem compare?_ofInt (i j : Int) :
    ((Exact.ofInt i).compare? (.ofInt j) == some .eq) = decide (i = j) := by
  have compared : (Exact.ofInt i).compare? (.ofInt j) = some (compare (i * 1) (j * 1)) := rfl
  rw [compared, Int.mul_one, Int.mul_one, Bool.eq_iff_iff, beq_iff_eq, decide_eq_true_eq,
    Option.some.injEq, Std.compare_eq_iff_eq]

/-- Values in key columns are equal if what counts of them is. -/
theorem same_iff_keyPart (left : a.IsKey) (right : b.IsKey) :
    a.same b = true ↔ a.keyPart = b.keyPart := by
  have numbers {x y : Value} {i j : Int}
      (compared : x.same y = ((Exact.ofInt i).compare? (.ofInt j) == some .eq)) :
      x.same y = true ↔ KeyPart.number i = .number j := by
    rw [compared, compare?_ofInt, decide_eq_true_eq, KeyPart.number.injEq]
  cases a <;> cases b <;> first
    | exact left.elim
    | exact right.elim
    | exact numbers rfl
    | simp [same, sameAtom, sameNumber, exactValue?, keyPart]

theorem sameItems_iff_keyPart {key other : List Value} (left : ∀ value ∈ key, value.IsKey)
    (right : ∀ value ∈ other, value.IsKey) :
    sameItems key other = true ↔ key.map keyPart = other.map keyPart := by
  induction key generalizing other with
  | nil => cases other <;> simp [sameItems]
  | cons value key ih =>
      cases other with
      | nil => simp [sameItems]
      | cons own other =>
          obtain ⟨first, later⟩ := List.forall_mem_cons.mp left
          obtain ⟨first', later'⟩ := List.forall_mem_cons.mp right
          rw [sameItems, Bool.and_eq_true, same_iff_keyPart first first', ih later later',
            List.map_cons, List.map_cons, List.cons.injEq]

theorem checkKey_of_isKey (known : a.IsKey) : a.checkKey = .ok () := by
  cases a <;> first
    | exact known.elim
    | rfl

end Value

namespace Preview

open Calendar Sql Compile

variable {key : List Value} {keys : List (List Value)} {groups : List (List Value × Nat)}
  {columns : List String} {rows : List Row} {row : Row}

/-- The key of a row: its cells in the key columns. -/
def rowKey (columns : List String) (row : Row) : List Value :=
  columns.map row.get

/-- What counts of a key. -/
def keyParts (key : List Value) : List Value.KeyPart :=
  key.map Value.keyPart

/-- Every row has such values in the key columns as can be keys. -/
def Keyed (columns : List String) (rows : List Row) : Prop :=
  ∀ row ∈ rows, ∀ column ∈ columns, (row.get column).IsKey

theorem isKey_rowKey (keyed : ∀ column ∈ columns, (row.get column).IsKey) :
    ∀ value ∈ rowKey columns row, value.IsKey := by
  intro value member
  obtain ⟨column, inside, rfl⟩ := List.mem_map.mp member
  exact keyed column inside

theorem keyOf_record (columns : List String) (row : Row) :
    keyOf columns (.record row) = .ok (rowKey columns row) :=
  List.mapM_pure

theorem forM_checkKey (known : ∀ value ∈ key, value.IsKey) :
    key.forM Value.checkKey = .ok () := by
  induction key with
  | nil => rfl
  | cons value key ih =>
      obtain ⟨first, later⟩ := List.forall_mem_cons.mp known
      change (value.checkKey >>= fun _ => key.forM Value.checkKey) = _
      rw [Value.checkKey_of_isKey first]
      exact ih later

theorem countKeys_eq (keyed : Keyed columns rows) :
    countKeys columns groups (rows.map .record) =
      .ok ((rows.map (rowKey columns)).foldl countKey groups) := by
  induction rows generalizing groups with
  | nil => rfl
  | cons row rows ih =>
      obtain ⟨first, later⟩ := List.forall_mem_cons.mp keyed
      rw [List.map_cons, countKeys, keyOf_record]
      change (((rowKey columns row).forM Value.checkKey) >>= _) = _
      rw [forM_checkKey (isKey_rowKey first)]
      exact ih later

/-- The groups are those of the keys seen so far, one for each, with as many rows as have it. -/
structure Tallied (seen : List (List Value.KeyPart)) (groups : List (List Value × Nat)) : Prop where
  known : ∀ group ∈ groups, ∀ value ∈ group.1, value.IsKey
  distinct : (groups.map fun group => keyParts group.1).Nodup
  counted : ∀ group ∈ groups, group.2 = seen.count (keyParts group.1)
  complete : ∀ parts ∈ seen, ∃ group ∈ groups, keyParts group.1 = parts

variable {seen : List (List Value.KeyPart)}

theorem tallied_nil : Tallied [] [] :=
  ⟨by simp, by simp, by simp, by simp⟩

theorem count_append_own (parts : List Value.KeyPart) :
    (seen ++ [parts]).count parts = seen.count parts + 1 := by
  simp [List.count_append]

theorem count_append_other {parts other : List Value.KeyPart} (unequal : parts ≠ other) :
    (seen ++ [other]).count parts = seen.count parts := by
  simp [List.count_append, Ne.symm unequal]

theorem Tallied.same_iff {group : List Value × Nat} (tallied : Tallied seen groups)
    (member : group ∈ groups) (known : ∀ value ∈ key, value.IsKey) :
    Value.sameItems group.1 key = true ↔ keyParts group.1 = keyParts key :=
  Value.sameItems_iff_keyPart (tallied.known group member) known

/-- One of the groups is that of the key, and its count alone goes up. -/
theorem Tallied.raise (tallied : Tallied seen groups) (known : ∀ value ∈ key, value.IsKey)
    {own : List Value × Nat} (there : own ∈ groups) (same : Value.sameItems own.1 key = true) :
    Tallied (seen ++ [keyParts key]) (groups.map fun group =>
      if Value.sameItems group.1 key then (group.1, group.2 + 1) else group) where
  known := by
    intro group inside
    obtain ⟨before, origin, rfl⟩ := List.mem_map.mp inside
    split <;> exact tallied.known before origin
  distinct := by
    have kept (group : List Value × Nat) :
        keyParts (if Value.sameItems group.1 key then (group.1, group.2 + 1) else group).1 =
          keyParts group.1 := by
      split <;> rfl
    rw [List.map_map]
    simpa only [Function.comp_def, kept] using tallied.distinct
  counted := by
    intro group inside
    obtain ⟨before, origin, rfl⟩ := List.mem_map.mp inside
    split
    · rename_i equal
      rw [tallied.counted before origin, (tallied.same_iff origin known).mp equal, count_append_own]
    · rename_i unequal
      rw [count_append_other fun equal => unequal ((tallied.same_iff origin known).mpr equal)]
      exact tallied.counted before origin
  complete := by
    have still {group : List Value × Nat} (origin : group ∈ groups) :
        ∃ later ∈ groups.map fun group =>
          if Value.sameItems group.1 key then (group.1, group.2 + 1) else group,
          keyParts later.1 = keyParts group.1 := by
      refine ⟨_, List.mem_map_of_mem origin, ?_⟩
      split <;> rfl
    intro parts inside
    rcases List.mem_append.mp inside with earlier | last
    · obtain ⟨group, origin, rfl⟩ := tallied.complete parts earlier
      exact still origin
    · rw [List.mem_singleton.mp last, ← (tallied.same_iff there known).mp same]
      exact still there

/-- None of the groups is that of the key, and it gets one of its own. -/
theorem Tallied.admit (tallied : Tallied seen groups) (known : ∀ value ∈ key, value.IsKey)
    (absent : ∀ group ∈ groups, ¬ Value.sameItems group.1 key = true) :
    Tallied (seen ++ [keyParts key]) (groups ++ [(key, 1)]) := by
  have apart {group : List Value × Nat} (member : group ∈ groups) :
      keyParts group.1 ≠ keyParts key := fun equal =>
    absent group member ((tallied.same_iff member known).mpr equal)
  have unseen : keyParts key ∉ seen := fun inside => by
    obtain ⟨group, member, equal⟩ := tallied.complete _ inside
    exact apart member equal
  constructor
  case known =>
    rw [List.forall_mem_append]
    exact ⟨tallied.known, by simpa using known⟩
  case distinct =>
    rw [List.map_append, List.nodup_append]
    refine ⟨tallied.distinct, by simp, ?_⟩
    intro parts inside other single equal
    obtain ⟨group, member, rfl⟩ := List.mem_map.mp inside
    rw [List.map_singleton, List.mem_singleton] at single
    exact apart member (equal.trans single)
  case counted =>
    intro group inside
    rcases List.mem_append.mp inside with earlier | last
    · rw [count_append_other (apart earlier)]
      exact tallied.counted group earlier
    · rw [List.mem_singleton.mp last, count_append_own, List.count_eq_zero_of_not_mem unseen]
  case complete =>
    intro parts inside
    rcases List.mem_append.mp inside with earlier | last
    · obtain ⟨group, member, equal⟩ := tallied.complete parts earlier
      exact ⟨group, List.mem_append_left _ member, equal⟩
    · exact ⟨(key, 1), by simp, (List.mem_singleton.mp last).symm⟩

theorem Tallied.countKey (tallied : Tallied seen groups) (known : ∀ value ∈ key, value.IsKey) :
    Tallied (seen ++ [keyParts key]) (countKey groups key) := by
  unfold Preview.countKey
  split
  · rename_i there
    obtain ⟨own, member, same⟩ := List.any_eq_true.mp there
    exact tallied.raise known member same
  · rename_i absent
    exact tallied.admit known fun group member same =>
      absent (List.any_eq_true.mpr ⟨group, member, same⟩)

theorem tallied_foldl (tallied : Tallied seen groups) (known : ∀ key ∈ keys, ∀ value ∈ key, value.IsKey) :
    Tallied (seen ++ keys.map keyParts) (keys.foldl countKey groups) := by
  induction keys generalizing seen groups with
  | nil => simpa using tallied
  | cons key keys ih =>
      obtain ⟨first, later⟩ := List.forall_mem_cons.mp known
      have next := ih (tallied.countKey first) later
      rwa [List.append_assoc] at next

/-- How many keys stand in two places or more. -/
def repeated (keys : List (List Value.KeyPart)) : Nat :=
  (keys.toFinset.filter fun key => 2 ≤ keys.count key).card

theorem Tallied.countP_eq (tallied : Tallied seen groups) :
    groups.countP (fun group => decide (1 < group.2)) = repeated seen := by
  have distinct : ((groups.filter fun group => decide (1 < group.2)).map
      fun group => keyParts group.1).Nodup :=
    tallied.distinct.sublist (List.filter_sublist.map _)
  rw [List.countP_eq_length_filter, repeated,
    ← List.length_map (f := fun group : List Value × Nat => keyParts group.1),
    ← List.toFinset_card_of_nodup distinct]
  congr 1
  ext parts
  simp only [List.mem_toFinset, List.mem_map, List.mem_filter, decide_eq_true_eq, Finset.mem_filter]
  constructor
  · rintro ⟨group, ⟨member, several⟩, rfl⟩
    rw [tallied.counted group member] at several
    exact ⟨List.count_pos_iff.mp (Nat.zero_lt_of_lt several), several⟩
  · rintro ⟨inside, several⟩
    obtain ⟨group, member, rfl⟩ := tallied.complete parts inside
    refine ⟨group, ⟨member, ?_⟩, rfl⟩
    rw [tallied.counted group member]
    exact several

theorem repeated_eq_zero_iff (keys : List (List Value.KeyPart)) : repeated keys = 0 ↔ keys.Nodup := by
  rw [repeated, Finset.card_eq_zero, Finset.filter_eq_empty_iff, List.nodup_iff_count_le_one]
  constructor
  · intro none_twice parts
    by_cases inside : parts ∈ keys
    · exact Nat.lt_succ_iff.mp (Nat.not_le.mp (none_twice (List.mem_toFinset.mpr inside)))
    · rw [List.count_eq_zero_of_not_mem inside]
      exact Nat.zero_le 1
  · intro once parts _
    exact Nat.not_le.mpr (Nat.lt_succ_iff.mpr (once parts))

theorem repeated_perm {keys others : List (List Value.KeyPart)} (perm : keys.Perm others) :
    repeated keys = repeated others := by
  rw [repeated, repeated, List.toFinset_eq_of_perm _ _ perm]
  simp only [perm.count_eq]

variable {d : Definition} {check : CompiledCheck} {message : String} {more : List Row}

theorem Keyed.of_subset (keyed : Keyed columns more) (subset : rows ⊆ more) : Keyed columns rows :=
  fun row member => keyed row (subset member)

/-- The keys of rows, as far as they count. -/
def keysOf (columns : List String) (rows : List Row) : List (List Value.KeyPart) :=
  rows.map fun row => keyParts (rowKey columns row)

/-- Rows have keys of their own if no two of the keys are equal. -/
theorem nodup_keysOf_iff (keyed : Keyed columns rows) : (keysOf columns rows).Nodup ↔
    (rows.map (rowKey columns)).Pairwise fun key other => Value.sameItems key other = false := by
  rw [keysOf, List.Nodup, List.pairwise_map, List.pairwise_map]
  refine List.Pairwise.iff_of_mem fun {row other} inside inside' => ?_
  rw [← Bool.not_eq_true, Value.sameItems_iff_keyPart (isKey_rowKey (keyed row inside))
    (isKey_rowKey (keyed other inside'))]
  rfl

/-- What a preview finds on rows that pass the filter. -/
def found (d : Definition) (kept : List Row) : ResultStatus × Value :=
  (statusOf (repeated (keysOf d.keyColumns kept) == 0), .ofFields [
    ("duplicate_count", .ofNat (repeated (keysOf d.keyColumns kept))),
    ("keys", .text (keyList d)),
    ("total_rows", .ofNat kept.length)])

theorem uniqueness_of_filter {kept : List Row}
    (filtered : filterRows d.rowFilter (rows.map .record) = .ok (kept.map .record))
    (keyed : Keyed d.keyColumns kept) :
    uniqueness d (rows.map .record) = .ok (found d kept) := by
  have known : ∀ key ∈ kept.map (rowKey d.keyColumns), ∀ value ∈ key, value.IsKey := by
    intro key member
    obtain ⟨row, inside, rfl⟩ := List.mem_map.mp member
    exact isKey_rowKey (keyed row inside)
  have tallied := tallied_foldl tallied_nil known
  rw [List.nil_append, List.map_map] at tallied
  unfold uniqueness
  rw [filtered]
  change (countKeys d.keyColumns [] (kept.map .record) >>= _) = _
  rw [countKeys_eq keyed]
  dsimp only [bind, Except.bind]
  rw [tallied.countP_eq, List.length_map]
  rfl

theorem status_found (d : Definition) (kept : List Row) :
    ((found d kept).1 = .ok ↔ (keysOf d.keyColumns kept).Nodup) ∧
      ((found d kept).1 = .ko ↔ ¬ (keysOf d.keyColumns kept).Nodup) := by
  rw [← repeated_eq_zero_iff, found]
  by_cases none_twice : repeated (keysOf d.keyColumns kept) = 0
  · simp [none_twice, statusOf]
  · simp [none_twice, statusOf]

theorem found_perm {kept others : List Row} (perm : kept.Perm others) : found d kept = found d others := by
  have keys : (keysOf d.keyColumns kept).Perm (keysOf d.keyColumns others) := perm.map _
  rw [found, found, repeated_perm keys, perm.length_eq]

/-- Among more rows no key that was repeated is that of one row alone. -/
theorem nodup_keysOf_of_subperm {kept others : List Row} (within : kept.Subperm others)
    (distinct : (keysOf columns others).Nodup) : (keysOf columns kept).Nodup := by
  obtain ⟨middle, perm, sublist⟩ := within
  have own : (keysOf columns middle).Nodup := distinct.sublist (sublist.map _)
  exact (perm.map _).nodup_iff.mp own

/-- What the result of a preview says of the rows that pass the filter. -/
structure Reports (d : Definition) (kept : List Row) (result : CheckResult) : Prop where
  details : result.details = .ofFields [
    ("duplicate_count", .ofNat (repeated (keysOf d.keyColumns kept))),
    ("keys", .text (keyList d)),
    ("total_rows", .ofNat kept.length)]
  passed : result.status = .ok ↔
    (kept.map (rowKey d.keyColumns)).Pairwise fun key other => Value.sameItems key other = false
  failed : result.status = .ko ↔
    ¬ (kept.map (rowKey d.keyColumns)).Pairwise fun key other => Value.sameItems key other = false

theorem reports_found {kept : List Row} (keyed : Keyed d.keyColumns kept) (kind : CheckKind)
    (executedAt : Moment) : Reports d kept (report d kind executedAt (found d kept)) where
  details := rfl
  passed := (status_found d kept).1.trans (nodup_keysOf_iff keyed)
  failed := (status_found d kept).2.trans (not_congr (nodup_keysOf_iff keyed))

/-- A preview of a uniqueness check answers on all rows with keys.  Among the rows that pass the
filter it counts the keys of two rows or more and all rows, and it answers OK exactly if no two of
the keys are equal.  The order of the rows changes nothing, and more rows make no KO an OK. -/
theorem uniqueness_exact
    (compiled : compile d (.text defaultResultsTable) = .ok (.valid check message))
    (unique : check.kind = .uniqueness) (fits : Fits d rows) (keyed : Keyed d.keyColumns rows)
    (source target : Value) (runTime : Option Moment) (now : Moment) :
    ∃ kept result,
      filterRows d.rowFilter (rows.map .record) = .ok (kept.map .record) ∧
      evaluate d ⟨rowList rows, source, target⟩ (.ofMoment? runTime) now = .ok result ∧
      Reports d kept result ∧
      (∀ others, others.Perm rows →
        evaluate d ⟨rowList others, source, target⟩ (.ofMoment? runTime) now = .ok result) ∧
      ∀ more, rows.Subperm more → Fits d more → Keyed d.keyColumns more →
        ∃ later, evaluate d ⟨rowList more, source, target⟩ (.ofMoment? runTime) now = .ok later ∧
          (result.status = .ko → later.status = .ko) := by
  obtain ⟨passed, filtered⟩ := exists_filter compiled (by rw [unique]; decide)
  have answers (rows : List Row) (fits : Fits d rows) (keyed : Keyed d.keyColumns rows) :
      evaluate d ⟨rowList rows, source, target⟩ (.ofMoment? runTime) now =
        .ok (report d check.kind (runAt runTime now) (found d (rows.filter passed))) := by
    rw [evaluate_eq_report compiled (Or.inr unique), unique]
    change (uniqueness d (rows.map .record)).map _ = _
    rw [uniqueness_of_filter (filtered rows fits) (keyed.of_subset (List.filter_subset_self rows))]
    rfl
  refine ⟨rows.filter passed, _, filtered rows fits, answers rows fits keyed,
    reports_found (keyed.of_subset (List.filter_subset_self rows)) _ _, ?_, ?_⟩
  · intro others perm
    rw [answers others (fits.of_subset perm.subset) (keyed.of_subset perm.subset),
      found_perm (perm.filter passed)]
  · intro more within fits_more keyed_more
    refine ⟨_, answers more fits_more keyed_more, fun failed => ?_⟩
    refine (status_found d _).2.mpr fun distinct => ?_
    exact (status_found d _).2.mp failed (nodup_keysOf_of_subperm (within.filter passed) distinct)

/-- Four entries of which three are from 5 on; a truth value and a number are one key. -/
def entries : List Row :=
  [[(.text "amount", .int 5), (.text "id", .int 1)], [(.text "amount", .int 2), (.text "id", .int 7)],
    [(.text "amount", .int 9), (.text "id", .bool true)], [(.text "amount", .int 7)]]

theorem entries_repeated :
    ∃ check message result,
      compile (amountsFrom "a" 5 (by decide)) (.text defaultResultsTable) =
        .ok (.valid check message) ∧
      check.kind = .uniqueness ∧ Fits (amountsFrom "a" 5 (by decide)) entries ∧
      Keyed ["id"] entries ∧
      evaluate (amountsFrom "a" 5 (by decide)) ⟨rowList entries, .null, .null⟩ .null .earliest =
        .ok result ∧
      result.status = .ko ∧
      result.details = .ofFields [("duplicate_count", .ofNat 1), ("keys", .text "id"),
        ("total_rows", .ofNat 3)] := by
  have seen : ((compile (amountsFrom "a" 5 (by decide)) (.text defaultResultsTable)).toOption.bind
      Verdict.check?).map (·.kind) = some .uniqueness := by decide +kernel
  obtain ⟨check, message, compiled, unique⟩ := valid_of_kind? seen
  have fits : Fits (amountsFrom "a" 5 (by decide)) entries := by
    intro conditions normalized row member condition inside name on _ _ _ _
    cases normalized
    rw [List.mem_singleton.mp inside] at on ⊢
    cases on
    simp only [entries, List.mem_cons, List.not_mem_nil, or_false] at member
    rcases member with rfl | rfl | rfl | rfl <;> exact ⟨_, rfl⟩
  have keyed : Keyed ["id"] entries := by
    simp only [Keyed, entries, List.mem_cons, List.not_mem_nil, or_false, forall_eq_or_imp, forall_eq]
    exact ⟨trivial, trivial, trivial, trivial⟩
  obtain ⟨kept, result, filtered, answered, reports, _⟩ :=
    uniqueness_exact compiled unique fits keyed .null .null none .earliest
  have three : filterRows (amountsFrom "a" 5 (by decide)).rowFilter (entries.map .record) =
      .ok ((entries.eraseIdx 1).map .record) := by rfl
  obtain rfl : kept = entries.eraseIdx 1 := kept_unique filtered three
  have counted : repeated (keysOf ["id"] (entries.eraseIdx 1)) = 1 := by decide
  refine ⟨check, message, result, compiled, unique, fits, keyed, answered, ?_, ?_⟩
  · refine reports.failed.mpr fun different => ?_
    have distinct := (nodup_keysOf_iff (keyed.of_subset (List.eraseIdx_subset))).mpr different
    rw [← repeated_eq_zero_iff, counted] at distinct
    exact absurd distinct (by decide)
  · rw [reports.details]
    change Value.ofFields [("duplicate_count", .ofNat (repeated (keysOf ["id"] (entries.eraseIdx 1)))),
      _, _] = _
    rw [counted]
    rfl

end Preview

end CheckKeeper
