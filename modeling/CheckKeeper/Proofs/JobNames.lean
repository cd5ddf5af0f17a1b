import CheckKeeper.Job.Name
import CheckKeeper.Proofs.Backend
import CheckKeeper.Proofs.Staleness

namespace CheckKeeper

/-! Which ids share a job name, and which jobs a call on an id spares.

An id that a name can hold stands in its name as it is, also where it is spelled as another id
with underscores and that id's digest behind it.  Two such ids have one name, and the job of the
one takes the place of the job of the other.
-/

namespace Job

variable {digest : String → String} {x y : String}

def isHexDigit (c : Char) : Bool :=
  ('0' ≤ c && c ≤ '9') || ('a' ≤ c && c ≤ 'f')

/-- A digest of eight hexadecimal digits. -/
structure EightDigits (digest : String → String) : Prop where
  length : ∀ text, (digest text).toList.length = 8
  digits : ∀ text, ∀ c ∈ (digest text).toList, isHexDigit c = true

/-- The second id is spelled as the first one with underscores and its digest behind it. -/
def Mimics (digest : String → String) (x y : String) : Prop :=
  safeId x ≠ x ∧ y = safeId x ++ "_" ++ digest x

def Meet (digest : String → String) (x y : String) : Prop :=
  Mimics digest x y ∨ Mimics digest y x

theorem isNameChar_nameChar (c : Char) : isNameChar (nameChar c) = true := by
  unfold nameChar
  split
  · assumption
  · rfl

theorem nameChar_eq_self_iff (c : Char) : nameChar c = c ↔ isNameChar c = true := by
  constructor
  · intro same
    rw [← same]
    exact isNameChar_nameChar c
  · intro allowed
    exact if_pos allowed

theorem safeId_eq_self_iff (x : String) : safeId x = x ↔ ∀ c ∈ x.toList, isNameChar c = true := by
  have same_text : safeId x = x ↔ x.toList.map nameChar = x.toList.map id := by
    rw [← String.toList_inj, safeId, String.toList_ofList, List.map_id]
  rw [same_text, List.map_inj_left]
  exact forall₂_congr fun c _ => nameChar_eq_self_iff c

theorem isNameChar_of_isHexDigit {c : Char} (hex : isHexDigit c = true) : isNameChar c = true := by
  simp only [isHexDigit, Bool.or_eq_true, Bool.and_eq_true, decide_eq_true_eq] at hex
  have below_z : 'f' ≤ 'z' := by decide
  simp only [isNameChar, Bool.or_eq_true, Bool.and_eq_true, decide_eq_true_eq, beq_iff_eq]
  rcases hex with ⟨least, most⟩ | ⟨least, most⟩
  · exact Or.inl (Or.inr ⟨least, most⟩)
  · exact Or.inl (Or.inl (Or.inr ⟨least, Char.le_trans most below_z⟩))

/-- An id that is spelled as a name consists of characters of a name. -/
theorem Mimics.safe (mimics : Mimics digest x y) (eight : EightDigits digest) : safeId y = y := by
  obtain ⟨_, rfl⟩ := mimics
  rw [safeId_eq_self_iff]
  intro c member
  simp only [String.toList_append, List.mem_append] at member
  rcases member with (of_id | underscore) | of_digest
  · rw [safeId, String.toList_ofList] at of_id
    obtain ⟨original, _, rfl⟩ := List.mem_map.mp of_id
    exact isNameChar_nameChar original
  · obtain rfl : c = '_' := by simpa using underscore
    rfl
  · exact isNameChar_of_isHexDigit (eight.digits x c of_digest)

theorem isHexDigit_hexDigit : ∀ n < 16, isHexDigit (Text.hexDigit n) = true := by
  decide

theorem length_hexDigits (width n : Nat) : (Text.hexDigits width n).length = width := by
  induction width generalizing n with
  | zero => rfl
  | succ width ih => simp [Text.hexDigits, ih]

theorem isHexDigit_of_mem_hexDigits {width n : Nat} {c : Char}
    (member : c ∈ Text.hexDigits width n) : isHexDigit c = true := by
  induction width generalizing n with
  | zero => cases member
  | succ width ih =>
      rcases List.mem_append.mp member with before | last
      · exact ih before
      · rw [List.mem_singleton.mp last]
        exact isHexDigit_hexDigit _ (Nat.mod_lt n (by decide))

theorem eightDigits_shortDigest : EightDigits shortDigest where
  length text := by
    have full : (Digest.sha256Hex text).toList.length = 64 := by
      simp [Digest.sha256Hex, Digest.State.words, length_hexDigits]
    simp [shortDigest, full]
  digits text c member := by
    rw [shortDigest, String.toList_ofList] at member
    have inside := List.mem_of_mem_take member
    rw [Digest.sha256Hex, String.toList_ofList] at inside
    obtain ⟨word, _, digit⟩ := List.mem_flatMap.mp inside
    exact isHexDigit_of_mem_hexDigits digit

theorem nameWith_of_safe (safe : safeId x = x) : nameWith digest x = namePrefix ++ x := by
  simp [nameWith, safe]

theorem nameWith_of_changed (changed : safeId x ≠ x) :
    nameWith digest x = namePrefix ++ (safeId x ++ "_" ++ digest x) := by
  simp [nameWith, changed, String.append_assoc]

theorem namePrefix_append_inj : namePrefix ++ x = namePrefix ++ y ↔ x = y := by
  rw [← String.toList_inj, String.toList_append, String.toList_append, List.append_right_inj,
    String.toList_inj]

/-- Behind a name with a digest stands the digest. -/
theorem digest_eq_of_nameWith_eq (eight : EightDigits digest) (x_changed : safeId x ≠ x)
    (y_changed : safeId y ≠ y) (same : nameWith digest x = nameWith digest y) :
    digest x = digest y := by
  rw [nameWith_of_changed x_changed, nameWith_of_changed y_changed, namePrefix_append_inj,
    ← String.toList_inj] at same
  simp only [String.toList_append] at same
  have long : (digest x).toList.length = (digest y).toList.length := by
    rw [eight.length, eight.length]
  exact String.toList_inj.mp (List.append_inj_right' same long)

theorem nameWith_eq_iff_mimics (x_changed : safeId x ≠ x) (y_safe : safeId y = y) :
    nameWith digest x = nameWith digest y ↔ Mimics digest x y := by
  rw [nameWith_of_changed x_changed, nameWith_of_safe y_safe, namePrefix_append_inj]
  constructor
  · intro same
    exact ⟨x_changed, same.symm⟩
  · intro mimics
    exact mimics.2.symm

/-- Two ids whose digests differ have one name exactly when one of them is spelled as the name
of the other. -/
theorem nameWith_eq_iff (eight : EightDigits digest) (different : x ≠ y)
    (apart : digest x ≠ digest y) :
    nameWith digest x = nameWith digest y ↔ Meet digest x y := by
  unfold Meet
  by_cases x_safe : safeId x = x
  · have x_first : ¬ Mimics digest x y := fun mimics => mimics.1 x_safe
    by_cases y_safe : safeId y = y
    · have y_first : ¬ Mimics digest y x := fun mimics => mimics.1 y_safe
      rw [nameWith_of_safe x_safe, nameWith_of_safe y_safe, namePrefix_append_inj]
      simp [different, x_first, y_first]
    · rw [eq_comm, nameWith_eq_iff_mimics y_safe x_safe]
      simp [x_first]
  · by_cases y_safe : safeId y = y
    · have y_first : ¬ Mimics digest y x := fun mimics => mimics.1 y_safe
      rw [nameWith_eq_iff_mimics x_safe y_safe]
      simp [y_first]
    · -- both have a digest behind them, and neither is spelled as a name
      have names : nameWith digest x ≠ nameWith digest y := fun same =>
        apart (digest_eq_of_nameWith_eq eight x_safe y_safe same)
      have x_first : ¬ Mimics digest x y := fun mimics => y_safe (mimics.safe eight)
      have y_first : ¬ Mimics digest y x := fun mimics => x_safe (mimics.safe eight)
      simp [names, x_first, y_first]

end Job

namespace Sync

open Program Memory

variable {resultsTable : Value} {checkId : String} {job : Job}

/-- The scheduler has the job, and no two jobs of one name. -/
structure Keeps (job : Job) (s : State) : Prop where
  there : job ∈ s.tables.jobs
  distinct : (s.tables.jobs.map (·.name)).Nodup

theorem Keeps.store {s : State} (keeps : Keeps job s) {new : Job} (other : job.name ≠ new.name) :
    Keeps job (s.withTables (s.tables.setJob new)) where
  there := by
    rw [State.withTables, Tables.setJob_jobs]
    exact Keyed.mem_put_of_mem keeps.there other
  distinct := by
    rw [State.withTables, Tables.setJob_jobs]
    exact Keyed.nodup_put keeps.distinct

theorem Keeps.remove {s : State} (keeps : Keeps job s) {name : String} (other : job.name ≠ name) :
    Keeps job (s.withTables (s.tables.removeJob name)) where
  there := List.mem_filter.mpr ⟨keeps.there, by simpa using other⟩
  distinct := keeps.distinct.sublist (List.filter_sublist.map _)

/-- The job that is found for an id is not that of another id. -/
theorem Keeps.found_other {s : State} (keeps : Keeps job s) (different : job.checkId ≠ checkId)
    {name : String} (found : s.tables.jobNameOf checkId = some name) : name ≠ job.name := by
  obtain ⟨own, member, rfl, bound⟩ := Tables.jobNameOf_eq_some found
  intro same
  have equal := List.inj_on_of_nodup_map keeps.distinct member keeps.there same
  exact different (equal ▸ bound)

/-- What an action of an id may do while it spares a job: it stores jobs under the name of the
id, and removes none of that job's name. -/
def sparing (job : Job) (checkId : String) : Remit :=
  Remit.ofId checkId (· ≠ job.name)

theorem keeps_handle {s : State} (keeps : Keeps job s) (different : job.checkId ≠ checkId)
    (names : job.name ≠ Job.nameOf checkId) (c : Service.Call)
    (permitted : (sparing job checkId).permits checkId c) :
    (sparing job checkId).informs c (handle c s).1 ∧ Keeps job (handle c s).2 := by
  cases c with
  | getDefinition about =>
      obtain rfl : about = checkId := permitted
      exact ⟨fun row told => Tables.row?_checkId (Except.ok.inj told), keeps⟩
  | findJob about =>
      obtain rfl : about = checkId := permitted
      exact ⟨fun name told => keeps.found_other different (Except.ok.inj told), keeps⟩
  | putJob new =>
      obtain ⟨_, named⟩ := permitted
      exact ⟨trivial, keeps.store (named ▸ names)⟩
  | deleteJob name => exact ⟨trivial, keeps.remove (Ne.symm permitted)⟩
  | deleteDefinition about =>
      refine ⟨trivial, ?_⟩
      rw [handle_deleteDefinition]
      exact ⟨by simpa [State.withTables] using keeps.there,
        by simpa [State.withTables] using keeps.distinct⟩
  | loop c =>
      exact ⟨trivial, keeps.there, keeps.distinct⟩
  | _ => exact permitted.elim

/-- A call of an id, however it ends, spares the jobs of other ids that have other names. -/
theorem createOrReplace_spares {trial : Trial} (keeps : Keeps job trial.base)
    (different : job.checkId ≠ checkId) (names : job.name ≠ Job.nameOf checkId) :
    Keeps job ((createOrReplace resultsTable checkId).run Trial.handle trial).2.base := by
  have behaves := createOrReplace_behaves
    (Remit.covers_ofId checkId (· ≠ job.name) resultsTable) checkId
  refine (run_of_behaves (fun (trial : Trial) => Keeps job trial.base) ?_ behaves keeps).2
  intro c trial keeps permitted
  have carried := keeps_handle keeps different names c permitted
  have turn := trial.turn c
  generalize (Trial.handle c trial).1 = answer at turn ⊢
  generalize (Trial.handle c trial).2.base = after at turn ⊢
  cases turn with
  | carried => exact carried
  | early => exact ⟨Remit.informs_error c _, keeps⟩
  | late => exact ⟨Remit.informs_error c _, carried.2⟩

def stores (action : OutcomeAction) : Prop :=
  action = .created ∨ action = .replaced

/-- Once a job is stored, the name of the id is that of no other id's job. -/
theorem Left.own_of_stored {found : Option String} {s after : List Binding} {b : Binding}
    {action : OutcomeAction} (left : Left checkId found s after action) (stored : stores action)
    (member : b ∈ after) (named : b.name = Job.nameOf checkId) : b.checkId = checkId := by
  have put : ∃ now, after = superseded (Job.nameOf checkId) found
      (Keyed.put (·.name) ⟨Job.nameOf checkId, checkId, now⟩ s) := by
    rcases stored with rfl | rfl
    · exact left
    · exact left
  obtain ⟨now, rfl⟩ := put
  rw [Keyed.eq_of_mem_put (List.mem_of_mem_filter member) named]

/-- Ids whose digests differ have one name exactly when one is spelled as the name of the other,
for every digest of eight digits.  Otherwise a call of the one id spares the job of the other,
whatever fails; and where they have one name, a call that stores its job takes it. -/
theorem ids_meet_iff {digest : String → String} {x y : String} (digits : Job.EightDigits digest)
    (different : x ≠ y) (apart : digest x ≠ digest y) :
    (Job.nameWith digest x = Job.nameWith digest y ↔ Job.Meet digest x y) ∧
    (digest = Job.shortDigest → ∀ (resultsTable : Value) (trial : Trial) (job : Job),
      Named trial.base.bindings → job ∈ trial.base.tables.jobs → job.checkId = x →
      job.name = Job.nameOf x →
      let ran := (createOrReplace resultsTable y).run Trial.handle trial
      (¬ Job.Meet digest x y → job ∈ ran.2.base.tables.jobs) ∧
      ∀ outcome, ran.1 = .ok outcome → stores outcome.action →
        (job ∈ ran.2.base.tables.jobs ↔ ¬ Job.Meet digest x y)) := by
  have meet := Job.nameWith_eq_iff digits different apart
  refine ⟨meet, ?_⟩
  rintro rfl resultsTable trial job named there rfl derived ran
  have names : job.name = Job.nameOf y ↔ Job.Meet Job.shortDigest job.checkId y := by
    rw [derived]
    exact meet
  have distinct : (trial.base.tables.jobs.map (·.name)).Nodup := by
    simpa [State.bindings, Binding.ofJob, Function.comp_def] using named.distinct
  have spared (none_met : ¬ Job.Meet Job.shortDigest job.checkId y) :
      job ∈ ran.2.base.tables.jobs :=
    (createOrReplace_spares ⟨there, distinct⟩ different (mt names.mp none_met)).there
  refine ⟨spared, fun outcome answered stored => ⟨fun kept met => ?_, spared⟩⟩
  have left := run_of_ends_seen (fun trial : Trial => trial.base.bindings) Backend.memory.moves
    (createOrReplace_leaves Backend.memory.finds named resultsTable y) outcome answered
  have listed : Binding.ofJob job ∈ ran.2.base.bindings := List.mem_map_of_mem kept
  exact different (left.own_of_stored stored listed (names.mpr met))

/-- Rows of these ids, no jobs, and nothing that fails. -/
def declaring (ids : List Definition) : Trial :=
  ⟨⟨{ Tables.empty .earliest true with rows := ids }, .start⟩, []⟩

theorem samples_apart :
    let first := ((createOrReplace (.text "results") "a").run Trial.handle
      (declaring [sample, otherSample])).2
    Job.nameOf "a" ≠ Job.nameOf "b" ∧ first.base.tables.jobs ≠ [] ∧
      ∀ job ∈ first.base.tables.jobs,
        job ∈ ((createOrReplace (.text "results") "b").run Trial.handle first).2.base.tables.jobs := by
  intro first
  have different : "a" ≠ "b" := by decide
  have digests : Job.shortDigest "a" ≠ Job.shortDigest "b" := by decide +kernel
  have apart : ¬ Job.Meet Job.shortDigest "a" "b" := by
    have safe : Job.safeId "a" = "a" ∧ Job.safeId "b" = "b" := by decide
    rintro (⟨changed, _⟩ | ⟨changed, _⟩)
    · exact changed safe.1
    · exact changed safe.2
  obtain ⟨names, spares⟩ := ids_meet_iff Job.eightDigits_shortDigest different digests
  have now : (first.base.bindings.map (·.name)).Nodup ∧ first.base.bindings ≠ [] ∧
      ∀ b ∈ first.base.bindings, b.name = Job.nameOf b.checkId ∧ b.checkId = "a" := by decide +kernel
  obtain ⟨distinct, some_stored, stored⟩ := now
  have named : Named first.base.bindings :=
    ⟨distinct, fun b member => (stored b member).1 ▸ nameOf_ne_empty b.checkId⟩
  refine ⟨mt names.mp apart, fun none_left => some_stored (List.map_eq_nil_iff.mpr none_left), ?_⟩
  intro job member
  have recorded := stored (.ofJob job) (List.mem_map_of_mem member)
  have about : job.checkId = "a" := recorded.2
  have derived : job.name = Job.nameOf "a" := by
    rw [← about]
    exact recorded.1
  exact (spares rfl (.text "results") first job named member about derived).1 apart

def dashed : Definition :=
  { sample with checkId := "a-b", hasId := by decide }

def mimic : Definition :=
  { sample with checkId := "a_b_d44362d6", hasId := by decide }

/-- The second id has another digest than the first and is spelled as its name: its call takes
the job of the first. -/
theorem mimic_takes :
    let first := ((createOrReplace (.text "results") "a-b").run Trial.handle
      (declaring [dashed, mimic])).2
    let second := ((createOrReplace (.text "results") "a_b_d44362d6").run Trial.handle first).2
    Job.shortDigest "a-b" ≠ Job.shortDigest "a_b_d44362d6" ∧
      Job.nameOf "a-b" = Job.nameOf "a_b_d44362d6" ∧
      first.base.bindings.map (·.checkId) = ["a-b"] ∧
      second.base.bindings.map (·.checkId) = ["a_b_d44362d6"] := by
  decide +kernel

end Sync

end CheckKeeper
