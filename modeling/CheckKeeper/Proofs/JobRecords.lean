import CheckKeeper.Proofs.JsonText
import CheckKeeper.Proofs.MomentText
import CheckKeeper.Proofs.Restored
import CheckKeeper.Proofs.Served
import CheckKeeper.Warehouse.Script

namespace CheckKeeper

open Calendar Compile

/-! Jobs as records, and as rows of the table of jobs.

One reader undoes both.  A record is all texts and values, and so is a row, but for the parameters:
these are bound as one JSON text, which the table may give back as it is or as the value that it
writes.
-/

variable {job : Job} {row : Row} {time : Option Moment}

namespace Text

theorem small_upperRuns : ∀ run ∈ upperRuns.toList, 0x61 ≤ run.first := by
  have each : (upperRuns.toList.all fun run => 0x61 ≤ run.first) = true := by decide +kernel
  exact fun run member => of_decide_eq_true (List.all_eq_true.mp each run member)

theorem small_upperSpecials : ∀ special ∈ upperSpecials, 0x61 ≤ special.1 := by
  have each : (upperSpecials.all fun special => 0x61 ≤ special.1) = true := by decide +kernel
  exact fun special member => of_decide_eq_true (List.all_eq_true.mp each special member)

/-- What stands before the small letters is its own upper case. -/
theorem upperForms_of_small {c : Char} (small : c.toNat < 0x61) : upperForms c = [c] := by
  have plain : upperSpecials.lookup c.toNat = none := by
    refine List.lookup_eq_none_iff.mpr fun special member => ?_
    have := small_upperSpecials special member
    have apart : c.toNat ≠ special.1 := by omega
    simpa using apart
  have uncovered : upperRuns.find? (fun run => run.covers c.toNat) = none := by
    rw [← Array.find?_toList, List.find?_eq_none]
    intro run member covered
    have := small_upperRuns run member
    simp only [CaseRun.covers, Bool.and_eq_true, decide_eq_true_eq] at covered
    omega
  rw [upperForms, plain, mapByRuns, uncovered]

theorem upperText_of_small {word : String} (small : ∀ c ∈ word.toList, c.toNat < 0x61) :
    upperText word = word := by
  have same : upper word.toList = word.toList := by
    rw [upper]
    generalize word.toList = cs at small
    induction cs with
    | nil => rfl
    | cons c cs ih =>
        rw [List.flatMap_cons, upperForms_of_small (small c List.mem_cons_self),
          ih fun later member => small later (List.mem_cons_of_mem c member)]
        rfl
  rw [upperText, same, String.ofList_toList]

end Text

theorem ofRecord_toRecord (parameter : Parameter) :
    Parameter.ofRecord parameter.toRecord = .ok parameter :=
  rfl

theorem mapM_ofRecord (parameters : List Parameter) :
    (parameters.map Parameter.toRecord).mapM Parameter.ofRecord = .ok parameters := by
  induction parameters with
  | nil => rfl
  | cons parameter parameters ih =>
      rw [List.map_cons, List.mapM_cons, ofRecord_toRecord, ih]
      rfl

theorem parse_kindName (kind : CheckKind) : CheckKind.parse (.text kind.name) = .ok kind := by
  have text : CheckKind.parse (.text kind.name) = .ok (CheckKind.ofText kind.name) := by
    cases kind <;> rfl
  have unblanked : Text.stripText kind.name = kind.name := by cases kind <;> decide +kernel
  have small : (kind.name.toList.all fun c => c.toNat < 0x61) = true := by
    cases kind <;> decide +kernel
  have upper : Text.upperText kind.name = kind.name :=
    Text.upperText_of_small fun c member => of_decide_eq_true (List.all_eq_true.mp small c member)
  rw [text, CheckKind.ofText, unblanked, upper]
  cases kind <;> rfl

/-- The parameters of a job as one value. -/
def Job.parameterList (job : Job) : Value :=
  .list (job.parameters.map Parameter.toRecord)

/-- The cells of a job under the names of its columns. -/
structure Job.InRow (job : Job) (row : Row) : Prop where
  name : row.find? "job_name" = some (.text job.name)
  check : row.find? "check_id" = some (.text job.checkId)
  kind : row.find? "check_type" = some (.text job.kind.name)
  schedule : row.find? "schedule" = some job.schedule
  statement : row.find? "statement" = some job.statement
  parameters : row.find? "parameters" = some job.parameterList

theorem Job.InRow.ofRecord (cells : job.InRow row)
    (read : Job.readTime (row.get "updated_at") = .ok time) :
    Job.ofRecord row = .ok { job with updatedAt := time } := by
  have items : ((row.get "parameters").orElse (.list [])).toItems =
      .ok (job.parameters.map Parameter.toRecord) := by
    rw [Row.get, cells.parameters, Job.parameterList]
    cases job.parameters <;> rfl
  have kind : CheckKind.parse (row.get "check_type") = .ok job.kind := by
    rw [Row.get, cells.kind]
    exact parse_kindName job.kind
  unfold Job.ofRecord
  rw [read, Row.require, cells.name, Row.require, cells.check, kind, items]
  simp only [bind, Except.bind, mapM_ofRecord, cells.schedule, cells.statement]
  rfl

theorem inRow_toRecord (job : Job) : job.InRow (Row.ofCells job.toRecord) where
  name := rfl
  check := rfl
  kind := rfl
  schedule := rfl
  statement := rfl
  parameters := rfl

/-- A job is read again from its record, unless its last change has an offset that is read as none. -/
theorem ofRecord_toRecord_iff (job : Job) : Job.ofRecord (Row.ofCells job.toRecord) = .ok job ↔
    ∀ point, job.updatedAt = some point → point.Kept := by
  have cells := inRow_toRecord job
  obtain ⟨name, checkId, kind, schedule, statement, parameters, updatedAt⟩ := job
  cases updatedAt with
  | none => exact iff_of_true (cells.ofRecord rfl) fun _ absent => nomatch absent
  | some point =>
      have read : Job.readTime (.text point.render) = .ok (some point.asRead) := by
        rw [Job.readTime, point.read_render]
        rfl
      have record : Job.ofRecord _ = .ok _ := cells.ofRecord read
      rw [record]
      simp [point.asRead_eq_self_iff]

namespace Row

theorem find?_cons (name cell : Value) (row : Row) (field : String) :
    Row.find? ((name, cell) :: row) field =
      if named field name then some cell else row.find? field := by
  by_cases here : named field name = true
  · simp [find?, here]
  · simp [find?, here]

theorem find?_replaced (row : Row) (field other : String) (value : Value) :
    Row.find? (row.map fun (name, old) => (name, if named field name then value else old)) other =
      if other = field then (row.find? field).map fun _ => value else row.find? other := by
  induction row with
  | nil => simp [find?]
  | cons cell row ih =>
      obtain ⟨name, old⟩ := cell
      rw [List.map_cons, find?_cons, find?_cons, find?_cons, ih]
      by_cases same : other = field
      · subst same
        by_cases here : named other name = true <;> simp [here]
      · have apart : named other name = true → named field name = false := by
          intro here
          cases name with
          | text content =>
              obtain rfl : content = other := eq_of_beq here
              exact beq_eq_false_iff_ne.mpr same
          | _ => rfl
        by_cases here : named other name = true
        · simp [here, apart here, same]
        · simp [here, same]

/-- A field that is set is there, and the other fields are as they were. -/
theorem find?_set (row : Row) (field other : String) (value : Value) :
    (row.set field value).find? other = if other = field then some value else row.find? other := by
  unfold Row.set
  split
  · rename_i has
    obtain ⟨old, there⟩ := Option.isSome_iff_exists.mp has
    rw [find?_replaced, there]
    rfl
  · rename_i absent
    have none_there : row.find? field = none := by simpa [Row.has] using absent
    have appended : Row.find? (row ++ [(.text field, value)]) other =
        (row.find? other).or (Row.find? [(.text field, value)] other) := by
      simp [find?, List.find?_append, Option.map_or]
    rw [appended]
    by_cases same : other = field
    · subst same
      rw [none_there, if_pos rfl, find?_cons_self]
      rfl
    · have unnamed : named other (.text field) = false := beq_eq_false_iff_ne.mpr (Ne.symm same)
      rw [find?_cons, unnamed, if_neg same]
      simp [find?]

end Row

namespace Warehouse.Jobs

/-- The row holds what the statement binds, but for the parameters, under the same names. -/
def Holds (query : Query) (row : Row) : Prop :=
  ∀ bound ∈ query.parameters, bound.name ≠ "parameters" → row.find? bound.name = some bound.value

/-- The row gives the parameters back as the value that their text writes, or as the text, if their
values are such as JSON has. -/
def GivesBack (job : Job) (text : String) (row : Row) : Prop :=
  row.find? "parameters" = some job.parameterList ∨
    (row.find? "parameters" = some (.text text) ∧
      ∀ parameter ∈ job.parameters, Json.Known parameter.value)

theorem known_parameterList (each : ∀ parameter ∈ job.parameters, Json.Known parameter.value) :
    Json.Known job.parameterList := by
  refine .list fun item member => ?_
  obtain ⟨parameter, inside, rfl⟩ := List.mem_map.mp member
  have value := each parameter inside
  refine .record ?_ (by simp)
  simp only [List.forall_mem_cons]
  exact ⟨.text _, .text _, value, List.forall_mem_nil _⟩

theorem exists_readColumn {text : String} (written : Json.dump .strict job.parameterList = .ok text)
    (back : GivesBack job text row) :
    ∃ given, readColumn row "parameters" = .ok given ∧
      given.find? "parameters" = some job.parameterList ∧
      ∀ other, other ≠ "parameters" → given.find? other = row.find? other := by
  unfold readColumn Row.get
  rcases back with value | ⟨asText, each⟩
  · rw [value]
    exact ⟨row, rfl, value, fun _ _ => rfl⟩
  · have read := (known_parameterList each).read_dump written
    rw [asText]
    refine ⟨row.set "parameters" job.parameterList, ?_, ?_, ?_⟩
    · change ((Json.read text).map _).mapError _ = _
      rw [read]
      rfl
    · rw [Row.find?_set, if_pos rfl]
    · intro other different
      rw [Row.find?_set, if_neg different]

theorem run_get {σ : Type} {client : Program.Handler interface σ} {table name : String} {s : σ}
    {done : Completion} {others : List Row}
    (answered : (client (.query (selectOne table name)) s).1 = .ok done)
    (first : done.rows = row :: others)
    (read : (readColumn row "parameters" >>= Job.ofRecord) = .ok job) :
    ((get table name).run client s).1 = .ok (some job) := by
  have found := run_execute_of_ok .scheduler ("Reading job " ++ name) answered
  change (Program.run client (Program.bind _ _) s).1 = _
  rcases ran : (Remote.execute .scheduler ("Reading job " ++ name) (selectOne table name)).run
    client s with ⟨answer, after⟩
  rw [ran] at found
  cases found
  rw [Program.run_bind, ran]
  simp only [first, read]
  rfl

theorem ofRecord_of_row {table text : String}
    (written : Json.dump .strict job.parameterList = .ok text) (holds : Holds (merge table job text) row)
    (back : GivesBack job text row) (read : Job.readTime (row.get "updated_at") = .ok time) :
    (readColumn row "parameters" >>= Job.ofRecord) = .ok { job with updatedAt := time } := by
  obtain ⟨given, found, parameters, others⟩ := exists_readColumn written back
  simp only [Holds, merge, byName, Parameter.ofText, List.singleton_append,
    List.forall_mem_cons] at holds
  obtain ⟨name, check, kind, schedule, statement, _⟩ := holds
  have cells : job.InRow given := {
    name := (others _ (by decide)).trans (name (by decide))
    check := (others _ (by decide)).trans (check (by decide))
    kind := (others _ (by decide)).trans (kind (by decide))
    schedule := (others _ (by decide)).trans (schedule (by decide))
    statement := (others _ (by decide)).trans (statement (by decide))
    parameters }
  rw [found]
  refine cells.ofRecord ?_
  rw [Row.get, others _ (by decide)]
  exact read

/-- A job is sent in one statement, with the text of its parameters. -/
theorem calls_put {σ : Type} (client : Program.Handler interface σ) (table : String) {text : String}
    (written : Json.dump .strict job.parameterList = .ok text) (s : σ) :
    (put table job).calls client s = [.query (merge table job text)] := by
  have sends : put table job = (Remote.execute .scheduler ("Creating or replacing job " ++ job.name)
      (merge table job text)).bind fun done => .done (changedRows done.updated) := by
    unfold put
    rw [show Value.list (job.parameters.map Parameter.toRecord) = job.parameterList from rfl, written]
    rfl
  rw [sends]
  change Call.query _ :: Program.calls client _ _ = _
  cases (client (.query (merge table job text)) s).1 with
  | ok done => rfl
  | error failure => cases failure <;> rfl

theorem calls_put_of_error {σ : Type} (client : Program.Handler interface σ) (table : String)
    {failure : Failure} (refused : Json.dump .strict job.parameterList = .error failure) (s : σ) :
    (put table job).calls client s = [] := by
  unfold put
  rw [show Value.list (job.parameters.map Parameter.toRecord) = job.parameterList from rfl, refused]
  rfl

/-- Jobs survive.  A job is read again from its record, unless the offset of its last change is one
that is read as none.  To store it one statement is sent, or none if its parameters cannot be
written, and a row of what the statement binds is read as the job, with the time that the row
tells. -/
theorem job_restored (job : Job) {σ : Type} (client : Program.Handler interface σ) (table : String) :
    (Job.ofRecord (Row.ofCells job.toRecord) = .ok job ↔
      ∀ point, job.updatedAt = some point → point.Kept) ∧
    (∀ failure, Json.dump .strict job.parameterList = .error failure →
      ∀ s, (put table job).calls client s = []) ∧
    ∀ text, Json.dump .strict job.parameterList = .ok text →
      (∀ s, (put table job).calls client s = [.query (merge table job text)]) ∧
      ∀ row time, Holds (merge table job text) row → GivesBack job text row →
        Job.readTime (row.get "updated_at") = .ok time →
        ∀ name s done others, (client (.query (selectOne table name)) s).1 = .ok done →
          done.rows = row :: others →
          ((get table name).run client s).1 = .ok (some { job with updatedAt := time }) := by
  refine ⟨ofRecord_toRecord_iff job, fun _ refused => calls_put_of_error client table refused,
    fun text written => ⟨calls_put client table written, ?_⟩⟩
  intro row time holds back read name s done others answered first
  exact run_get answered first (ofRecord_of_row written holds back read)

/-- The row that a statement binds, under the names of its parameters. -/
def boundRow (query : Query) : Row :=
  query.parameters.map fun bound => (.text bound.name, bound.value)

/-- A job with a value of each kind bound to its statement. -/
def lateOrders : Job where
  name := "dq_task_orders"
  checkId := "orders"
  kind := .freshness
  schedule := .text "0 6 * * *"
  statement := .text "SELECT @sla_minutes"
  parameters := [
    ⟨"check_name", "STRING", .text "L'\"été\""⟩,
    ⟨"sla_minutes", "INT64", .int 60⟩,
    ⟨"p_0", "FLOAT64", .float 0.5⟩,
    ⟨"p_1", "BOOL", .bool true⟩,
    ⟨"p_2", "STRING", .list [.null, .ofFields [("a", .int (-1)), ("b", .text "1")]]⟩]
  updatedAt := some .earliest

theorem known_lateOrders : ∀ parameter ∈ lateOrders.parameters, Json.Known parameter.value := by
  simp only [lateOrders, List.forall_mem_cons]
  refine ⟨.text _, .int _, .float _, .bool _, .list ?_, List.forall_mem_nil _⟩
  simp only [List.forall_mem_cons]
  refine ⟨.null, .record ?_ (by decide), List.forall_mem_nil _⟩
  simp only [List.forall_mem_cons]
  exact ⟨.int _, .text _, List.forall_mem_nil _⟩

theorem lateOrders_restored :
    Job.ofRecord (Row.ofCells lateOrders.toRecord) = .ok lateOrders ∧
    ∃ text, Json.dump .strict lateOrders.parameterList = .ok text ∧
      ((get "jobs" lateOrders.name).run Script.handle
        (.start [.ok ⟨[boundRow (merge "jobs" lateOrders text)], none, none⟩])).1 =
          .ok (some { lateOrders with updatedAt := none }) := by
  obtain ⟨record, _, rows⟩ := job_restored lateOrders Script.handle "jobs"
  have kept : ∀ point, lateOrders.updatedAt = some point → point.Kept := by
    rintro _ ⟨⟩ _ ⟨⟩
    exact .inl rfl
  have within : lateOrders.parameterList.excess? Json.depthLimit = none := by decide +kernel
  obtain ⟨text, written, _⟩ := ((known_parameterList known_lateOrders).legible within).exists_dump
  have holds : Holds (merge "jobs" lateOrders text) (boundRow (merge "jobs" lateOrders text)) := by
    intro bound member _
    simp only [merge, byName, Parameter.ofText, List.singleton_append, List.mem_cons,
      List.not_mem_nil, or_false] at member
    rcases member with rfl | rfl | rfl | rfl | rfl | rfl <;> rfl
  have back : GivesBack lateOrders text (boundRow (merge "jobs" lateOrders text)) :=
    .inr ⟨rfl, known_lateOrders⟩
  exact ⟨record.mpr kept, text, written,
    (rows text written).2 _ none holds back rfl _ _ _ [] rfl rfl⟩

def slightlyEarly : Job :=
  { lateOrders with updatedAt := some offByLittle }

theorem slightlyEarly_changed :
    (∀ parameter ∈ slightlyEarly.parameters, Json.Known parameter.value) ∧
      Job.ofRecord (Row.ofCells slightlyEarly.toRecord) ≠ .ok slightlyEarly :=
  ⟨known_lateOrders, fun same =>
    offByLittle_not_kept ((ofRecord_toRecord_iff slightlyEarly).mp same _ rfl)⟩

end Warehouse.Jobs

end CheckKeeper
