import Mathlib.Data.List.Forall2
import CheckKeeper.Compile.Check

namespace CheckKeeper.Compile

/-! What a verdict says of the definition that it is about. -/

variable {α β ε : Type} {d : Definition} {resultsTable : Value} {check : CompiledCheck}
  {verdict : Verdict} {message results statement : String} {kind : CheckKind}
  {parameters : List Parameter}

theorem bind_eq_ok {found : Except ε α} {next : α → Except ε β} {value : β}
    (done : (found >>= next) = .ok value) :
    ∃ first, found = .ok first ∧ next first = .ok value := by
  cases found with
  | error failure => cases done
  | ok first => exact ⟨first, rfl, done⟩

theorem eq_ok_of_toOption {found : Except ε α} {value : α} (same : found.toOption = some value) :
    found = .ok value := by
  cases found with
  | ok other => exact congrArg Except.ok (Option.some.inj same)
  | error failure => cases same

theorem forall₂_of_mapM {read : α → Except ε β} {items : List α} {values : List β}
    (done : items.mapM read = .ok values) :
    List.Forall₂ (fun item value => read item = .ok value) items values := by
  induction items generalizing values with
  | nil =>
      cases done
      exact .nil
  | cons item items ih =>
      rw [List.mapM_cons] at done
      obtain ⟨value, first, rest⟩ := bind_eq_ok done
      obtain ⟨later, following, rest⟩ := bind_eq_ok rest
      cases rest
      exact .cons first (ih following)

theorem exists_of_mem_mapM {read : α → Except ε β} {items : List α} {values : List β} {value : β}
    (done : items.mapM read = .ok values) (member : value ∈ values) :
    ∃ item ∈ items, read item = .ok value := by
  have each := forall₂_of_mapM done
  clear done
  induction each with
  | nil => cases member
  | cons first _ ih =>
      rcases List.mem_cons.mp member with rfl | later
      · exact ⟨_, List.mem_cons_self, first⟩
      · obtain ⟨item, inside, found⟩ := ih later
        exact ⟨item, List.mem_cons_of_mem _ inside, found⟩

/-- What a verdict on a definition rests on: a path for the results, a schedule that can
be read, and a kind. -/
theorem compile_eq_ok (compiled : compile d resultsTable = .ok verdict) :
    ∃ results scheduled kind, Sql.pathOf resultsTable = .ok results ∧
      hasSchedule d = .ok scheduled ∧ d.kind = .ok kind ∧
      (if (!scheduled && kind != .unsupported) = true then
        toVerdict d (.error (.reason .invalidParameter "schedule is required"))
      else toVerdict d (ofKind kind d results)) = .ok verdict := by
  obtain ⟨results, path, rest⟩ := bind_eq_ok compiled
  obtain ⟨scheduled, schedule, rest⟩ := bind_eq_ok rest
  obtain ⟨kind, parsed, rest⟩ := bind_eq_ok rest
  exact ⟨results, scheduled, kind, path, schedule, parsed, rest⟩

theorem kind_of_compile (compiled : compile d resultsTable = .ok verdict) :
    ∃ kind, d.kind = .ok kind := by
  obtain ⟨_, _, kind, _, _, parsed, _⟩ := compile_eq_ok compiled
  exact ⟨kind, parsed⟩

theorem checkOf_eq_ok (made : checkOf d kind statement parameters = .ok check) :
    ∃ schedule, check = {
      checkId := d.checkId, kind, jobName := Job.nameOf d.checkId
      schedule := Text.stripText schedule, statement, parameters } := by
  rw [checkOf_eq] at made
  obtain ⟨schedule, _, rest⟩ := bind_eq_ok made
  cases rest
  exact ⟨schedule, rfl⟩

/-- A check is about the id of its definition, and has the name that the id gives it. -/
def IsOf (d : Definition) (check : CompiledCheck) : Prop :=
  check.checkId = d.checkId ∧ check.jobName = Job.nameOf d.checkId

theorem isOf_checkOf (made : checkOf d kind statement parameters = .ok check) : IsOf d check := by
  obtain ⟨schedule, rfl⟩ := checkOf_eq_ok made
  exact ⟨rfl, rfl⟩

/-- However a check is made, in the end it is that of its kind. -/
theorem checkOf_of_ofKind (made : ofKind kind d results = .ok check) :
    ∃ statement parameters, checkOf d kind statement parameters = .ok check := by
  cases kind with
  | freshness =>
      obtain ⟨column, _, rest⟩ := bind_eq_ok made
      obtain ⟨minutes, _, rest⟩ := bind_eq_ok rest
      obtain ⟨date, _, rest⟩ := bind_eq_ok rest
      obtain ⟨target, _, rest⟩ := bind_eq_ok rest
      obtain ⟨condition, _, rest⟩ := bind_eq_ok rest
      exact ⟨_, _, rest⟩
  | uniqueness =>
      simp only [ofKind, uniqueness] at made
      split at made
      · cases made
      · obtain ⟨columns, _, rest⟩ := bind_eq_ok made
        obtain ⟨target, _, rest⟩ := bind_eq_ok rest
        obtain ⟨condition, _, rest⟩ := bind_eq_ok rest
        exact ⟨_, _, rest⟩
  | consistency =>
      obtain ⟨source, _, rest⟩ := bind_eq_ok made
      obtain ⟨target, _, rest⟩ := bind_eq_ok rest
      dsimp only at rest
      split at rest
      · cases rest
      · obtain ⟨sourceBody, _, rest⟩ := bind_eq_ok rest
        obtain ⟨targetBody, _, rest⟩ := bind_eq_ok rest
        obtain ⟨threshold, _, rest⟩ := bind_eq_ok rest
        obtain ⟨ratio, _, rest⟩ := bind_eq_ok rest
        exact ⟨_, _, rest⟩
  | unsupported => cases made

theorem ofKind_of_compile (compiled : compile d resultsTable = .ok (.valid check message)) :
    ∃ results kind, Sql.pathOf resultsTable = .ok results ∧ d.kind = .ok kind ∧
      ofKind kind d results = .ok check := by
  obtain ⟨results, scheduled, kind, path, _, parsed, rest⟩ := compile_eq_ok compiled
  split at rest
  · cases rest
  · cases made : ofKind kind d results with
    | ok found =>
        rw [made] at rest
        cases rest
        exact ⟨results, kind, path, parsed, made⟩
    | error refusal =>
        rw [made] at rest
        cases refusal <;> cases rest

theorem checkOf_of_compile (compiled : compile d resultsTable = .ok (.valid check message)) :
    ∃ kind statement parameters, d.kind = .ok kind ∧
      checkOf d kind statement parameters = .ok check := by
  obtain ⟨results, kind, _, parsed, made⟩ := ofKind_of_compile compiled
  obtain ⟨statement, parameters, made⟩ := checkOf_of_ofKind made
  exact ⟨kind, statement, parameters, parsed, made⟩

theorem isOf_compile (compiled : compile d resultsTable = .ok (.valid check message)) :
    IsOf d check := by
  obtain ⟨_, _, _, _, made⟩ := checkOf_of_compile compiled
  exact isOf_checkOf made

/-- A check is of the kind that its definition declares. -/
theorem kind_of_valid (compiled : compile d resultsTable = .ok (.valid check message)) :
    d.kind = .ok check.kind := by
  obtain ⟨kind, statement, parameters, parsed, made⟩ := checkOf_of_compile compiled
  obtain ⟨schedule, rfl⟩ := checkOf_eq_ok made
  exact parsed

theorem ofKind_of_valid (compiled : compile d resultsTable = .ok (.valid check message)) :
    ∃ results, Sql.pathOf resultsTable = .ok results ∧ ofKind check.kind d results = .ok check := by
  obtain ⟨results, kind, path, parsed, made⟩ := ofKind_of_compile compiled
  obtain rfl : kind = check.kind := Except.ok.inj (parsed.symm.trans (kind_of_valid compiled))
  exact ⟨results, path, made⟩

theorem valid_of_check? {found : Except Failure Verdict}
    (there : (found.toOption.bind Verdict.check?).isSome = true) :
    ∃ check message, found = .ok (.valid check message) := by
  cases found with
  | error failure => cases there
  | ok verdict =>
      cases verdict with
      | valid check message => exact ⟨check, message, rfl⟩
      | invalid checkId reason message => cases there

theorem valid_of_kind? {found : Except Failure Verdict}
    (there : (found.toOption.bind Verdict.check?).map (·.kind) = some kind) :
    ∃ check message, found = .ok (.valid check message) ∧ check.kind = kind := by
  have seen : (found.toOption.bind Verdict.check?).isSome = true := by
    rw [← Option.isSome_map, there]
    rfl
  obtain ⟨check, message, rfl⟩ := valid_of_check? seen
  exact ⟨check, message, rfl, Option.some.inj there⟩

/-- Whatever may be wrong, it is not that the kind is unsupported. -/
def Recognized (found : Except Refusal α) : Prop :=
  ∀ text, found ≠ .error (.reason .unsupportedCheckType text)

theorem recognized_ok (value : α) : Recognized (.ok value) := by
  intro text same
  cases same

theorem recognized_bind {found : Except Refusal α} {next : α → Except Refusal β}
    (first : Recognized found) (rest : ∀ value, Recognized (next value)) :
    Recognized (found >>= next) := by
  cases found with
  | ok value => exact rest value
  | error refusal =>
      intro text same
      apply first text
      cases same
      rfl

theorem recognized_declared (found : Except Failure α) : Recognized (declared found) := by
  cases found with
  | ok value => exact recognized_ok value
  | error failure =>
      intro text same
      cases failure <;> cases same

theorem recognized_reason {reason : InvalidReason} (text : String)
    (other : reason ≠ .unsupportedCheckType) :
    Recognized (α := α) (.error (.reason reason text)) := by
  intro text' same
  cases same
  exact other rfl

theorem recognized_subquery (sql : String) : Recognized (subquery sql) := by
  unfold subquery
  cases Sql.prepare sql with
  | ok body => exact recognized_ok body
  | error fault => exact recognized_reason _ (by decide)

theorem recognized_checkOf (d : Definition) (kind : CheckKind) (statement : String)
    (parameters : List Parameter) : Recognized (checkOf d kind statement parameters) := by
  rw [checkOf_eq]
  exact recognized_bind (recognized_declared _) fun _ => recognized_ok _

theorem recognized_dateColumn (d : Definition) : Recognized (dateColumn d) := by
  unfold dateColumn
  split
  · exact recognized_reason _ (by decide)
  · exact recognized_ok _
  · exact recognized_reason _ (by decide)

theorem recognized_agreedMinutes (d : Definition) : Recognized (agreedMinutes d) := by
  unfold agreedMinutes
  split
  · exact recognized_reason _ (by decide)
  · apply recognized_bind (recognized_declared _)
    intro low
    split
    · exact recognized_reason _ (by decide)
    · exact recognized_declared _

theorem recognized_ofKind (supported : kind ≠ .unsupported) (d : Definition) (results : String) :
    Recognized (ofKind kind d results) := by
  cases kind with
  | freshness =>
      apply recognized_bind (recognized_dateColumn d)
      intro column
      apply recognized_bind (recognized_agreedMinutes d)
      intro minutes
      apply recognized_bind (recognized_declared _)
      intro date
      apply recognized_bind (recognized_declared _)
      intro target
      apply recognized_bind (recognized_declared _)
      intro condition
      exact recognized_checkOf _ _ _ _
  | uniqueness =>
      simp only [ofKind, uniqueness]
      split
      · exact recognized_reason _ (by decide)
      · apply recognized_bind (recognized_declared _)
        intro columns
        apply recognized_bind (recognized_declared _)
        intro target
        apply recognized_bind (recognized_declared _)
        intro condition
        exact recognized_checkOf _ _ _ _
  | consistency =>
      apply recognized_bind (recognized_declared _)
      intro source
      apply recognized_bind (recognized_declared _)
      intro target
      dsimp only
      split
      · exact recognized_reason _ (by decide)
      · apply recognized_bind (recognized_subquery _)
        intro sourceBody
        apply recognized_bind (recognized_subquery _)
        intro targetBody
        apply recognized_bind (recognized_declared _)
        intro threshold
        apply recognized_bind (recognized_declared _)
        intro ratio
        exact recognized_checkOf _ _ _ _
  | unsupported => exact absurd rfl supported

/-- Only a definition of the unsupported kind is told that its kind is unsupported. -/
theorem supported_of_compile {checkId : String} {reason : InvalidReason}
    (compiled : compile d resultsTable = .ok (.invalid checkId reason message))
    (parsed : d.kind = .ok kind) (supported : kind ≠ .unsupported) :
    reason ≠ .unsupportedCheckType := by
  obtain ⟨results, scheduled, kind', _, _, parsed', rest⟩ := compile_eq_ok compiled
  rw [parsed, Except.ok.injEq] at parsed'
  subst parsed'
  split at rest
  · cases rest
    decide
  · cases made : ofKind kind d results with
    | ok found =>
        rw [made] at rest
        cases rest
    | error refusal =>
        rw [made] at rest
        cases refusal with
        | failure failure => cases rest
        | reason found text =>
            cases rest
            intro same
            subst same
            exact recognized_ofKind supported d results text made

theorem kind_of_isUnsupported (compiled : compile d resultsTable = .ok verdict)
    (unsupported : verdict.isUnsupported = true) : d.kind = .ok .unsupported := by
  obtain ⟨kind, parsed⟩ := kind_of_compile compiled
  cases verdict with
  | valid check message => cases unsupported
  | invalid about reason message =>
      by_cases same : kind = .unsupported
      · rw [parsed, same]
      · have told : reason = .unsupportedCheckType := by
          simpa [Verdict.isUnsupported, Verdict.reason?] using unsupported
        exact absurd told (supported_of_compile compiled parsed same)

/-- The times and the hands that wrote a row do not matter to the compiler. -/
theorem compile_stamped (d : Definition) (createdAt updatedAt : Value) (resultsTable : Value) :
    compile { d with createdAt, updatedAt } resultsTable = compile d resultsTable :=
  rfl

end CheckKeeper.Compile
