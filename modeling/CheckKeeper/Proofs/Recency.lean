import CheckKeeper.Proofs.Sampling
import CheckKeeper.Proofs.Spans

namespace CheckKeeper

open Calendar Compile

/-! Previews of freshness checks.

Among the rows that pass the filter the latest date decides, and it is fresh exactly if some date is.
Dates count as instants.
-/

variable {d : Definition} {check : CompiledCheck} {message column : String}
  {resultsTable value longer : Value} {rows kept : List Row} {span limit : Span} {instant : Option Span}

namespace Compile

theorem freshness_of_compile (compiled : compile d resultsTable = .ok (.valid check message))
    (fresh : check.kind = .freshness) :
    ∃ results, Sql.pathOf resultsTable = .ok results ∧ freshness d results = .ok check := by
  obtain ⟨results, path, made⟩ := ofKind_of_valid compiled
  rw [fresh] at made
  exact ⟨results, path, made⟩

theorem exists_agreedMinutes (compiled : compile d resultsTable = .ok (.valid check message))
    (fresh : check.kind = .freshness) :
    ∃ column minutes, d.keyColumns = [column] ∧ agreedMinutes d = .ok minutes := by
  obtain ⟨results, _, made⟩ := freshness_of_compile compiled fresh
  obtain ⟨column, found, rest⟩ := bind_eq_ok made
  obtain ⟨minutes, agreed, _⟩ := bind_eq_ok rest
  exact ⟨column, minutes, keyColumns_of_dateColumn found, agreed⟩

theorem freshness_of_agreedMinutes {results : String} {minutes : Int}
    (made : freshness d results = .ok check)
    (agreed : agreedMinutes { d with slaMinutes := longer } = .ok minutes) :
    ∃ other, freshness { d with slaMinutes := longer } results = .ok other ∧ other.kind = .freshness := by
  obtain ⟨column, key, rest⟩ := bind_eq_ok made
  obtain ⟨_, _, rest⟩ := bind_eq_ok rest
  obtain ⟨date, accepted, rest⟩ := bind_eq_ok rest
  obtain ⟨target, located, rest⟩ := bind_eq_ok rest
  obtain ⟨clause, filtered, rest⟩ := bind_eq_ok rest
  dsimp only at rest
  rw [checkOf_eq] at rest
  obtain ⟨times, trimmed, _⟩ := bind_eq_ok rest
  have same_key : dateColumn { d with slaMinutes := longer } = .ok column := key
  simp only [freshness, checkOf_eq, same_key, agreed, accepted, located, filtered, trimmed, bind,
    Except.bind]
  exact ⟨_, rfl, rfl⟩

/-- Of a definition of a valid freshness check the age can be changed to any other that can be agreed
on. -/
theorem compile_of_agreedMinutes {minutes : Int}
    (compiled : compile d resultsTable = .ok (.valid check message)) (fresh : check.kind = .freshness)
    (agreed : agreedMinutes { d with slaMinutes := longer } = .ok minutes) :
    ∃ other text, compile { d with slaMinutes := longer } resultsTable = .ok (.valid other text) ∧
      other.kind = .freshness := by
  obtain ⟨results, scheduled, kind, path, schedule, parsed, rest⟩ := compile_eq_ok compiled
  obtain ⟨results', made_results, made⟩ := freshness_of_compile compiled fresh
  obtain rfl : results = results' := Except.ok.inj (path.symm.trans made_results)
  obtain ⟨other, again, other_kind⟩ := freshness_of_agreedMinutes made agreed
  refine ⟨other, "", ?_, other_kind⟩
  split at rest
  · cases rest
  · rename_i planned
    obtain rfl : kind = .freshness :=
      (Except.ok.inj (parsed.symm.trans (kind_of_valid compiled))).trans fresh
    have verdict : compile { d with slaMinutes := longer } resultsTable =
        toVerdict { d with slaMinutes := longer } (freshness { d with slaMinutes := longer } results) := by
      unfold compile
      rw [path, show hasSchedule { d with slaMinutes := longer } = .ok scheduled from schedule,
        show Definition.kind { d with slaMinutes := longer } = .ok .freshness from parsed]
      exact if_neg planned
    rw [verdict, again]
    rfl

end Compile

namespace Preview

/-- The instant that a value tells: none if it is null, and else that of the moment that it is or
writes, where what has no offset is universal time. -/
inductive Dated : Value → Option Span → Prop
  | null : Dated .null none
  | moment (point : Moment) : Dated (.moment point) (some point.instant)
  | text {content : String} {point : Moment} (read : Moment.read (spellOffset content) = .ok point) :
      Dated (.text content) (some point.instant)

/-- The value tells an instant at or behind the limit. -/
def Since (limit : Span) (value : Value) : Prop :=
  ∃ instant, Dated value (some instant) ∧ limit ≤ instant

/-- Each row tells a date, or none, in the column. -/
def Dates (column : String) (rows : List Row) : Prop :=
  ∀ row ∈ rows, ∃ instant, Dated (row.get column) instant

theorem Dates.of_subset {more : List Row} (dates : Dates column more) (subset : rows ⊆ more) :
    Dates column rows :=
  fun row member => dates row (subset member)

theorem instant_inUtc (point : Moment) : point.inUtc.instant = point.instant := by
  obtain ⟨date, time, offset⟩ := point
  cases offset <;> rfl

theorem instantOf_of_dated (dated : Dated value instant) :
    ∃ found, instantOf value = .ok found ∧ found.map Moment.instant = instant := by
  cases dated with
  | null => exact ⟨none, rfl, rfl⟩
  | moment point => exact ⟨some point.inUtc, rfl, congrArg some (instant_inUtc point)⟩
  | @text content point read =>
      refine ⟨some point.inUtc, ?_, congrArg some (instant_inUtc point)⟩
      simp only [instantOf, Value.written_text, bind, Except.bind, read]
      rfl

theorem Dated.unique {other : Option Span} (dated : Dated value instant) (again : Dated value other) :
    other = instant := by
  obtain ⟨found, read, rfl⟩ := instantOf_of_dated dated
  obtain ⟨found', read', rfl⟩ := instantOf_of_dated again
  rw [Except.ok.inj (read.symm.trans read')]

theorem dated_text {content : String} {point : Span}
    (told : (Moment.read (spellOffset content)).toOption.map Moment.instant = some point) :
    Dated (.text content) (some point) := by
  cases read : Moment.read (spellOffset content) with
  | error fault =>
      rw [read] at told
      cases told
  | ok moment =>
      rw [read] at told
      cases told
      exact .text read

theorem since_iff (dated : Dated value instant) (limit : Span) :
    Since limit value ↔ ∃ point, instant = some point ∧ limit ≤ point := by
  constructor
  · rintro ⟨point, again, after⟩
    exact ⟨point, (dated.unique again).symm, after⟩
  · rintro ⟨point, rfl, after⟩
    exact ⟨point, dated, after⟩

/-- The dates of rows are read one by one. -/
theorem exists_mapM_instantOf (dates : Dates column kept) :
    ∃ found : List (Option Moment),
      ((kept.map .record).mapM fun sample => do instantOf (← cell column sample)) = .ok found ∧
      ∀ limit, (∃ date ∈ found.filterMap id, limit ≤ date.instant) ↔
        ∃ row ∈ kept, Since limit (row.get column) := by
  induction kept with
  | nil => exact ⟨[], rfl, fun limit => by simp⟩
  | cons row kept ih =>
      obtain ⟨later, read, same⟩ := ih (dates.of_subset (List.subset_cons_self row kept))
      obtain ⟨instant, dated⟩ := dates row List.mem_cons_self
      obtain ⟨date, first, told⟩ := instantOf_of_dated dated
      refine ⟨date :: later, ?_, fun limit => ?_⟩
      · rw [List.map_cons, List.mapM_cons, read, cell_record]
        change (instantOf (row.get column) >>= _) = _
        rw [first]
        rfl
      · rw [List.exists_mem_cons_iff, ← same, since_iff dated, ← told]
        cases date <;> simp

/-- Some date is late enough exactly if the latest one is. -/
theorem any_latest_iff (dates : List Moment) (limit : Span) :
    (latest dates).any (fun date => limit ≤ date.instant) = true ↔
      ∃ date ∈ dates, limit ≤ date.instant := by
  cases dates with
  | nil => simp [latest]
  | cons first rest =>
      rw [latest, Option.any_some, decide_eq_true_iff]
      induction rest generalizing first with
      | nil => simp
      | cons next rest ih =>
          -- The later one of the first two moments stands for both.
          rw [List.foldl_cons, ih]
          simp only [List.exists_mem_cons_iff, ← or_assoc]
          refine or_congr_left ?_
          split
          · rename_i earlier
            exact ⟨.inr, fun either => either.elim earlier.le.trans' id⟩
          · rename_i late
            exact ⟨.inl, fun either => either.elim id fun after => after.trans (not_lt.mp late)⟩

/-- Some row has a date at or behind the limit. -/
def Recent (column : String) (rows : List Row) (limit : Span) : Prop :=
  ∃ row ∈ rows, Since limit (row.get column)

theorem Recent.of_subset {more : List Row} (recent : Recent column rows limit) (subset : rows ⊆ more) :
    Recent column more limit := by
  obtain ⟨row, member, since⟩ := recent
  exact ⟨row, subset member, since⟩

theorem Recent.of_le {earlier : Span} (recent : Recent column rows limit) (le : earlier ≤ limit) :
    Recent column rows earlier := by
  obtain ⟨row, member, instant, dated, after⟩ := recent
  exact ⟨row, member, instant, dated, le.trans after⟩

theorem not_recent_of_null (null : ∀ row ∈ rows, row.get column = .null) (limit : Span) :
    ¬ Recent column rows limit := by
  rintro ⟨row, member, since⟩
  rw [null row member, since_iff .null] at since
  obtain ⟨_, absent, _⟩ := since
  cases absent

theorem freshness_of_filter {point : Moment} (only : d.keyColumns = [column])
    (filtered : filterRows d.rowFilter (rows.map .record) = .ok (kept.map .record))
    (dates : Dates column kept) (spanned : spanOf d.slaMinutes = .ok span)
    (within : inCalendar (point.wallClock - span) = true) :
    ∃ fresh details, freshness d (rows.map .record) point = .ok (statusOf fresh, details) ∧
      (fresh = true ↔ Recent column kept (point.instant - span)) := by
  obtain ⟨found, read, same⟩ := exists_mapM_instantOf dates
  have limit : before point span = .ok (point.instant - span) := by rw [before, if_pos within]
  have spanned := spanOfMinutes_of_inCalendar spanned within
  refine ⟨(latest (found.filterMap id)).any fun date => point.instant - span ≤ date.instant,
    .ofFields [
      ("max_date", (latest (found.filterMap id)).elim .null fun date => .text date.render),
      ("sla_minutes", d.slaMinutes),
      ("total_rows", .ofNat (kept.map Value.record).length)],
    ?_, (any_latest_iff _ _).trans (same _)⟩
  unfold freshness
  rw [filtered, only]
  change (List.mapM (m := Except Failure) _ _ >>= _) = _
  rw [List.headD_cons, read, spanned]
  dsimp only [bind, Except.bind]
  rw [limit]
  rfl

/-- The preview answers, and with that verdict. -/
def Answers (d : Definition) (rows : List Row) (source target : Value) (runTime : Option Moment)
    (now : Moment) (status : ResultStatus) : Prop :=
  ∃ result, evaluate d ⟨rowList rows, source, target⟩ (.ofMoment? runTime) now = .ok result ∧
    result.status = status

variable {source target : Value} {runTime : Option Moment} {now : Moment} {status : ResultStatus}

theorem answers_iff
    (compiled : compile d (.text defaultResultsTable) = .ok (.valid check message))
    (fresh : check.kind = .freshness) (only : d.keyColumns = [column])
    (filtered : filterRows d.rowFilter (rows.map .record) = .ok (kept.map .record))
    (dates : Dates column kept) (spanned : spanOf d.slaMinutes = .ok span)
    (within : inCalendar ((runAt runTime now).wallClock - span) = true) :
    Answers d rows source target runTime now status ↔
      status = .ok ∧ Recent column kept ((runAt runTime now).instant - span) ∨
        status = .ko ∧ ¬ Recent column kept ((runAt runTime now).instant - span) := by
  obtain ⟨recent, details, found, told⟩ := freshness_of_filter only filtered dates spanned within
  have answer : evaluate d ⟨rowList rows, source, target⟩ (.ofMoment? runTime) now =
      .ok (report d check.kind (runAt runTime now) (statusOf recent, details)) := by
    rw [evaluate_eq_report compiled (.inl fresh), fresh]
    change (freshness d (rows.map .record) (runAt runTime now)).map _ = _
    rw [found]
    rfl
  have verdict : Answers d rows source target runTime now status ↔ statusOf recent = status := by
    rw [Answers, answer]
    simp [report]
  rw [verdict, ← told]
  cases recent <;> simp [statusOf, eq_comm]

theorem answers_of_longer {further : Span}
    (compiled : compile d (.text defaultResultsTable) = .ok (.valid check message))
    (fresh : check.kind = .freshness) (only : d.keyColumns = [column])
    (filtered : filterRows d.rowFilter (rows.map .record) = .ok (kept.map .record))
    (dates : Dates column kept) (spanned : spanOf d.slaMinutes = .ok span)
    (within : inCalendar ((runAt runTime now).wallClock - span) = true)
    (least : d.slaMinutes.isAtMost longer = .ok true) (spanned_longer : spanOf longer = .ok further)
    (within_longer : inCalendar ((runAt runTime now).wallClock - further) = true)
    (answered : Answers d rows source target runTime now .ok) :
    Answers { d with slaMinutes := longer } rows source target runTime now .ok := by
  obtain ⟨_, minutes, _, agreed⟩ := exists_agreedMinutes compiled fresh
  obtain ⟨⟨more, agreed_longer⟩, same, spanned', le⟩ :=
    agreedMinutes_of_isAtMost agreed least spanned_longer
  obtain rfl : same = span := Except.ok.inj (spanned'.symm.trans spanned)
  obtain ⟨other, text, compiled_longer, fresh_longer⟩ :=
    compile_of_agreedMinutes compiled fresh agreed_longer
  have recent : Recent column kept ((runAt runTime now).instant - same) := by
    simpa using (answers_iff compiled fresh only filtered dates spanned within).mp answered
  exact (answers_iff compiled_longer fresh_longer only filtered dates spanned_longer
    within_longer).mpr (.inl ⟨rfl, recent.of_le (sub_le_sub_left le _)⟩)

/-- A preview of a freshness check answers OK exactly if some row that passes the filter has a date at
or behind the point in time of the run less the agreed age, as instants, and KO otherwise.  So the
order of the rows does not matter, and neither more rows nor a longer age make an OK a KO. -/
theorem recency_exact
    (compiled : compile d (.text defaultResultsTable) = .ok (.valid check message))
    (fresh : check.kind = .freshness) :
    ∃ column span, d.keyColumns = [column] ∧ spanOf d.slaMinutes = .ok span ∧
      (∀ minutes, d.slaMinutes = .int minutes → span = minutes * minute) ∧
      ∀ rows source target runTime now, Fits d rows → Dates column rows →
        inCalendar ((runAt runTime now).wallClock - span) = true →
        ∃ kept, filterRows d.rowFilter (rows.map .record) = .ok (kept.map .record) ∧
          (Answers d rows source target runTime now .ok ↔
            Recent column kept ((runAt runTime now).instant - span)) ∧
          (Answers d rows source target runTime now .ko ↔
            ¬ Recent column kept ((runAt runTime now).instant - span)) ∧
          ((∀ row ∈ kept, row.get column = .null) → Answers d rows source target runTime now .ko) ∧
          (∀ others, others.Perm rows → ∀ status,
            Answers d others source target runTime now status ↔
              Answers d rows source target runTime now status) ∧
          (∀ more, rows ⊆ more → Fits d more → Dates column more →
            Answers d rows source target runTime now .ok →
              Answers d more source target runTime now .ok) ∧
          ∀ longer further, d.slaMinutes.isAtMost longer = .ok true → spanOf longer = .ok further →
            inCalendar ((runAt runTime now).wallClock - further) = true →
            Answers d rows source target runTime now .ok →
              Answers { d with slaMinutes := longer } rows source target runTime now .ok := by
  obtain ⟨column, minutes, only, agreed⟩ := exists_agreedMinutes compiled fresh
  obtain ⟨passed, filtered⟩ := exists_filter compiled (by rw [fresh]; decide)
  obtain ⟨n, m, known, _⟩ := agreedMinutes_eq_ok_iff.mp ⟨minutes, agreed⟩
  obtain ⟨_, spanned, _⟩ := spanOf_of_ratio known
  refine ⟨column, _, only, spanned, ?_, ?_⟩
  · intro whole same
    rw [same] at spanned
    exact (Except.ok.inj spanned).symm
  intro rows source target runTime now fits dates within
  have dates_kept {rows : List Row} (dates : Dates column rows) : Dates column (rows.filter passed) :=
    dates.of_subset (List.filter_subset_self rows)
  have answers (rows : List Row) (fits : Fits d rows) (dates : Dates column rows)
      (status : ResultStatus) : Answers d rows source target runTime now status ↔ _ :=
    answers_iff compiled fresh only (filtered rows fits) (dates_kept dates) spanned within
  refine ⟨rows.filter passed, filtered rows fits, ?_, ?_, ?_, ?_, ?_, ?_⟩
  · simp [answers rows fits dates]
  · simp [answers rows fits dates]
  · intro null
    simp [answers rows fits dates, not_recent_of_null null]
  · intro others perm status
    have same (limit : Span) :
        Recent column (others.filter passed) limit ↔ Recent column (rows.filter passed) limit :=
      ⟨fun recent => recent.of_subset (perm.filter passed).subset,
        fun recent => recent.of_subset (perm.filter passed).symm.subset⟩
    rw [answers rows fits dates, answers others (fits.of_subset perm.subset)
      (dates.of_subset perm.subset), same]
  · intro more subset fits_more dates_more
    rw [answers rows fits dates, answers more fits_more dates_more]
    simpa using fun recent => recent.of_subset (List.filter_subset passed subset)
  · intro longer further least spanned_longer within_longer
    exact answers_of_longer compiled fresh only (filtered rows fits) (dates_kept dates) spanned within
      least spanned_longer within_longer

/-- The French ones among some arrivals must not be older than an hour. -/
def hourly : Definition :=
  { amountsFrom "arrivals" 0 (by decide) with
    checkType := .text "FRESHNESS"
    keyColumns := ["seen"]
    rowFilter := .ofFields [("country", .text "FR")]
    slaMinutes := .int 60 }

/-- The moment that an ISO text writes. -/
def momentOf (text : String) : Moment :=
  (Moment.read text).toOption.getD .earliest

/-- Four arrivals, the third at eleven in universal time. -/
def arrivals : List Row :=
  [[(.text "country", .text "DE"), (.text "seen", .text "2024-06-01T11:30:00Z")],
    [(.text "country", .text "FR"), (.text "seen", .moment (momentOf "2024-06-01T10:00:00"))],
    [(.text "country", .text "FR"), (.text "seen", .text "2024-06-01T13:00:00+02:00")],
    [(.text "country", .text "FR"), (.text "seen", .null)]]

def noon : Moment :=
  momentOf "2024-06-01T12:00:00"

def afterNoon : Moment :=
  momentOf "2024-06-01T12:00:00.000001"

theorem arrivals_recent :
    ∃ check message, compile hourly (.text defaultResultsTable) = .ok (.valid check message) ∧
      check.kind = .freshness ∧ Fits hourly arrivals ∧ Dates "seen" arrivals ∧
      Answers hourly arrivals .null .null (some noon) .earliest .ok ∧
      Answers hourly arrivals .null .null (some afterNoon) .earliest .ko := by
  have seen : ((compile hourly (.text defaultResultsTable)).toOption.bind
      Verdict.check?).map (·.kind) = some .freshness := by decide +kernel
  obtain ⟨check, message, compiled, fresh⟩ := valid_of_kind? seen
  have fits : Fits hourly arrivals := by
    intro conditions normalized row _ condition inside name _ other
    cases normalized
    rw [List.mem_singleton.mp inside] at other
    exact absurd rfl other
  have german : Dated (.text "2024-06-01T11:30:00Z") (some (noon.instant - 30 * minute)) :=
    dated_text (by decide +kernel)
  have shifted : Dated (.text "2024-06-01T13:00:00+02:00") (some (noon.instant - 60 * minute)) :=
    dated_text (by decide +kernel)
  have dates : Dates "seen" arrivals := by
    simp only [Dates, arrivals, List.forall_mem_cons]
    exact ⟨⟨_, german⟩, ⟨_, .moment _⟩, ⟨_, shifted⟩, ⟨_, .null⟩, List.forall_mem_nil _⟩
  have french : filterRows hourly.rowFilter (arrivals.map .record) = .ok (arrivals.tail.map .record) := by
    rfl
  obtain ⟨column, span, only, _, hour, verdict⟩ := recency_exact compiled fresh
  cases only
  obtain rfl : span = 60 * minute := hour 60 rfl
  have at_noon := verdict arrivals .null .null (some noon) .earliest fits dates (by decide +kernel)
  have later := verdict arrivals .null .null (some afterNoon) .earliest fits dates (by decide +kernel)
  obtain ⟨kept, filtered, passes, _⟩ := at_noon
  obtain ⟨kept', filtered', _, fails, _⟩ := later
  obtain rfl : kept = arrivals.tail := kept_unique filtered french
  obtain rfl : kept' = arrivals.tail := kept_unique filtered' french
  refine ⟨check, message, compiled, fresh, fits, dates, passes.mpr ?_, fails.mpr ?_⟩
  · exact ⟨_, List.mem_cons_of_mem _ List.mem_cons_self, _, shifted, by decide +kernel⟩
  · rintro ⟨row, member, since⟩
    simp only [arrivals, List.tail_cons, List.mem_cons, List.not_mem_nil, or_false] at member
    rcases member with rfl | rfl | rfl
    · obtain ⟨_, ⟨⟩, after⟩ := (since_iff (.moment _) _).mp since
      exact absurd after (by decide +kernel)
    · obtain ⟨_, ⟨⟩, after⟩ := (since_iff shifted _).mp since
      exact absurd after (by decide +kernel)
    · obtain ⟨_, ⟨⟩, _⟩ := (since_iff .null _).mp since

end Preview

end CheckKeeper
