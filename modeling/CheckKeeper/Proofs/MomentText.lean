import Mathlib.Data.List.TakeWhile
import CheckKeeper.Calendar.Iso
import CheckKeeper.Proofs.Numerals
import CheckKeeper.Proofs.Verdict

namespace CheckKeeper.Calendar

open Number (Digits isDigit natOfDigits)

/-! Moments written as text and read again.

A moment is read as itself from its text, unless its offset is less than one second and not nought:
such an offset is written, but read as none.
-/

variable {cs rest : List Char} {width : Nat}

theorem length_paddedDigits (width n : Nat) : (paddedDigits width n).length = width := by
  induction width generalizing n with
  | zero => rfl
  | succ width ih => rw [paddedDigits, List.length_append, ih, List.length_singleton]

theorem digit_of_lt : ∀ digit < 10, isDigit (Char.ofNat (48 + digit)) = true ∧
    natOfDigits [Char.ofNat (48 + digit)] = digit := by
  decide

theorem digits_paddedDigits (width n : Nat) : Digits (paddedDigits width n) := by
  induction width generalizing n with
  | zero => exact fun _ member => nomatch member
  | succ width ih =>
      exact (ih _).append
        (List.forall_mem_singleton.mpr (digit_of_lt _ (Nat.mod_lt n (by decide))).1)

theorem natOfDigits_paddedDigits {n : Nat} (small : n < 10 ^ width) :
    natOfDigits (paddedDigits width n) = n := by
  induction width generalizing n with
  | zero =>
      obtain rfl : n = 0 := Nat.lt_one_iff.mp small
      rfl
  | succ width ih =>
      have last := (digit_of_lt _ (Nat.mod_lt n (by decide))).2
      rw [pow_succ] at small
      rw [paddedDigits, Number.natOfDigits_append, ih (by omega), last, List.length_singleton]
      omega

theorem takeDigits?_paddedDigits (width : Nat) {n : Nat} (small : n < 10 ^ width) (rest : List Char) :
    takeDigits? width (paddedDigits width n ++ rest) = some (n, rest) := by
  have length := length_paddedDigits width n
  have taken : (paddedDigits width n ++ rest).take width = paddedDigits width n :=
    List.take_left' length
  have behind : (paddedDigits width n ++ rest).drop width = rest := List.drop_left' length
  simp only [takeDigits?, taken, behind, length, Number.all_of_digits (digits_paddedDigits width n),
    natOfDigits_paddedDigits small]
  simp

theorem readFraction?_micros {micros : Nat} (small : micros < 1000000) (follow : Char) :
    readFraction? follow (paddedDigits 6 micros) = some (micros, follow != endMark) := by
  have taken := takeDigits?_paddedDigits 6 small []
  rw [List.append_nil] at taken
  simp [readFraction?, length_paddedDigits, taken]

/-- A pair of digits with a colon behind it; the first colon makes the others needed. -/
theorem readPairs?_colon {n : Nat} (small : n < 100) (follow : Char) (steps : Nat) {colons : Bool}
    {done : List Nat} (start : done = [] ∨ colons = true) (given : rest ≠ []) :
    readPairs? follow (steps + 1) colons done (paddedDigits 2 n ++ ':' :: rest) =
      readPairs? follow steps true (done ++ [n]) rest := by
  obtain ⟨c, more, rfl⟩ := List.exists_cons_of_ne_nil given
  have taken := takeDigits?_paddedDigits 2 small (':' :: c :: more)
  have marked : (if done.isEmpty = true then ':' == ':' else colons) = true := by
    rcases start with rfl | rfl
    · rfl
    · split <;> rfl
  simp only [readPairs?, taken, Option.bind_eq_bind, Option.bind_some, marked]
  rfl

/-- The last pair of digits, with a fraction if there is one. -/
theorem readPairs?_last {n micros : Nat} (small : n < 100) (microsOk : micros < 1000000)
    (follow : Char) (steps : Nat) {done : List Nat} (before : done ≠ []) :
    readPairs? follow (steps + 1) true done (paddedDigits 2 n ++ renderFraction micros) =
      some (done ++ [n], micros, follow != endMark) := by
  have taken := takeDigits?_paddedDigits 2 small (renderFraction micros)
  have later : done.isEmpty = false := List.isEmpty_eq_false_iff.mpr before
  by_cases nought : micros = 0
  · have none : renderFraction micros = [] := if_pos nought
    rw [none] at taken ⊢
    simp only [readPairs?, taken, Option.bind_eq_bind, Option.bind_some, nought]
    rfl
  · have point : renderFraction micros = '.' :: paddedDigits 6 micros := if_neg nought
    have fraction := readFraction?_micros microsOk follow
    obtain ⟨c, more, same⟩ : ∃ c more, paddedDigits 6 micros = c :: more :=
      List.exists_cons_of_length_eq_add_one (length_paddedDigits 6 micros)
    rw [point, same] at taken
    rw [same] at fraction
    rw [point, same]
    simp only [readPairs?, taken, Option.bind_eq_bind, Option.bind_some, later, Bool.false_eq_true,
      if_false, fraction]
    rfl

theorem readTimePart?_minutes {hours minutes : Nat} (hoursOk : hours < 24) (minutesOk : minutes < 60)
    (follow : Char) :
    readTimePart? follow (paddedDigits 2 hours ++ ':' :: paddedDigits 2 minutes) =
      some (⟨hours, minutes, 0, 0⟩, follow != endMark) := by
  have last := readPairs?_last (show minutes < 100 by omega) (show 0 < 1000000 by decide) follow 1
    (List.cons_ne_nil hours [])
  rw [show renderFraction 0 = [] from rfl, List.append_nil] at last
  have given : paddedDigits 2 minutes ≠ [] :=
    List.ne_nil_of_length_eq_add_one (length_paddedDigits 2 minutes)
  rw [readTimePart?, readPairs?_colon (by omega) follow 2 (.inl rfl) given, List.nil_append, last]
  rfl

theorem readTimePart?_seconds {hours minutes seconds micros : Nat} (hoursOk : hours < 24)
    (minutesOk : minutes < 60) (secondsOk : seconds < 60) (microsOk : micros < 1000000)
    (follow : Char) :
    readTimePart? follow (paddedDigits 2 hours ++ ':' :: (paddedDigits 2 minutes ++
        ':' :: (paddedDigits 2 seconds ++ renderFraction micros))) =
      some (⟨hours, minutes, seconds, micros⟩, follow != endMark) := by
  have last := readPairs?_last (show seconds < 100 by omega) microsOk follow 0
    (List.cons_ne_nil hours [minutes])
  have given (n : Nat) (rest : List Char) : paddedDigits 2 n ++ rest ≠ [] :=
    List.append_ne_nil_of_left_ne_nil (List.ne_nil_of_length_eq_add_one (length_paddedDigits 2 n)) rest
  rw [readTimePart?, readPairs?_colon (by omega) follow 2 (.inl rfl) (given _ _), List.nil_append,
    readPairs?_colon (by omega) follow 1 (.inr rfl) (given _ _), List.singleton_append, last]
  rfl

/-- Hours, minutes, seconds and microseconds of a distance. -/
def partsOf (distance : Nat) : WrittenTime :=
  ⟨distance / 3600000000, distance / 60000000 % 60, distance / 1000000 % 60, distance % 1000000⟩

theorem span_partsOf (distance : Nat) : (partsOf distance).span = distance := by
  change ((distance / 3600000000 : Nat) : Int) * 3600000000 +
    ((distance / 60000000 % 60 : Nat) : Int) * 60000000 +
    ((distance / 1000000 % 60 : Nat) : Int) * 1000000 + ((distance % 1000000 : Nat) : Int) = distance
  omega

def Offset.mark (offset : Offset) : Char :=
  if offset.span < 0 then '-' else '+'

theorem Offset.natAbs_lt (offset : Offset) : offset.span.natAbs < 86400000000 := by
  have small : ∀ n : Int, -86400000000 < n → n < 86400000000 → n.natAbs < 86400000000 := by
    intro n
    omega
  exact small offset.span offset.inRange.1 offset.inRange.2

theorem exists_renderOffset (offset : Offset) : ∃ distance,
    renderOffset offset = offset.mark :: distance ∧
      readTimePart? endMark distance = some (partsOf offset.span.natAbs, false) := by
  have small := offset.natAbs_lt
  obtain ⟨span, inRange⟩ := offset
  dsimp only at small
  have hoursOk : span.natAbs / 3600000000 < 24 := Nat.div_lt_of_lt_mul small
  have minutesOk : span.natAbs / 60000000 % 60 < 60 := Nat.mod_lt _ (by decide)
  have secondsOk : span.natAbs / 1000000 % 60 < 60 := Nat.mod_lt _ (by decide)
  have microsOk : span.natAbs % 1000000 < 1000000 := Nat.mod_lt _ (by decide)
  unfold renderOffset partsOf
  dsimp only
  generalize span.natAbs / 3600000000 = hours at hoursOk ⊢
  generalize span.natAbs / 60000000 % 60 = minutes at minutesOk ⊢
  generalize span.natAbs / 1000000 % 60 = seconds at secondsOk ⊢
  generalize span.natAbs % 1000000 = micros at microsOk ⊢
  by_cases short : seconds = 0 ∧ micros = 0
  · obtain ⟨rfl, rfl⟩ := short
    refine ⟨_, ?_, readTimePart?_minutes hoursOk minutesOk endMark⟩
    simp [renderFraction, Offset.mark]
  · refine ⟨_, ?_, readTimePart?_seconds hoursOk minutesOk secondsOk microsOk endMark⟩
    simp [Offset.mark, short]

/-- The offset that is read where one was written. -/
def Offset.asRead (offset : Offset) : Offset :=
  if offset.span.natAbs < 1000000 then .utc else offset

theorem offsetSpan_eq (offset : Offset) :
    offsetSpan (offset.mark == '-') (partsOf offset.span.natAbs) = offset.asRead.span := by
  obtain ⟨span, inRange⟩ := offset
  have whole := span_partsOf span.natAbs
  have sign : ((Offset.mark ⟨span, inRange⟩) == '-') = decide (span < 0) := by
    unfold Offset.mark
    dsimp only
    split
    · rename_i negative
      rw [decide_eq_true negative]
      rfl
    · rename_i positive
      rw [decide_eq_false positive]
      rfl
  have parts : ((partsOf span.natAbs).hours = 0 ∧ (partsOf span.natAbs).minutes = 0 ∧
      (partsOf span.natAbs).seconds = 0) ↔ span.natAbs < 1000000 := by
    simp only [partsOf]
    omega
  have magnitude : (if span < 0 then -(span.natAbs : Int) else span.natAbs) = span := by
    rcases Int.lt_or_le span 0 with negative | nonneg
    · rw [if_pos negative, Int.ofNat_natAbs_of_nonpos negative.le, neg_neg]
    · rw [if_neg (Int.not_lt.mpr nonneg), Int.natAbs_of_nonneg nonneg]
  rw [offsetSpan, sign, whole, Offset.asRead]
  simp only [Bool.and_eq_true, decide_eq_true_eq, and_assoc, parts]
  by_cases small : span.natAbs < 1000000
  · rw [if_pos small, if_pos small]
    rfl
  · rw [if_neg small, if_neg small, magnitude]

/-- The moment that is read where one was written. -/
def Moment.asRead (m : Moment) : Moment :=
  { m with offset := m.offset.map Offset.asRead }

theorem isOffsetMark_of_digit {c : Char} (digit : isDigit c = true) : isOffsetMark c = false := by
  have other (mark : Char) (foreign : isDigit mark = false) : (c == mark) = false :=
    beq_eq_false_iff_ne.mpr fun same => Bool.false_ne_true (foreign.symm.trans (same ▸ digit))
  rw [isOffsetMark, other '+' rfl, other '-' rfl, other 'Z' rfl]
  rfl

theorem unmarked_renderTime (time : TimeOfDay) : ∀ c ∈ renderTime time, (!isOffsetMark c) = true := by
  have digits (width n : Nat) : ∀ c ∈ paddedDigits width n, (!isOffsetMark c) = true := by
    intro c member
    rw [isOffsetMark_of_digit (digits_paddedDigits width n c member)]
    rfl
  have fraction : ∀ c ∈ renderFraction time.micros, (!isOffsetMark c) = true := by
    unfold renderFraction
    split
    · exact List.forall_mem_nil _
    · exact List.forall_mem_cons.mpr ⟨rfl, digits 6 _⟩
  unfold renderTime
  simp only [List.forall_mem_append, List.forall_mem_cons, List.append_assoc, List.cons_append]
  exact ⟨digits 2 _, rfl, digits 2 _, rfl, digits 2 _, fraction⟩

def TimeOfDay.written (time : TimeOfDay) : WrittenTime :=
  ⟨time.hours, time.minutes, time.seconds, time.micros⟩

theorem readClock?_render (time : TimeOfDay) (offset : Option Offset) :
    readClock? (renderTime time ++ offset.elim [] renderOffset) =
      some (time.written, offset.map (·.asRead.span)) := by
  have unmarked := unmarked_renderTime time
  have body (follow : Char) : readTimePart? follow (renderTime time) =
      some (time.written, follow != endMark) := by
    have read := readTimePart?_seconds time.hoursInRange time.minutesInRange time.secondsInRange
      time.microsInRange follow
    rw [renderTime]
    simp only [List.append_assoc, List.cons_append]
    exact read
  cases offset with
  | none =>
      have taken : (renderTime time ++ []).takeWhile (!isOffsetMark ·) = renderTime time := by
        rw [List.append_nil]
        exact List.takeWhile_eq_self_iff.mpr unmarked
      have behind : (renderTime time ++ []).dropWhile (!isOffsetMark ·) = [] := by
        rw [List.append_nil]
        exact List.dropWhile_eq_nil_iff.mpr unmarked
      simp only [Option.elim_none, readClock?, taken, behind, body, Option.bind_eq_bind,
        Option.bind_some]
      rfl
  | some offset =>
      obtain ⟨distance, spelled, read⟩ := exists_renderOffset offset
      have marked : isOffsetMark offset.mark = true := by
        unfold Offset.mark
        split <;> rfl
      have notZ : offset.mark ≠ 'Z' := by
        unfold Offset.mark
        split <;> decide
      have taken : (renderTime time ++ offset.mark :: distance).takeWhile (!isOffsetMark ·) =
          renderTime time := by
        rw [List.takeWhile_append_of_pos unmarked, List.takeWhile_cons_of_neg (by simp [marked]),
          List.append_nil]
      have behind : (renderTime time ++ offset.mark :: distance).dropWhile (!isOffsetMark ·) =
          offset.mark :: distance := by
        rw [List.dropWhile_append_of_pos unmarked, List.dropWhile_cons_of_neg (by simp [marked])]
      simp only [Option.elim_some, spelled, readClock?, taken, behind, body, read, notZ,
        offsetSpan_eq, Option.bind_eq_bind, Option.bind_some]
      rfl

theorem readDatePart?_render (date : Date) (rest : List Char) :
    readDatePart? 10 (renderDate date ++ rest) =
      some (.calendar date.year date.month date.day) := by
  have inYear := date.yearInRange
  have inMonth := date.monthInRange
  have inDay : date.day < 100 := by
    have last := date.dayInRange.2
    have bound := monthLength_le date.year date.month
    omega
  have year := takeDigits?_paddedDigits 4 (show date.year < 10 ^ 4 by omega)
    ('-' :: (paddedDigits 2 date.month ++ '-' :: (paddedDigits 2 date.day ++ rest)))
  have month := takeDigits?_paddedDigits 2 (show date.month < 10 ^ 2 by omega)
    ('-' :: (paddedDigits 2 date.day ++ rest))
  have day := takeDigits?_paddedDigits 2 (show date.day < 10 ^ 2 from inDay) rest
  rw [renderDate]
  simp only [List.append_assoc, List.cons_append]
  unfold readDatePart?
  simp only [year, Option.bind_eq_bind, Option.bind_some, List.head?_cons, List.drop_succ_cons,
    List.drop_zero, beq_self_eq_true, if_true]
  split
  · rename_i afterMark same
    obtain ⟨c, more, spelled⟩ : ∃ c more, paddedDigits 2 date.month = c :: more :=
      List.exists_cons_of_length_eq_add_one (length_paddedDigits 2 date.month)
    have digit := digits_paddedDigits 2 date.month c (spelled ▸ List.mem_cons_self)
    rw [spelled] at same
    rw [(List.cons.inj same).1] at digit
    cases digit
  · simp only [month, skipDash?, day, Option.bind_some, if_true]
    rfl

theorem length_renderDate (date : Date) : (renderDate date).length = 10 := by
  simp [renderDate, length_paddedDigits]

theorem dateWidth_render (date : Date) (rest : List Char) :
    dateWidth (renderDate date ++ rest) = some 10 := by
  obtain ⟨a, b, c, d, year⟩ := List.length_eq_four.mp (length_paddedDigits 4 date.year)
  obtain ⟨e, f, month⟩ := List.length_eq_two.mp (length_paddedDigits 2 date.month)
  have digit := digits_paddedDigits 2 date.month e (month ▸ List.mem_cons_self)
  have noWeek : e ≠ 'W' := by
    rintro rfl
    cases digit
  have longer : (renderDate date ++ rest).length ≠ 7 := by
    rw [List.length_append, length_renderDate]
    omega
  have dash : (renderDate date ++ rest)[4]? = some '-' := by
    simp [renderDate, year]
  have behind : (renderDate date ++ rest)[5]? = some e := by
    simp [renderDate, year, month]
  have dayless : (renderDate date ++ rest)[5]? ≠ some 'W' := by
    rw [behind]
    exact fun same => noWeek (Option.some.inj same)
  rw [dateWidth, if_neg longer, if_pos dash, if_neg dayless]

theorem readParts?_render (m : Moment) : readParts? m.render.toList =
    some (.calendar m.date.year m.date.month m.date.day, m.time.written,
      m.offset.map (·.asRead.span)) := by
  have text : m.render.toList =
      renderDate m.date ++ 'T' :: (renderTime m.time ++ m.offset.elim [] renderOffset) := by
    simp [Moment.render, Moment.renderWith]
  have long : ¬ (renderDate m.date ++
      'T' :: (renderTime m.time ++ m.offset.elim [] renderOffset)).length < 7 := by
    rw [List.length_append, length_renderDate]
    omega
  have inside : 10 < (renderDate m.date ++
      'T' :: (renderTime m.time ++ m.offset.elim [] renderOffset)).length := by
    rw [List.length_append, length_renderDate, List.length_cons]
    omega
  have behind : (renderDate m.date ++
      'T' :: (renderTime m.time ++ m.offset.elim [] renderOffset)).drop 11 =
      renderTime m.time ++ m.offset.elim [] renderOffset := by
    rw [List.append_cons]
    exact List.drop_left' (by rw [List.length_append, length_renderDate]; rfl)
  rw [text, readParts?, if_neg long, dateWidth_render, Option.bind_eq_bind, Option.bind_some]
  simp only [readDatePart?_render, Option.bind_eq_bind, Option.bind_some, inside, if_true, behind,
    readClock?_render]
  rfl

/-- A moment is read as itself, but for an offset that is read as none. -/
theorem Moment.read_render (m : Moment) : Moment.read m.render = .ok m.asRead := by
  obtain ⟨date, time, offset⟩ := m
  have day : WrittenDate.toDate (.calendar date.year date.month date.day) = .ok date := by
    rw [WrittenDate.toDate, Date.of_parts]
    rfl
  have clock : time.written.toTimeOfDay = .ok time := by
    simp [WrittenTime.toTimeOfDay, TimeOfDay.written, TimeOfDay.of, time.hoursInRange,
      time.minutesInRange, time.secondsInRange, time.microsInRange, Except.mapError]
  have zone : (offset.map (·.asRead.span)).mapM Offset.of = .ok (offset.map Offset.asRead) := by
    cases offset with
    | none => rfl
    | some offset =>
        have read : Offset.of offset.asRead.span = .ok offset.asRead := dif_pos offset.asRead.inRange
        change (Offset.of offset.asRead.span >>= fun found => pure (some found)) = _
        rw [read]
        rfl
  rw [Moment.read, readParts?_render]
  simp only [zone, day, clock, bind, Except.bind]
  rfl

/-- No offset, the one of universal time, or one of at least a second. -/
def Moment.Kept (m : Moment) : Prop :=
  ∀ offset, m.offset = some offset → offset.span = 0 ∨ 1000000 ≤ offset.span.natAbs

theorem Moment.asRead_eq_self_iff (m : Moment) : m.asRead = m ↔ m.Kept := by
  obtain ⟨date, time, offset⟩ := m
  cases offset with
  | none => exact ⟨fun _ _ absent => (nomatch absent), fun _ => rfl⟩
  | some offset =>
      have same : Moment.asRead ⟨date, time, some offset⟩ = ⟨date, time, some offset⟩ ↔
          offset.asRead = offset := by
        simp [Moment.asRead]
      have kept : Moment.Kept ⟨date, time, some offset⟩ ↔
          offset.span = 0 ∨ 1000000 ≤ offset.span.natAbs := by
        simp [Moment.Kept]
      rw [same, kept]
      unfold Offset.asRead
      split
      · rename_i small
        constructor
        · rintro rfl
          exact .inl rfl
        · rintro (nought | large)
          · obtain ⟨span, inRange⟩ := offset
            cases nought
            rfl
          · omega
      · rename_i large
        exact ⟨fun _ => .inr (Nat.not_lt.mp large), fun _ => rfl⟩

theorem Moment.read_render_iff (m : Moment) : Moment.read m.render = .ok m ↔ m.Kept := by
  rw [m.read_render, Except.ok.injEq, m.asRead_eq_self_iff]

theorem kept_offsetSpan (negative : Bool) (time : WrittenTime) :
    offsetSpan negative time = 0 ∨ 1000000 ≤ (offsetSpan negative time).natAbs := by
  obtain ⟨hours, minutes, seconds, micros⟩ := time
  have span : WrittenTime.span ⟨hours, minutes, seconds, micros⟩ =
      ((hours * 3600000000 + minutes * 60000000 + seconds * 1000000 + micros : Nat) : Int) := by
    push_cast
    rfl
  unfold offsetSpan
  split
  · exact .inl rfl
  · rename_i some_there
    simp only [Bool.and_eq_true, decide_eq_true_eq] at some_there
    right
    rw [span]
    split
    · rw [Int.natAbs_neg, Int.natAbs_natCast]
      omega
    · rw [Int.natAbs_natCast]
      omega

theorem kept_readClock? {time : WrittenTime} {span : Span}
    (read : readClock? cs = some (time, some span)) : span = 0 ∨ 1000000 ≤ span.natAbs := by
  unfold readClock? at read
  split at read
  · simp only [Option.bind_eq_bind, Option.bind_eq_some_iff] at read
    obtain ⟨_, _, read⟩ := read
    split at read <;> cases read
  · simp only [Option.bind_eq_bind, Option.bind_eq_some_iff] at read
    obtain ⟨_, _, read⟩ := read
    split at read
    · split at read
      · cases read
        exact .inl rfl
      · cases read
    · simp only [Option.bind_eq_some_iff] at read
      obtain ⟨_, _, read⟩ := read
      split at read
      · cases read
      · cases read
        exact kept_offsetSpan _ _

/-- An offset that was read is kept. -/
theorem Moment.kept_of_read {text : String} {m : Moment} (read : Moment.read text = .ok m) :
    m.Kept := by
  unfold Moment.read at read
  split at read
  · cases read
  · rename_i date time span parts
    have kept : ∀ found, span = some found → found = 0 ∨ 1000000 ≤ found.natAbs := by
      rintro found rfl
      unfold readParts? at parts
      split at parts
      · cases parts
      · simp only [Option.bind_eq_bind, Option.bind_eq_some_iff] at parts
        obtain ⟨_, _, _, _, parts⟩ := parts
        split at parts
        · simp only [Option.bind_eq_some_iff] at parts
          obtain ⟨⟨time, offset⟩, clock, parts⟩ := parts
          cases parts
          exact kept_readClock? clock
        · cases parts
    obtain ⟨zone, made, read⟩ := Compile.bind_eq_ok read
    obtain ⟨day, _, read⟩ := Compile.bind_eq_ok read
    obtain ⟨clock, _, read⟩ := Compile.bind_eq_ok read
    cases read
    rintro offset rfl
    cases span with
    | none => cases made
    | some span =>
        have made : (Offset.of span >>= fun found => .ok (some found)) = .ok (some offset) :=
          made
        obtain ⟨found, inside, same⟩ := Compile.bind_eq_ok made
        cases same
        unfold Offset.of at inside
        split at inside
        · cases inside
          exact kept span rfl
        · cases inside

end CheckKeeper.Calendar
