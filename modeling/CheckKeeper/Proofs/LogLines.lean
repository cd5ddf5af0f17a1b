import CheckKeeper.Log.Basic
import CheckKeeper.Proofs.JobNames
import CheckKeeper.Proofs.JobRecords

namespace CheckKeeper

/-! Lines of the structured log cannot be forged.

Whatever an entry says, its line consists of plain characters, so that it ends nowhere but at its
end, and it is read back as the one record that the entry stands for.
-/

namespace Json

open Number (Digits Numeral)

/-- A character of ASCII that is no control character. -/
def isPlain (c : Char) : Bool :=
  ' ' ≤ c && c ≤ '~'

def Plain (cs : List Char) : Prop :=
  ∀ c ∈ cs, isPlain c = true

/-- Styles that write a value on one line. -/
def Style.IsOneLine (style : Style) : Prop :=
  style.indent = none

variable {cs more : List Char} {depth level : Nat} {v : Value} {texts : List (List Char)}
  {style : Style} {text : String}

theorem plain_of_all (all : cs.all isPlain = true) : Plain cs :=
  List.all_eq_true.mp all

theorem Plain.append (first : Plain cs) (second : Plain more) : Plain (cs ++ more) :=
  List.forall_mem_append.mpr ⟨first, second⟩

theorem plain_ite {p : Prop} [Decidable p] (first : Plain cs) (second : Plain more) :
    Plain (if p then cs else more) := by
  split
  · exact first
  · exact second

theorem plain_of_isHexDigit (hex : ∀ c ∈ cs, Job.isHexDigit c = true) : Plain cs := by
  have low : ' ' ≤ '0' := by decide
  have between : ' ' ≤ 'a' := by decide
  have middle : '9' ≤ '~' := by decide
  have high : 'f' ≤ '~' := by decide
  intro c member
  have digit := hex c member
  simp only [Job.isHexDigit, isPlain, Bool.or_eq_true, Bool.and_eq_true, decide_eq_true_eq]
    at digit ⊢
  rcases digit with ⟨least, most⟩ | ⟨least, most⟩
  · exact ⟨Char.le_trans low least, Char.le_trans most middle⟩
  · exact ⟨Char.le_trans between least, Char.le_trans most high⟩

theorem plain_of_digits (digits : Digits cs) : Plain cs :=
  plain_of_isHexDigit fun c member => by
    rw [Job.isHexDigit, Bool.or_eq_true]
    exact .inl (digits c member)

theorem plain_unitEscape (unit : Nat) : Plain (unitEscape unit) := by
  have digits : Plain (Text.hexDigits 4 unit) :=
    plain_of_isHexDigit fun _ member => Job.isHexDigit_of_mem_hexDigits member
  exact (plain_of_all rfl : Plain ['\\', 'u']).append digits

/-- Whatever a character is, it is written by plain ones. -/
theorem plain_escapeChar (c : Char) : Plain (escapeChar c) := by
  have marked (letter : Char) (plain : isPlain letter = true) : Plain ['\\', letter] :=
    List.forall_mem_cons.mpr ⟨rfl, List.forall_mem_singleton.mpr plain⟩
  unfold escapeChar
  refine plain_ite (marked _ rfl) (plain_ite (marked _ rfl) (plain_ite (marked _ rfl)
    (plain_ite (marked _ rfl) (plain_ite (marked _ rfl) (plain_ite (marked _ rfl)
      (plain_ite (marked _ rfl) ?_))))))
  split
  · rename_i kept
    exact List.forall_mem_singleton.mpr kept
  · exact plain_ite (plain_unitEscape _) ((plain_unitEscape _).append (plain_unitEscape _))

theorem plain_writeText (content : String) : Plain (writeText content).toList := by
  have quote : Plain ['"'] := plain_of_all rfl
  have inside : Plain (content.toList.flatMap escapeChar) := by
    intro d member
    obtain ⟨c, _, escaped⟩ := List.mem_flatMap.mp member
    exact plain_escapeChar c d escaped
  rw [writeText, String.toList_ofList]
  exact (quote.append inside).append quote

theorem plain_numeral (n : Numeral) : Plain n.text := by
  refine ((plain_of_digits n.wholeDigits).append ?_).append ?_
  · exact plain_ite (plain_of_all rfl)
      ((plain_of_all rfl : Plain ['.']).append (plain_of_digits n.placesDigits))
  · cases n.power with
    | none => exact plain_of_all rfl
    | some exponent =>
        have sign : Plain ['e', if exponent < 0 then '-' else '+'] := by
          split <;> exact plain_of_all rfl
        exact sign.append (plain_of_digits (Number.digits_powerDigits exponent))

theorem plain_renderInt (number : Int) : Plain (Number.renderInt number).toList := by
  rw [toList_renderInt]
  exact (plain_ite (plain_of_all rfl) (plain_of_all rfl)).append
    (plain_of_digits (Number.digits_toDigits _))

theorem plain_writeFloat (x : Float) : Plain (writeFloat x).toList := by
  have sign : Plain (if Number.isNegative x then "-" else "").toList := by
    split <;> exact plain_of_all rfl
  unfold writeFloat Number.renderWith
  split
  · exact plain_of_all rfl
  · dsimp only
    split
    · rw [String.toList_append]
      exact sign.append (plain_of_all rfl)
    · obtain ⟨n, text, _, _⟩ :=
        Number.exists_numeral_of_decimal (Number.shortest (Number.magnitudeCode x))
      rw [String.toList_append, ← text, String.toList_ofList]
      exact sign.append (plain_numeral n)

theorem Style.IsOneLine.enclose (one : style.IsOneLine) (level : Nat) (opening closing : String)
    (written : List String) : enclose style level opening closing written =
      Json.enclose .strict level opening closing written := by
  unfold Json.enclose
  rw [one]
  rfl

theorem plain_intercalate (all : ∀ cs ∈ texts, Plain cs) : Plain ([',', ' '].intercalate texts) := by
  induction texts with
  | nil => exact plain_of_all rfl
  | cons first others ih =>
      obtain ⟨plain, later⟩ := List.forall_mem_cons.mp all
      cases others with
      | nil =>
          rw [List.intercalate_singleton]
          exact plain
      | cons second others =>
          rw [List.intercalate_cons_cons]
          exact (plain.append (plain_of_all rfl)).append (ih later)

theorem plain_enclose {opening closing : String} {written : List String}
    (opens : Plain opening.toList) (closes : Plain closing.toList)
    (all : ∀ text ∈ written, Plain text.toList) (level : Nat) :
    Plain (enclose .strict level opening closing written).toList := by
  rw [toList_enclose]
  refine opens.append (Plain.append (plain_intercalate ?_) closes)
  intro cs member
  obtain ⟨text, inside, rfl⟩ := List.mem_map.mp member
  exact all text inside

/-- The value is written in plain characters, and in the same ones by all styles that write it on
one line. -/
def IsWritten (level : Nat) (v : Value) (text : String) : Prop :=
  Plain text.toList ∧ ∀ style : Style, style.IsOneLine → writeAt style level v = .ok text

theorem writeItems_of_isWritten {items : List Value}
    (each : ∀ item ∈ items, ∃ text, IsWritten level item text) :
    ∃ written, (∀ text ∈ written, Plain text.toList) ∧
      ∀ style : Style, style.IsOneLine → writeItems style level items = .ok written := by
  induction items with
  | nil => exact ⟨[], List.forall_mem_nil _, fun _ _ => rfl⟩
  | cons item items ih =>
      obtain ⟨first, others⟩ := List.forall_mem_cons.mp each
      obtain ⟨text, plain, made⟩ := first
      obtain ⟨written, all, rest⟩ := ih others
      refine ⟨text :: written, List.forall_mem_cons.mpr ⟨plain, all⟩, fun style one => ?_⟩
      simp only [writeItems, made style one, rest style one, bind, Except.bind]
      rfl

theorem writeFields_of_isWritten {fields : List (String × Value)}
    (each : ∀ field ∈ fields, ∃ text, IsWritten level field.2 text) :
    ∃ written, (∀ text ∈ written, Plain text.toList) ∧
      ∀ style : Style, style.IsOneLine →
        writeFields style level (fields.map fun (name, value) => (.text name, value)) =
          .ok written := by
  induction fields with
  | nil => exact ⟨[], List.forall_mem_nil _, fun _ _ => rfl⟩
  | cons field fields ih =>
      obtain ⟨first, others⟩ := List.forall_mem_cons.mp each
      obtain ⟨text, plain, made⟩ := first
      obtain ⟨written, all, rest⟩ := ih others
      refine ⟨(writeText field.1 ++ ": " ++ text) :: written,
        List.forall_mem_cons.mpr ⟨?_, all⟩, fun style one => ?_⟩
      · rw [String.toList_append, String.toList_append]
        exact ((plain_writeText _).append (plain_of_all rfl)).append plain
      · simp only [List.map_cons, writeFields, fieldName, made style one, rest style one, bind,
          Except.bind]
        rfl

/-- What JSON knows is written in plain characters. -/
theorem Legible.exists_isWritten (legible : Legible depth v) (level : Nat) :
    ∃ text, IsWritten level v text := by
  induction legible generalizing level with
  | null => exact ⟨"null", plain_of_all rfl, fun _ _ => rfl⟩
  | bool flag =>
      cases flag
      · exact ⟨"false", plain_of_all rfl, fun _ _ => rfl⟩
      · exact ⟨"true", plain_of_all rfl, fun _ _ => rfl⟩
  | int short => exact ⟨_, plain_renderInt _, fun _ _ => rfl⟩
  | float number => exact ⟨_, plain_writeFloat number, fun _ _ => rfl⟩
  | text content => exact ⟨_, plain_writeText content, fun _ _ => rfl⟩
  | @list depth items each ih =>
      obtain ⟨written, all, made⟩ :=
        writeItems_of_isWritten fun item member => ih item member (level + 1)
      refine ⟨enclose .strict level "[" "]" written,
        plain_enclose (plain_of_all rfl) (plain_of_all rfl) all level, fun style one => ?_⟩
      simp only [writeAt, made style one, one.enclose, bind, Except.bind]
      rfl
  | @record depth fields each distinct ih =>
      obtain ⟨written, all, made⟩ :=
        writeFields_of_isWritten fun field member => ih field member (level + 1)
      refine ⟨enclose .strict level "\x7b" "\x7d" written,
        plain_enclose (plain_of_all rfl) (plain_of_all rfl) all level, fun style one => ?_⟩
      simp only [Value.ofFields, writeAt, made style one, one.enclose, bind, Except.bind]
      rfl

/-- What JSON knows is written on one line of plain characters, and read as itself from it. -/
theorem Legible.exists_line (legible : Legible depthLimit v) (one : style.IsOneLine) :
    ∃ line, dump style v = .ok line ∧ Plain line.toList ∧ read line = .ok v := by
  obtain ⟨text, made, _, again⟩ := legible.exists_dump
  obtain ⟨line, plain, written⟩ := legible.exists_isWritten 0
  have dumped {style : Style} (one : style.IsOneLine) : dump style v = .ok line := by
    rw [dump, legible.within, write, written style one]
    rfl
  obtain rfl : text = line := Except.ok.inj (made.symm.trans (dumped rfl))
  exact ⟨text, dumped one, plain, again⟩

end Json

theorem Row.find?_ofCells (cells : List (String × Value)) (name : String) :
    Row.find? (Row.ofCells cells) name = cells.lookup name := by
  induction cells with
  | nil => rfl
  | cons cell cells ih =>
      obtain ⟨own, value⟩ := cell
      have named : Row.named name (.text own) = (name == own) := BEq.comm
      rw [Row.ofCells, List.map_cons, Row.find?_cons, List.lookup_cons, named]
      change (if _ then _ else Row.find? (Row.ofCells cells) name) = _
      rw [ih]
      cases name == own <;> rfl

namespace Log

/-- The names that the fields of a structured line have. -/
def fieldNames : List String :=
  ["timestamp", "level", "logger", "message", "check_id", "action", "job_name", "exception"]

/-- The details of some names, as far as there are any. -/
def carried (details : List (String × Value)) (names : List String) : List (String × Value) :=
  names.filterMap fun name => (details.lookup name).map fun value => (name, value)

theorem lookup_carried (details : List (String × Value)) (names : List String) (name : String) :
    (carried details names).lookup name = if name ∈ names then details.lookup name else none := by
  unfold carried
  induction names with
  | nil => rfl
  | cons first others ih =>
      by_cases same : name = first
      · subst same
        cases found : details.lookup name with
        | none => simp [found, ih]
        | some value => simp [found]
      · have apart : (name == first) = false := beq_eq_false_iff_ne.mpr same
        cases found : details.lookup first with
        | none => simp [found, ih, same]
        | some value => simp [found, ih, same, List.lookup_cons, apart]

theorem names_carried_sublist (details : List (String × Value)) (names : List String) :
    ((carried details names).map (·.1)).Sublist names := by
  unfold carried
  induction names with
  | nil => exact List.Sublist.refl _
  | cons first others ih =>
      cases found : details.lookup first with
      | none =>
          rw [List.filterMap_cons_none (by rw [found]; rfl)]
          exact ih.cons first
      | some value =>
          rw [List.filterMap_cons_some (by rw [found]; rfl), List.map_cons]
          exact ih.cons_cons first

namespace Entry

open Calendar

variable {level name : String} {now : Moment} {entry : Entry} {value : Value}

/-- All that a structured line shows. -/
def shown (level : String) (now : Moment) (entry : Entry) : List (String × Value) :=
  [("timestamp", .text (timestamp now)), ("level", .text level), ("logger", .text entry.logger),
    ("message", .text entry.message)] ++
    carried entry.details ["check_id", "action", "job_name"] ++
    (entry.failure.map fun failure => ("exception", .text (describe failure))).toList

/-- A line has no field but those of the known names, and none of them twice. -/
theorem names_shown_sublist (level : String) (now : Moment) (entry : Entry) :
    ((entry.shown level now).map (·.1)).Sublist fieldNames := by
  have failure : ((entry.failure.map fun failure =>
      ("exception", Value.text (describe failure))).toList.map (·.1)).Sublist ["exception"] := by
    cases entry.failure with
    | none => exact List.nil_sublist _
    | some failure => exact List.Sublist.refl _
  simp only [shown, List.map_append]
  exact ((List.Sublist.refl _).append (names_carried_sublist _ _)).append failure

theorem lookup_shown_detail (listed : name ∈ ["check_id", "action", "job_name"]) :
    (entry.shown level now).lookup name = entry.details.lookup name := by
  have first : List.lookup name [("timestamp", Value.text (timestamp now)), ("level", .text level),
      ("logger", .text entry.logger), ("message", .text entry.message)] = none := by
    simp only [List.mem_cons, List.not_mem_nil, or_false] at listed
    rcases listed with rfl | rfl | rfl <;> rfl
  have last : (entry.failure.map fun failure =>
      ("exception", Value.text (describe failure))).toList.lookup name = none := by
    simp only [List.mem_cons, List.not_mem_nil, or_false] at listed
    cases entry.failure with
    | none => rfl
    | some failure => rcases listed with rfl | rfl | rfl <;> rfl
  rw [shown, List.lookup_append, List.lookup_append, first, last, lookup_carried, if_pos listed,
    Option.none_or, Option.or_none]

theorem lookup_shown_exception : (entry.shown level now).lookup "exception" =
    entry.failure.map fun failure => .text (describe failure) := by
  rw [shown, List.lookup_append, List.lookup_append, lookup_carried, if_neg (by decide),
    Option.or_none]
  cases entry.failure <;> rfl

/-- If the details of an entry are known to JSON, so is all that its line shows. -/
theorem legible_shown (level : String) (now : Moment)
    (known : ∀ name ∈ ["check_id", "action", "job_name"], ∀ value,
      entry.details.lookup name = some value → Json.Legible (Json.depthLimit - 1) value) :
    Json.Legible Json.depthLimit (.ofFields (entry.shown level now)) := by
  refine .record ?_ ((names_shown_sublist level now entry).nodup (by decide))
  intro field member
  rcases List.mem_append.mp member with member | failure
  · rcases List.mem_append.mp member with first | detail
    · simp only [List.mem_cons, List.not_mem_nil, or_false] at first
      rcases first with rfl | rfl | rfl | rfl <;> exact .text _
    · obtain ⟨name, listed, found⟩ := List.mem_filterMap.mp detail
      obtain ⟨value, there, rfl⟩ := Option.map_eq_some_iff.mp found
      exact known name listed value there
  · rw [Option.mem_toList, Option.map_eq_some_iff] at failure
    obtain ⟨_, _, rfl⟩ := failure
    exact .text _

/-- A structured line is one line of plain characters and is read back as one record, which has
just what the entry says: its level, logger and message, the details that it has, the time, and
its failure if there is one.  The details may be texts or whatever else JSON knows. -/
theorem structuredLine_unforgeable (level : String) (now : Moment) (entry : Entry)
    (known : ∀ name ∈ ["check_id", "action", "job_name"], ∀ value,
      entry.details.lookup name = some value → Json.Legible (Json.depthLimit - 1) value) :
    ∃ line row, entry.structuredLineAs level now = .ok line ∧
      (∀ c ∈ line.toList, ' ' ≤ c ∧ c ≤ '~') ∧
      Json.read line = .ok (.record row) ∧
      Row.find? row "level" = some (.text level) ∧
      Row.find? row "logger" = some (.text entry.logger) ∧
      Row.find? row "message" = some (.text entry.message) ∧
      (∀ name ∈ ["check_id", "action", "job_name"],
        Row.find? row name = entry.details.lookup name) ∧
      Row.find? row "timestamp" = some (.text (timestamp now)) ∧
      (Row.find? row "exception" = entry.failure.map fun failure => .text (describe failure)) ∧
      (row.map (·.1)).Nodup ∧
      ∀ field ∈ row, ∃ name ∈ fieldNames, field.1 = .text name := by
  have one : Json.Style.lenient.IsOneLine := rfl
  obtain ⟨line, made, plain, again⟩ := (legible_shown level now known).exists_line one
  have names := names_shown_sublist level now entry
  refine ⟨line, Row.ofCells (entry.shown level now), made, ?_, again, ?_, ?_, ?_, ?_, ?_, ?_, ?_, ?_⟩
  · intro c member
    simpa [Json.isPlain] using plain c member
  · rw [Row.find?_ofCells]
    rfl
  · rw [Row.find?_ofCells]
    rfl
  · rw [Row.find?_ofCells]
    rfl
  · intro name listed
    rw [Row.find?_ofCells, lookup_shown_detail listed]
  · rw [Row.find?_ofCells]
    rfl
  · rw [Row.find?_ofCells, lookup_shown_exception]
  · have keys : (Row.ofCells (entry.shown level now)).map (·.1) =
        ((entry.shown level now).map (·.1)).map Value.text := by
      simp [Row.ofCells]
    rw [keys]
    exact (names.nodup (by decide)).map fun _ _ same => Value.text.inj same
  · intro field member
    obtain ⟨cell, inside, rfl⟩ := List.mem_map.mp member
    exact ⟨cell.1, names.mem (List.mem_map_of_mem inside), rfl⟩

/-- An entry that tries to pass for two, by what it says and by the id that it names. -/
def forgery : Entry where
  logger := "dqsync.reconciler"
  level := LogLevel.info.number
  message := "done\"\x7d\n\x7b\"level\": \"ERROR\", \"message\": \"\u2028😀\\"
  details := [("check_id", .text "orders\", \"action\": \"created\r\n\t"), ("attempt", .int 2),
    ("action", .text "failed")]
  failure := some (.store "first line\nsecond line")

theorem forgery_unforgeable :
    (∀ name ∈ ["check_id", "action", "job_name"], ∀ value,
      forgery.details.lookup name = some value → Json.Legible (Json.depthLimit - 1) value) ∧
    ∃ line row, forgery.structuredLineAs "INFO" .earliest = .ok line ∧
      (∀ c ∈ line.toList, ' ' ≤ c ∧ c ≤ '~') ∧
      Json.read line = .ok (.record row) ∧
      Row.find? row "level" = some (.text "INFO") ∧
      Row.find? row "logger" = some (.text "dqsync.reconciler") ∧
      Row.find? row "message" =
        some (.text "done\"\x7d\n\x7b\"level\": \"ERROR\", \"message\": \"\u2028😀\\") ∧
      Row.find? row "check_id" = some (.text "orders\", \"action\": \"created\r\n\t") ∧
      Row.find? row "action" = some (.text "failed") ∧
      Row.find? row "job_name" = none ∧
      Row.find? row "timestamp" = some (.text (timestamp .earliest)) ∧
      Row.find? row "exception" =
        some (.text "dqsync.errors.StoreFailure: first line\nsecond line") ∧
      (row.map (·.1)).Nodup ∧
      ∀ field ∈ row, ∃ name ∈ fieldNames, field.1 = .text name := by
  have known : ∀ name ∈ ["check_id", "action", "job_name"], ∀ value,
      forgery.details.lookup name = some value →
        Json.Legible (Json.depthLimit - 1) value := by
    intro name listed value found
    simp only [List.mem_cons, List.not_mem_nil, or_false] at listed
    rcases listed with rfl | rfl | rfl
    · cases found
      exact .text _
    · cases found
      exact .text _
    · cases found
  obtain ⟨line, row, made, plain, again, level, logger, message, details, told, failed, distinct,
    names⟩ := structuredLine_unforgeable "INFO" .earliest forgery known
  refine ⟨known, line, row, made, plain, again, level, logger, message, ?_, ?_, ?_, told, ?_,
    distinct, names⟩
  · exact details "check_id" (by decide)
  · exact details "action" (by decide)
  · exact details "job_name" (by decide)
  · exact failed

end Entry

end Log

end CheckKeeper
