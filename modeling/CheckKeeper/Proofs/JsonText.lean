import CheckKeeper.Json.Writer
import CheckKeeper.Proofs.Bits
import CheckKeeper.Proofs.JobNames
import CheckKeeper.Proofs.Numerals

namespace CheckKeeper.Json

/-! Values written as JSON text and read again.

A value that JSON knows is read as itself from the text that it is written as: the reader takes
just that text, whatever mark of a list or a record comes behind it.
-/

variable {c : Char} {cs rest : List Char} {v : Value}

theorem hexValue?_hexDigit : ∀ n < 16, hexValue? (Text.hexDigit n) = some n := by
  decide

theorem readUnit?_hexDigits {unit : Nat} (small : unit < 0x10000) (rest : List Char) :
    readUnit? (Text.hexDigits 4 unit ++ rest) = some (unit, rest) := by
  have digit (n : Nat) : hexValue? (Text.hexDigit (n % 16)) = some (n % 16) :=
    hexValue?_hexDigit _ (Nat.mod_lt n (by decide))
  have whole : ((unit / 16 / 16 / 16 % 16 * 16 + unit / 16 / 16 % 16) * 16 + unit / 16 % 16) * 16 +
      unit % 16 = unit := by
    omega
  simp only [Text.hexDigits, List.nil_append, List.cons_append, readUnit?, digit,
    Option.bind_eq_bind, Option.bind_some, whole]
  rfl

theorem toNat_isUnit (c : Char) : c.toNat < 0xd800 ∨ 0xdfff < c.toNat ∧ c.toNat < 0x110000 :=
  c.valid

theorem readEscapedUnit?_single (small : c.toNat < 0x10000) (rest : List Char) :
    readEscapedUnit? (Text.hexDigits 4 c.toNat ++ rest) = some (c, rest) := by
  have character := toNat_isUnit c
  have high : isHighSurrogate c.toNat = false := by
    simp only [isHighSurrogate, Bool.and_eq_false_iff, decide_eq_false_iff_not]
    omega
  have low : isLowSurrogate c.toNat = false := by
    simp only [isLowSurrogate, Bool.and_eq_false_iff, decide_eq_false_iff_not]
    omega
  simp only [readEscapedUnit?, readUnit?_hexDigits small, Option.bind_eq_bind, Option.bind_some, high,
    charOfUnit, low, Bool.or_self, Bool.false_eq_true, if_false, Char.ofNat_toNat]
  rfl

theorem exists_surrogates {code : Nat} (large : 0x10000 ≤ code) (small : code < 0x110000) :
    ∃ high low, surrogates code = (high, low) ∧ isHighSurrogate high = true ∧
      isLowSurrogate low = true ∧ high < 0x10000 ∧ low < 0x10000 ∧
      0x10000 + (high - 0xd800) * 0x400 + (low - 0xdc00) = code := by
  refine ⟨_, _, rfl, ?_, ?_, ?_, ?_, ?_⟩
  · rw [isHighSurrogate, Bool.and_eq_true, decide_eq_true_eq, decide_eq_true_eq]
    omega
  · rw [isLowSurrogate, Bool.and_eq_true, decide_eq_true_eq, decide_eq_true_eq]
    omega
  · omega
  · omega
  · omega

theorem readEscapedUnit?_pair (large : 0x10000 ≤ c.toNat) (rest : List Char) :
    readEscapedUnit? (Text.hexDigits 4 (surrogates c.toNat).1 ++
      (unitEscape (surrogates c.toNat).2 ++ rest)) = some (c, rest) := by
  obtain ⟨high, low, pair, isHigh, isLow, highSmall, lowSmall, whole⟩ :=
    exists_surrogates large (by have := toNat_isUnit c; omega)
  have half : readLowHalf? (unitEscape low ++ rest) = some (low, rest) := by
    rw [unitEscape, List.cons_append, List.cons_append, readLowHalf?, readUnit?_hexDigits lowSmall]
    exact if_pos isLow
  simp only [pair, readEscapedUnit?, readUnit?_hexDigits highSmall, Option.bind_eq_bind,
    Option.bind_some, isHigh, half, whole, Char.ofNat_toNat, if_true]
  rfl

/-- What a character is written as is read as the character. -/
theorem readTextStep?_escapeChar (c : Char) (rest : List Char) :
    readTextStep? (escapeChar c ++ rest) = some (some c, rest) := by
  unfold escapeChar
  -- The seven characters that have a letter of their own.
  iterate 7
    split
    · rename_i same
      rw [same]
      rfl
  rename_i quote backslash _ _ _ _ _
  split
  · rename_i plain
    rw [Bool.and_eq_true, decide_eq_true_eq] at plain
    have visible : ¬ c.toNat < 0x20 := Nat.not_lt.mpr plain.1
    rw [List.singleton_append]
    unfold readTextStep?
    split
    all_goals simp_all
  split
  · rename_i small
    have read := readEscapedUnit?_single small rest
    simp only [unitEscape, List.cons_append, readTextStep?, read, Option.map_some]
  · rename_i large
    have read := readEscapedUnit?_pair (Nat.not_lt.mp large) rest
    simp only [unitEscape, List.cons_append] at read
    simp only [unitEscape, List.cons_append, List.append_assoc, readTextStep?, read, Option.map_some]

theorem escapeChar_ne_nil (c : Char) : escapeChar c ≠ [] := by
  intro none
  have read := readTextStep?_escapeChar c []
  rw [none] at read
  cases read

theorem length_le_escaped (cs : List Char) : cs.length ≤ (cs.flatMap escapeChar).length := by
  induction cs with
  | nil => exact Nat.le_refl 0
  | cons c cs ih =>
      have given := List.length_pos_iff.mpr (escapeChar_ne_nil c)
      rw [List.flatMap_cons, List.length_append, List.length_cons]
      omega

theorem readText?_escaped {steps : Nat} (enough : cs.length < steps) (rest : List Char) :
    readText? steps (cs.flatMap escapeChar ++ '"' :: rest) = some (cs, rest) := by
  induction cs generalizing steps with
  | nil =>
      obtain ⟨steps, rfl⟩ := Nat.exists_eq_add_one.mpr enough
      rfl
  | cons c cs ih =>
      obtain ⟨steps, rfl⟩ := Nat.exists_eq_add_one.mpr (Nat.zero_lt_of_lt enough)
      have more := ih (Nat.lt_of_succ_lt_succ enough)
      rw [List.flatMap_cons, List.append_assoc, readText?, readTextStep?_escapeChar]
      simp only [more, Option.map_some]

theorem readTextAt_escaped (content : String) (rest : List Char) :
    readTextAt (content.toList.flatMap escapeChar ++ '"' :: rest) = .ok (content, rest) := by
  have enough : content.toList.length <
      (content.toList.flatMap escapeChar ++ '"' :: rest).length + 1 := by
    have longer := length_le_escaped content.toList
    rw [List.length_append]
    omega
  simp only [readTextAt, readText?_escaped enough, String.ofList_toList]

theorem writeChars_append (cs rest : List Char) :
    writeChars cs ++ rest = '"' :: (cs.flatMap escapeChar ++ '"' :: rest) := by
  simp [writeChars]

open Number (Numeral Digits Stops fractionText powerText)

/-- Behind a value the text ends, or a list or a record goes on. -/
def Ends (rest : List Char) : Prop :=
  ∀ c, rest.head? = some c → c = ',' ∨ c = ']' ∨ c = '\x7d'

theorem Ends.stops (ends : Ends rest) : Stops rest := by
  intro c first
  rcases ends c first with rfl | rfl | rfl <;> decide

theorem cutWhole_numeral (n : Numeral) (stops : Stops rest) :
    cutWhole (n.whole ++ rest) = (n.whole, rest) := by
  have digits := Number.takeWhile_digits n.wholeDigits stops
  have behind := Number.dropWhile_digits n.wholeDigits stops
  rcases n.plain with nought | other
  · rw [nought]
    rfl
  · obtain ⟨c, more, whole⟩ := List.exists_cons_of_ne_nil n.wholeGiven
    unfold cutWhole
    split
    · rename_i same
      rw [whole] at same other
      exact absurd (congrArg some (List.cons.inj same).1) other
    · rw [digits, behind]

theorem cutFraction_fractionText {places : List Char} (digits : Digits places) (stops : Stops rest)
    (pointless : rest.head? ≠ some '.') :
    cutFraction (fractionText places ++ rest) = (fractionText places, rest) := by
  rcases places with - | ⟨place, places⟩
  · change cutFraction rest = ([], rest)
    unfold cutFraction
    split
    · exact absurd rfl pointless
    · rfl
  · have taken := Number.takeWhile_digits digits stops
    have behind := Number.dropWhile_digits digits stops
    change cutFraction ('.' :: (place :: places ++ rest)) = _
    simp only [cutFraction, taken, behind]
    rfl

theorem cutExponent_powerText (power : Option Int) (ends : Ends rest) :
    cutExponent (powerText power ++ rest) = (powerText power, rest) := by
  cases power with
  | none =>
      change cutExponent rest = ([], rest)
      cases rest with
      | nil => rfl
      | cons mark rest =>
          have other : (decide (mark = 'e') || decide (mark = 'E')) = false := by
            rcases ends mark rfl with rfl | rfl | rfl <;> rfl
          simp only [cutExponent, other, Bool.false_and, Bool.false_eq_true, if_false]
  | some exponent =>
      have digits := Number.digits_powerDigits exponent
      have taken := Number.takeWhile_digits digits ends.stops
      have given : (Number.powerDigits exponent).isEmpty = false :=
        List.isEmpty_eq_false_iff.mpr (Number.powerDigits_ne_nil exponent)
      have signed : ∃ sign, (sign = '+' ∨ sign = '-') ∧
          Number.exponentText exponent = sign :: Number.powerDigits exponent := by
        rw [Number.exponentText_eq]
        split
        · exact ⟨'-', .inr rfl, rfl⟩
        · exact ⟨'+', .inl rfl, rfl⟩
      obtain ⟨sign, mark, spelled⟩ := signed
      have isSign : (some sign == some '+' || some sign == some '-') = true := by
        rcases mark with rfl | rfl <;> rfl
      simp only [powerText, Option.elim_some, spelled, List.cons_append, cutExponent,
        List.head?_cons, isSign, if_true, List.take_succ_cons, List.take_zero,
        List.length_singleton, List.drop_succ_cons, List.drop_zero, taken, given]
      simp [Nat.add_comm 1]

theorem head_powerText (power : Option Int) (ends : Ends rest) :
    (powerText power ++ rest).head? ≠ some '.' := by
  cases power with
  | none =>
      intro point
      rcases ends '.' point with same | same | same <;> cases same
  | some exponent => simp [powerText]

theorem stops_append (power : Option Int) (ends : Ends rest) : Stops (powerText power ++ rest) := by
  cases power with
  | none => exact ends.stops
  | some exponent =>
      intro c first
      cases first
      decide

theorem readNumber_numeral (n : Numeral) (fractional : n.places ≠ [] ∨ n.power.isSome = true)
    (negative : Bool) (ends : Ends rest) :
    readNumber negative (n.text ++ rest) =
      .ok (.float (Number.ofCode negative n.decimal.readCode), rest) := by
  have stops := stops_append n.power ends
  have whole := cutWhole_numeral n (Number.stops_fractionText n.places stops)
  have fraction := cutFraction_fractionText n.placesDigits stops (head_powerText n.power ends)
  have exponent := cutExponent_powerText n.power ends
  have given : n.whole.isEmpty = false := List.isEmpty_eq_false_iff.mpr n.wholeGiven
  have both : ((fractionText n.places).isEmpty && (powerText n.power).isEmpty) = false := by
    rcases fractional with places | power
    · obtain ⟨place, more, same⟩ := List.exists_cons_of_ne_nil places
      rw [same]
      rfl
    · obtain ⟨exponent, same⟩ := Option.isSome_iff_exists.mp power
      rw [same, Bool.and_eq_false_iff]
      exact .inr rfl
  have decimal := n.readDecimal?_text
  unfold Numeral.text at decimal ⊢
  simp only [List.append_assoc] at decimal ⊢
  simp only [readNumber, whole, fraction, exponent, given, both, Bool.false_eq_true, if_false,
    List.append_assoc, decimal]

/-- The digits of a number that is whole. -/
def wholeNumeral (number : Nat) : Numeral where
  whole := Nat.toDigits 10 number
  places := []
  power := none
  wholeDigits := Number.digits_toDigits number
  placesDigits := fun _ member => nomatch member
  wholeGiven := Nat.toDigits_ne_nil
  plain := by
    rcases Nat.eq_zero_or_pos number with rfl | positive
    · exact .inl rfl
    · exact .inr (Number.head_toDigits positive)

theorem readNumber_whole {number : Nat}
    (short : Number.decimalLength number ≤ Number.digitLimit) (negative : Bool) (ends : Ends rest) :
    readNumber negative (Nat.toDigits 10 number ++ rest) =
      .ok (.int (if negative then -(number : Int) else number), rest) := by
  have whole := cutWhole_numeral (wholeNumeral number) ends.stops
  have fraction : cutFraction (fractionText [] ++ rest) = (fractionText [], rest) :=
    cutFraction_fractionText (fun _ member => nomatch member) ends.stops (head_powerText none ends)
  have exponent := cutExponent_powerText none ends
  have given : (Nat.toDigits 10 number).isEmpty = false :=
    List.isEmpty_eq_false_iff.mpr Nat.toDigits_ne_nil
  change cutWhole (Nat.toDigits 10 number ++ rest) = (Nat.toDigits 10 number, rest) at whole
  change cutFraction rest = ([], rest) at fraction
  change cutExponent rest = ([], rest) at exponent
  simp only [readNumber, whole, fraction, exponent, given, Bool.false_eq_true, if_false,
    List.isEmpty_nil, Bool.and_self, if_true, Number.natOfDigits_toDigits]
  exact if_neg (Nat.not_lt.mpr short)

theorem readNamed?_cons (other : c ≠ 'n' ∧ c ≠ 't' ∧ c ≠ 'f' ∧ c ≠ 'N' ∧ c ≠ 'I' ∧ c ≠ '-') :
    readNamed? (c :: cs) = none := by
  obtain ⟨n, t, f, upper_n, upper_i, minus⟩ := other
  simp [readNamed?, namedValues, afterWord?, Ne.symm n, Ne.symm t, Ne.symm f,
    Ne.symm upper_n, Ne.symm upper_i, Ne.symm minus]

theorem readNamed?_minus (other : c ≠ 'I') : readNamed? ('-' :: c :: cs) = none := by
  simp [readNamed?, namedValues, afterWord?, Ne.symm other]

theorem readAtom_digits {digits : List Char} (all : Digits digits) (given : digits ≠ [])
    (rest : List Char) (negative : Bool) :
    readAtom ((if negative then ['-'] else []) ++ digits ++ rest) =
      readNumber negative (digits ++ rest) := by
  obtain ⟨c, more, rfl⟩ := List.exists_cons_of_ne_nil given
  have digit : Number.isDigit c = true := all c List.mem_cons_self
  have other (mark : Char) (foreign : Number.isDigit mark = false) : c ≠ mark := fun same =>
    Bool.false_ne_true (foreign.symm.trans (same ▸ digit))
  cases negative with
  | false =>
      have none : readNamed? (c :: (more ++ rest)) = none :=
        readNamed?_cons ⟨other _ rfl, other _ rfl, other _ rfl, other _ rfl, other _ rfl, other _ rfl⟩
      change readAtom (c :: (more ++ rest)) = readNumber false (c :: (more ++ rest))
      unfold readAtom
      rw [none]
      dsimp only
      split
      · rename_i same
        exact absurd (List.cons.inj same).1 (other '"' rfl)
      · rename_i same
        exact absurd (List.cons.inj same).1 (other '-' rfl)
      · rfl
  | true =>
      have none : readNamed? ('-' :: c :: (more ++ rest)) = none := readNamed?_minus (other _ rfl)
      change readAtom ('-' :: c :: (more ++ rest)) = readNumber true (c :: (more ++ rest))
      unfold readAtom
      rw [none]
      rfl

theorem toList_renderInt (number : Int) : (Number.renderInt number).toList =
    (if number < 0 then ['-'] else []) ++ Nat.toDigits 10 number.natAbs := by
  cases number with
  | ofNat n => simp [Number.renderInt]
  | negSucc n => simp [Number.renderInt, Int.negSucc_lt_zero]

theorem readAtom_renderInt {number : Int}
    (short : Number.decimalLength number.natAbs ≤ Number.digitLimit) (ends : Ends rest) :
    readAtom ((Number.renderInt number).toList ++ rest) = .ok (.int number, rest) := by
  have read := readAtom_digits (Number.digits_toDigits number.natAbs) Nat.toDigits_ne_nil rest
    (decide (number < 0))
  simp only [decide_eq_true_eq] at read
  have value : (if decide (number < 0) = true then -(number.natAbs : Int) else number.natAbs) =
      number := by
    simp only [decide_eq_true_eq]
    omega
  rw [toList_renderInt, read, readNumber_whole short _ ends, value]

theorem readAtom_numeral (n : Numeral) (fractional : n.places ≠ [] ∨ n.power.isSome = true)
    (negative : Bool) (ends : Ends rest) :
    readAtom ((if negative then ['-'] else []) ++ n.text ++ rest) =
      .ok (.float (Number.ofCode negative n.decimal.readCode), rest) := by
  have read := readAtom_digits n.wholeDigits n.wholeGiven
    (fractionText n.places ++ powerText n.power ++ rest) negative
  have number := readNumber_numeral n fractional negative ends
  simp only [Numeral.text, List.append_assoc] at read number ⊢
  rw [read, number]

theorem readAtom_of_named {found : Value × List Char} (named : readNamed? cs = some found) :
    readAtom cs = .ok found := by
  unfold readAtom
  rw [named]

theorem readNamed?_infinity (negative : Bool) (rest : List Char) :
    readNamed? ((if negative then ['-'] else []) ++ "Infinity".toList ++ rest) =
      some (.float (Number.ofCode negative Number.infinityCode), rest) := by
  cases negative <;> rfl

theorem readAtom_writeFloat (x : Float) (ends : Ends rest) :
    readAtom ((writeFloat x).toList ++ rest) = .ok (.float x, rest) := by
  have whole := Number.ofCode_magnitudeCode x
  have sign : (if Number.isNegative x then "-" else "").toList =
      if Number.isNegative x then ['-'] else [] := by
    split <;> rfl
  unfold writeFloat Number.renderWith
  by_cases nan : Number.isNaN x = true
  · rw [if_pos nan, Number.eq_notANumber nan]
    rfl
  · rw [if_neg nan]
    dsimp only
    by_cases infinite : Number.isInfinite x = true
    · have code : Number.magnitudeCode x = Number.infinityCode := of_decide_eq_true infinite
      rw [code] at whole
      rw [if_pos infinite, String.toList_append, sign,
        readAtom_of_named (readNamed?_infinity _ rest), whole]
    · have code : Number.magnitudeCode x < Number.infinityCode := by
        rw [Number.isNaN, decide_eq_true_eq] at nan
        rw [Number.isInfinite, decide_eq_true_eq] at infinite
        omega
      obtain ⟨n, text, value, fractional⟩ :=
        Number.exists_numeral_of_decimal (Number.shortest (Number.magnitudeCode x))
      have read := readAtom_numeral n fractional (Number.isNegative x) ends
      rw [n.decimal.readCode_eq_code, Number.Decimal.code_congr value, Number.code_shortest code,
        whole] at read
      rw [if_neg infinite, ← text, String.toList_append, String.toList_ofList, sign, read]

theorem readAtom_writeText (content : String) (rest : List Char) :
    readAtom ((writeText content).toList ++ rest) = .ok (.text content, rest) := by
  have none : readNamed? ('"' :: (content.toList.flatMap escapeChar ++ '"' :: rest)) = none :=
    readNamed?_cons (by decide)
  rw [writeText, String.toList_ofList, writeChars_append, readAtom, none]
  dsimp only
  rw [readTextAt_escaped]
  rfl

variable {depth level : Nat} {readItem : ItemReader} {texts : List (List Char)}

theorem isBlank_of_isSpace (space : isSpace c = true) : Text.isBlank c = true := by
  simp only [isSpace, Bool.or_eq_true, beq_iff_eq] at space
  rcases space with ((rfl | rfl) | rfl) | rfl <;> decide

/-- A text that is read as a value, which starts with no blank and closes no list. -/
structure Reads (readItem : ItemReader) (text : List Char) (v : Value) : Prop where
  starts : ∃ c rest, text = c :: rest ∧ Text.isBlank c = false ∧ c ≠ ']'
  reads : ∀ rest, Ends rest → readItem (text ++ rest) = .ok (v, rest)

theorem Reads.skipSpace {text : List Char} (written : Reads readItem text v) (rest : List Char) :
    skipSpace (text ++ rest) = text ++ rest := by
  obtain ⟨c, more, rfl, dark, _⟩ := written.starts
  refine List.dropWhile_cons_of_neg fun space => ?_
  rw [isBlank_of_isSpace space] at dark
  cases dark

theorem ends_cons (marks : c = ',' ∨ c = ']' ∨ c = '\x7d') (rest : List Char) : Ends (c :: rest) := by
  intro first same
  obtain rfl : c = first := Option.some.inj same
  exact marks

theorem exists_intercalate_cons (text : List Char) (texts : List (List Char)) :
    ∃ more, [',', ' '].intercalate (text :: texts) = text ++ more := by
  cases texts with
  | nil => exact ⟨[], by rw [List.intercalate_singleton, List.append_nil]⟩
  | cons next texts =>
      exact ⟨_, by rw [List.intercalate_cons_cons, List.append_assoc]⟩

theorem readItems_joined {items : List Value} (each : List.Forall₂ (Reads readItem) texts items)
    (given : texts ≠ []) {steps : Nat} (enough : texts.length ≤ steps) (done : List Value)
    (start : skipSpace cs = [',', ' '].intercalate texts ++ ']' :: rest) :
    readItems readItem steps done cs = .ok (.list (done ++ items), rest) := by
  induction each generalizing steps done cs with
  | nil => exact absurd rfl given
  | @cons text item texts items first others ih =>
      obtain ⟨steps, rfl⟩ := Nat.exists_eq_add_one.mpr (Nat.zero_lt_of_lt enough)
      cases others with
      | nil =>
          rw [List.intercalate_singleton] at start
          have read := first.reads (']' :: rest) (ends_cons (.inr (.inl rfl)) rest)
          simp only [readItems, start, read, bind, Except.bind]
          rfl
      | @cons next second texts items written _ =>
          have behind : skipSpace (' ' :: ([',', ' '].intercalate (next :: texts) ++ ']' :: rest)) =
              [',', ' '].intercalate (next :: texts) ++ ']' :: rest := by
            obtain ⟨more, joined⟩ := exists_intercalate_cons next texts
            rw [joined, List.append_assoc]
            exact written.skipSpace _
          have read := first.reads (',' :: ' ' :: ([',', ' '].intercalate (next :: texts) ++ ']' :: rest))
            (ends_cons (.inl rfl) _)
          have more := ih (List.cons_ne_nil _ _) (Nat.le_of_succ_le_succ enough) (done ++ [item]) behind
          rw [List.append_assoc] at more
          rw [List.intercalate_cons_cons, List.append_assoc, List.append_assoc, List.cons_append,
            List.cons_append, List.nil_append] at start
          simp only [readItems, start, read, bind, Except.bind]
          exact more

/-- A text that is read as a field: its name, and behind the colon its value. -/
def ReadsField (readItem : ItemReader) (text : List Char) (field : String × Value) : Prop :=
  ∃ content, text = writeChars field.1.toList ++ ':' :: ' ' :: content ∧
    Reads readItem content field.2

theorem ReadsField.skipSpace {text : List Char} {field : String × Value}
    (written : ReadsField readItem text field) (rest : List Char) :
    skipSpace (text ++ rest) = text ++ rest := by
  obtain ⟨content, rfl, _⟩ := written
  rfl

theorem setField_of_not_mem {done : List (String × Value)} {name : String}
    (fresh : name ∉ done.map (·.1)) (value : Value) :
    setField done name value = done ++ [(name, value)] := by
  refine if_neg fun known => fresh ?_
  obtain ⟨field, member, same⟩ := List.any_eq_true.mp known
  exact List.mem_map.mpr ⟨field, member, eq_of_beq same⟩

theorem readFields_step {name : String} {value : Value} {content later : List Char}
    (written : Reads readItem content value) (ends : Ends later)
    (start : skipSpace cs = writeChars name.toList ++ ':' :: ' ' :: (content ++ later)) (steps : Nat)
    (done : List (String × Value)) :
    readFields readItem (steps + 1) done cs =
      match skipSpace later with
      | ',' :: rest => readFields readItem steps (setField done name value) rest
      | '\x7d' :: rest => .ok (Value.ofFields (setField done name value), rest)
      | _ => .error .malformed := by
  have space : skipSpace (' ' :: (content ++ later)) = content ++ later := written.skipSpace later
  have colon (rest : List Char) : skipSpace (':' :: rest) = ':' :: rest := rfl
  rw [writeChars_append] at start
  simp only [readFields, start, readTextAt_escaped, bind, Except.bind, colon, space,
    written.reads later ends]
  rfl

theorem readFields_joined {fields : List (String × Value)}
    (each : List.Forall₂ (ReadsField readItem) texts fields) (given : texts ≠ []) {steps : Nat}
    (enough : texts.length ≤ steps) {done : List (String × Value)}
    (distinct : ((done ++ fields).map (·.1)).Nodup)
    (start : skipSpace cs = [',', ' '].intercalate texts ++ '\x7d' :: rest) :
    readFields readItem steps done cs = .ok (Value.ofFields (done ++ fields), rest) := by
  induction each generalizing steps done cs with
  | nil => exact absurd rfl given
  | @cons text field texts fields first others ih =>
      obtain ⟨steps, rfl⟩ := Nat.exists_eq_add_one.mpr (Nat.zero_lt_of_lt enough)
      obtain ⟨name, value⟩ := field
      obtain ⟨content, rfl, written⟩ := first
      have set : setField done name value = done ++ [(name, value)] := by
        rw [List.map_append, List.nodup_append] at distinct
        exact setField_of_not_mem
          (fun known => distinct.2.2 name known name List.mem_cons_self rfl) value
      cases others with
      | nil =>
          rw [List.intercalate_singleton, List.append_assoc] at start
          rw [readFields_step written (ends_cons (.inr (.inr rfl)) rest) start, set]
          rfl
      | @cons next field' texts fields field _ =>
          have behind : skipSpace (' ' :: ([',', ' '].intercalate (next :: texts) ++ '\x7d' :: rest)) =
              [',', ' '].intercalate (next :: texts) ++ '\x7d' :: rest := by
            obtain ⟨more, joined⟩ := exists_intercalate_cons next texts
            rw [joined, List.append_assoc]
            exact field.skipSpace _
          have apart : ((done ++ [(name, value)] ++ (field' :: fields)).map (·.1)).Nodup := by
            rwa [List.append_assoc]
          have more := ih (List.cons_ne_nil _ _) (Nat.le_of_succ_le_succ enough) apart behind
          rw [List.append_assoc] at more
          rw [List.intercalate_cons_cons, List.append_assoc, List.append_assoc, List.append_assoc] at start
          rw [readFields_step written (ends_cons (.inl rfl) _) start, set]
          exact more

/-- Values that JSON knows, with at most `depth` levels of lists and records, whose integers are not
too long to be read. -/
inductive Legible : Nat → Value → Prop
  | null {depth : Nat} : Legible depth .null
  | bool {depth : Nat} (flag : Bool) : Legible depth (.bool flag)
  | int {depth : Nat} {number : Int}
      (short : Number.decimalLength number.natAbs ≤ Number.digitLimit) : Legible depth (.int number)
  | float {depth : Nat} (number : Float) : Legible depth (.float number)
  | text {depth : Nat} (content : String) : Legible depth (.text content)
  | list {depth : Nat} {items : List Value} (each : ∀ item ∈ items, Legible depth item) :
      Legible (depth + 1) (.list items)
  | record {depth : Nat} {fields : List (String × Value)}
      (each : ∀ field ∈ fields, Legible depth field.2) (distinct : (fields.map (·.1)).Nodup) :
      Legible (depth + 1) (Value.ofFields fields)

theorem head_of_readAtom {found : Value × List Char} (read : readAtom cs = .ok found) :
    ∃ c rest, cs = c :: rest ∧
      (c ∈ ['n', 't', 'f', 'N', 'I', '-', '"'] ∨ Number.isDigit c = true) := by
  cases cs with
  | nil => cases read
  | cons c rest =>
      refine ⟨c, rest, rfl, ?_⟩
      by_contra foreign
      simp only [List.mem_cons, List.not_mem_nil, or_false, not_or, Bool.not_eq_true] at foreign
      obtain ⟨⟨n, t, f, upper_n, upper_i, minus, quote⟩, digitless⟩ := foreign
      have cut : (cutWhole (c :: rest)).1 = [] := by
        unfold cutWhole
        split
        · rename_i same
          rw [(List.cons.inj same).1] at digitless
          cases digitless
        · exact List.takeWhile_cons_of_neg (by simp [digitless])
      unfold readAtom at read
      rw [readNamed?_cons ⟨n, t, f, upper_n, upper_i, minus⟩] at read
      dsimp only at read
      split at read
      · rename_i same
        exact quote (List.cons.inj same).1
      · rename_i same
        exact minus (List.cons.inj same).1
      · simp only [readNumber, cut] at read
        cases read

theorem starts_of_readAtom {found : Value × List Char} (read : readAtom cs = .ok found) :
    ∃ c rest, cs = c :: rest ∧ Text.isBlank c = false ∧ c ≠ '[' ∧ c ≠ ']' ∧ c ≠ '\x7b' := by
  obtain ⟨c, rest, rfl, mark | digit⟩ := head_of_readAtom read
  · refine ⟨c, rest, rfl, ?_⟩
    simp only [List.mem_cons, List.not_mem_nil, or_false] at mark
    rcases mark with rfl | rfl | rfl | rfl | rfl | rfl | rfl <;> decide
  · have other (mark : Char) (foreign : Number.isDigit mark = false) : c ≠ mark := fun same =>
      Bool.false_ne_true (foreign.symm.trans (same ▸ digit))
    refine ⟨c, rest, rfl, ?_, other '[' rfl, other ']' rfl, other '\x7b' rfl⟩
    have apart : ∀ n ∈ Text.blanks, n < 48 ∨ 57 < n := by decide
    rw [Number.isDigit, Bool.and_eq_true, decide_eq_true_eq, decide_eq_true_eq] at digit
    have low : 48 ≤ c.toNat := digit.1
    have high : c.toNat ≤ 57 := digit.2
    refine Bool.eq_false_iff.mpr fun blank => ?_
    have listed := apart c.toNat (List.contains_iff_mem.mp blank)
    omega

theorem reads_atom {text : List Char}
    (read : ∀ rest, Ends rest → readAtom (text ++ rest) = .ok (v, rest)) :
    Reads (readValue depth) text v := by
  have alone := read [] (fun _ first => nomatch first)
  rw [List.append_nil] at alone
  obtain ⟨c, more, rfl, dark, opening, closing, brace⟩ := starts_of_readAtom alone
  refine ⟨⟨c, more, rfl, dark, closing⟩, fun rest ends => ?_⟩
  rw [← read rest ends, List.cons_append]
  cases depth with
  | zero =>
      unfold readValue
      split
      · rename_i same
        exact absurd (List.cons.inj same).1 opening
      · rename_i same
        exact absurd (List.cons.inj same).1 brace
      · rfl
  | succ depth =>
      unfold readValue
      split
      · rename_i same
        exact absurd (List.cons.inj same).1 opening
      · rename_i same
        exact absurd (List.cons.inj same).1 brace
      · rfl

theorem writeItems_of_each {items : List Value}
    (each : ∀ item ∈ items, ∃ text, writeAt .strict level item = .ok text ∧
      Reads readItem text.toList item) :
    ∃ written, writeItems .strict level items = .ok written ∧
      List.Forall₂ (Reads readItem) (written.map String.toList) items := by
  induction items with
  | nil => exact ⟨[], rfl, .nil⟩
  | cons item items ih =>
      obtain ⟨first, others⟩ := List.forall_mem_cons.mp each
      obtain ⟨text, made, reads⟩ := first
      obtain ⟨written, rest, all⟩ := ih others
      refine ⟨text :: written, ?_, .cons reads all⟩
      simp only [writeItems, made, rest, bind, Except.bind]
      rfl

theorem writeFields_of_each {fields : List (String × Value)}
    (each : ∀ field ∈ fields, ∃ text, writeAt .strict level field.2 = .ok text ∧
      Reads readItem text.toList field.2) :
    ∃ written, writeFields .strict level (fields.map fun (name, value) => (.text name, value)) =
        .ok written ∧
      List.Forall₂ (ReadsField readItem) (written.map String.toList) fields := by
  induction fields with
  | nil => exact ⟨[], rfl, .nil⟩
  | cons field fields ih =>
      obtain ⟨first, others⟩ := List.forall_mem_cons.mp each
      obtain ⟨text, made, reads⟩ := first
      obtain ⟨written, rest, all⟩ := ih others
      refine ⟨(writeText field.1 ++ ": " ++ text) :: written, ?_, .cons ⟨text.toList, ?_, reads⟩ all⟩
      · simp only [List.map_cons, writeFields, fieldName, made, rest, bind, Except.bind]
        rfl
      · simp [writeText]

theorem toList_enclose (level : Nat) (opening closing : String) (written : List String) :
    (enclose .strict level opening closing written).toList =
      opening.toList ++ ([',', ' '].intercalate (written.map String.toList) ++ closing.toList) := by
  cases written with
  | nil => simp [enclose]
  | cons first others =>
      have joined : (Text.join ", " (first :: others)).toList =
          [',', ' '].intercalate ((first :: others).map String.toList) :=
        String.toList_intercalate
      change (opening ++ Text.join ", " (first :: others) ++ closing).toList = _
      rw [String.toList_append, String.toList_append, joined, List.append_assoc]

theorem length_le_intercalate {texts : List (List Char)} (given : ∀ text ∈ texts, text ≠ []) :
    texts.length ≤ ([',', ' '].intercalate texts).length := by
  induction texts with
  | nil => exact Nat.le_refl 0
  | cons text texts ih =>
      obtain ⟨first, others⟩ := List.forall_mem_cons.mp given
      have longer := List.length_pos_iff.mpr first
      have rest := ih others
      cases texts with
      | nil =>
          rw [List.intercalate_singleton]
          exact longer
      | cons next texts =>
          rw [List.intercalate_cons_cons, List.length_append, List.length_append]
          simp only [List.length_cons] at rest ⊢
          omega

theorem given_of_reads {items : List Value} (each : List.Forall₂ (Reads readItem) texts items) :
    ∀ text ∈ texts, text ≠ [] := by
  intro text member none
  obtain ⟨index, inside, same⟩ := List.getElem_of_mem member
  obtain ⟨c, rest, first, _⟩ := (each.get inside (each.length_eq ▸ inside)).starts
  rw [List.get_eq_getElem, same, none] at first
  cases first

theorem given_of_readsField {fields : List (String × Value)}
    (each : List.Forall₂ (ReadsField readItem) texts fields) : ∀ text ∈ texts, text ≠ [] := by
  intro text member none
  obtain ⟨index, inside, same⟩ := List.getElem_of_mem member
  obtain ⟨content, first, _⟩ := each.get inside (each.length_eq ▸ inside)
  rw [List.get_eq_getElem, same, none] at first
  cases first

theorem readValue_list {items : List Value}
    (each : List.Forall₂ (Reads (readValue depth)) texts items) (rest : List Char) :
    readValue (depth + 1) ('[' :: ([',', ' '].intercalate texts ++ ']' :: rest)) =
      .ok (.list items, rest) := by
  have enough := length_le_intercalate (given_of_reads each)
  cases each with
  | nil => rfl
  | @cons text item texts items first others =>
      obtain ⟨more, joined⟩ := exists_intercalate_cons text texts
      have space : skipSpace ([',', ' '].intercalate (text :: texts) ++ ']' :: rest) =
          [',', ' '].intercalate (text :: texts) ++ ']' :: rest := by
        rw [joined, List.append_assoc]
        exact first.skipSpace _
      simp only [readValue, space]
      split
      · rename_i after same
        obtain ⟨c, tail, rfl, _, opened⟩ := first.starts
        rw [joined] at same
        exact absurd (List.cons.inj same).1 opened
      · refine readItems_joined (.cons first others) (List.cons_ne_nil _ _) ?_ [] space
        rw [List.length_append]
        omega

theorem readValue_record {fields : List (String × Value)}
    (each : List.Forall₂ (ReadsField (readValue depth)) texts fields)
    (distinct : (fields.map (·.1)).Nodup) (rest : List Char) :
    readValue (depth + 1) ('\x7b' :: ([',', ' '].intercalate texts ++ '\x7d' :: rest)) =
      .ok (Value.ofFields fields, rest) := by
  have enough := length_le_intercalate (given_of_readsField each)
  cases each with
  | nil => rfl
  | @cons text field texts fields first others =>
      obtain ⟨more, joined⟩ := exists_intercalate_cons text texts
      have space : skipSpace ([',', ' '].intercalate (text :: texts) ++ '\x7d' :: rest) =
          [',', ' '].intercalate (text :: texts) ++ '\x7d' :: rest := by
        rw [joined, List.append_assoc]
        exact first.skipSpace _
      simp only [readValue, space]
      split
      · rename_i after same
        obtain ⟨content, rfl, _⟩ := first
        rw [joined] at same
        exact absurd (List.cons.inj same).1 (by decide)
      · refine readFields_joined (.cons first others) (List.cons_ne_nil _ _) ?_ distinct space
        rw [List.length_append]
        omega

/-- A value is read as itself from the text that it is written as. -/
theorem Legible.exists_written (legible : Legible depth v) (level : Nat) :
    ∃ text, writeAt .strict level v = .ok text ∧ Reads (readValue depth) text.toList v := by
  induction legible generalizing level with
  | null => exact ⟨"null", rfl, reads_atom fun rest _ => rfl⟩
  | bool flag =>
      cases flag
      · exact ⟨"false", rfl, reads_atom fun rest _ => rfl⟩
      · exact ⟨"true", rfl, reads_atom fun rest _ => rfl⟩
  | int short => exact ⟨_, rfl, reads_atom fun rest ends => readAtom_renderInt short ends⟩
  | float number => exact ⟨_, rfl, reads_atom fun rest ends => readAtom_writeFloat number ends⟩
  | text content => exact ⟨_, rfl, reads_atom fun rest _ => readAtom_writeText content rest⟩
  | @list depth items each ih =>
      obtain ⟨written, made, all⟩ := writeItems_of_each fun item member => ih item member (level + 1)
      refine ⟨enclose .strict level "[" "]" written, ?_, ?_⟩
      · simp only [writeAt, made, bind, Except.bind]
        rfl
      · have text : (enclose .strict level "[" "]" written).toList =
            '[' :: ([',', ' '].intercalate (written.map String.toList) ++ [']']) := by
          exact toList_enclose level _ _ written
        rw [text]
        refine ⟨⟨'[', _, rfl, rfl, by decide⟩, fun rest _ => ?_⟩
        rw [List.cons_append, List.append_assoc]
        exact readValue_list all rest
  | @record depth fields each distinct ih =>
      obtain ⟨written, made, all⟩ := writeFields_of_each fun field member => ih field member (level + 1)
      refine ⟨enclose .strict level "\x7b" "\x7d" written, ?_, ?_⟩
      · simp only [Value.ofFields, writeAt, made, bind, Except.bind]
        rfl
      · have text : (enclose .strict level "\x7b" "\x7d" written).toList =
            '\x7b' :: ([',', ' '].intercalate (written.map String.toList) ++ ['\x7d']) := by
          exact toList_enclose level _ _ written
        rw [text]
        refine ⟨⟨'\x7b', _, rfl, rfl, by decide⟩, fun rest _ => ?_⟩
        rw [List.cons_append, List.append_assoc]
        exact readValue_record all distinct rest

theorem read_write (legible : Legible depthLimit v) :
    ∃ text, write .strict v = .ok text ∧ Text.isBlankText text = false ∧ read text = .ok v := by
  obtain ⟨text, made, reads⟩ := legible.exists_written 0
  have given : Text.isBlankText text = false := by
    obtain ⟨c, rest, spelled, dark, _⟩ := reads.starts
    rw [Text.isBlankText, spelled, List.all_cons, dark, Bool.false_and]
  refine ⟨text, made, given, ?_⟩
  have space := reads.skipSpace []
  have value := reads.reads [] (fun _ first => nomatch first)
  rw [List.append_nil] at space value
  simp only [read, space, value, bind, Except.bind]
  rfl

/-- Values that JSON knows, however deep and long. -/
inductive Known : Value → Prop
  | null : Known .null
  | bool (flag : Bool) : Known (.bool flag)
  | int (number : Int) : Known (.int number)
  | float (number : Float) : Known (.float number)
  | text (content : String) : Known (.text content)
  | list {items : List Value} (each : ∀ item ∈ items, Known item) : Known (.list items)
  | record {fields : List (String × Value)} (each : ∀ field ∈ fields, Known field.2)
      (distinct : (fields.map (·.1)).Nodup) : Known (Value.ofFields fields)

theorem Legible.within (legible : Legible depth v) : v.excess? depth = none := by
  induction legible with
  | null => rfl
  | bool flag => rfl
  | float number => rfl
  | text content => rfl
  | int short => exact if_neg (Nat.not_lt.mpr short)
  | list each ih =>
      rw [Value.excess?]
      exact Value.excessOfItems?_eq_none_iff.mpr ih
  | record each distinct ih =>
      rw [Value.ofFields, Value.excess?]
      exact Value.excessOfFields?_eq_none_iff.mpr
        (List.forall_mem_map.mpr fun field member => ⟨rfl, ih field member⟩)

/-- What JSON knows can be read again if it is within the limits. -/
theorem Known.legible (known : Known v) (within : v.excess? depth = none) : Legible depth v := by
  induction known generalizing depth with
  | null => exact .null
  | bool flag => exact .bool flag
  | float number => exact .float number
  | text content => exact .text content
  | int number =>
      unfold Value.excess? at within
      split at within
      · cases within
      · rename_i short
        exact .int (Nat.not_lt.mp short)
  | @list items each ih =>
      cases depth with
      | zero => cases within
      | succ depth =>
          rw [Value.excess?] at within
          have each := Value.excessOfItems?_eq_none_iff.mp within
          exact .list fun item member => ih item member (each item member)
  | @record fields each distinct ih =>
      cases depth with
      | zero => cases within
      | succ depth =>
          rw [Value.ofFields, Value.excess?] at within
          have each := List.forall_mem_map.mp (Value.excessOfFields?_eq_none_iff.mp within)
          exact .record (fun field member => ih field member (each field member).2) distinct

/-- A value within the limits is written, and read as itself from its text. -/
theorem Legible.exists_dump (legible : Legible depthLimit v) :
    ∃ text, dump .strict v = .ok text ∧ Text.isBlankText text = false ∧ read text = .ok v := by
  obtain ⟨text, made, given, again⟩ := read_write legible
  refine ⟨text, ?_, given, again⟩
  rw [dump, legible.within, made]
  rfl

/-- A value that JSON knows is read as itself from whatever text it is written as. -/
theorem Known.read_dump {text : String} (known : Known v) (written : dump .strict v = .ok text) :
    read text = .ok v := by
  cases within : v.excess? depthLimit with
  | some failure =>
      rw [dump, within] at written
      cases written
  | none =>
      obtain ⟨own, made, _, again⟩ := (known.legible within).exists_dump
      obtain rfl : own = text := Except.ok.inj (made.symm.trans written)
      exact again

theorem digits_cutWhole (cs : List Char) : Digits (cutWhole cs).1 := by
  unfold cutWhole
  split
  · exact Number.digits_noughts 1
  · exact fun c member => List.all_eq_true.mp List.all_takeWhile c member

theorem legible_readNumber {negative : Bool} (read : readNumber negative cs = .ok (v, rest)) :
    Legible depth v := by
  have all := digits_cutWhole cs
  unfold readNumber at read
  generalize cutWhole cs = cut at read all
  obtain ⟨whole, afterWhole⟩ := cut
  dsimp only at read all
  split at read
  · cases read
  rename_i given
  split at read
  · split at read
    · cases read
    · rename_i short
      cases read
      refine .int (Nat.le_trans ?_ (Nat.not_lt.mp short))
      have magnitude : (if negative then -(Number.natOfDigits whole : Int)
          else Number.natOfDigits whole).natAbs = Number.natOfDigits whole := by
        split <;> omega
      rw [magnitude]
      have positive : 0 < whole.length := by
        rw [List.isEmpty_iff] at given
        exact List.length_pos_iff.mpr given
      exact (Number.decimalLength_le_iff positive).mpr (Number.natOfDigits_lt all)
  · split at read
    · cases read
      exact .float _
    · cases read

theorem legible_readNamed? (read : readNamed? cs = some (v, rest)) : Legible depth v := by
  obtain ⟨⟨word, value⟩, member, found⟩ := List.exists_of_findSome?_eq_some read
  obtain ⟨_, _, same⟩ := Option.map_eq_some_iff.mp found
  cases same
  simp only [namedValues, List.mem_cons, Prod.mk.injEq, List.not_mem_nil, or_false] at member
  rcases member with ⟨_, rfl⟩ | ⟨_, rfl⟩ | ⟨_, rfl⟩ | ⟨_, rfl⟩ | ⟨_, rfl⟩ | ⟨_, rfl⟩
  · exact .null
  · exact .bool true
  · exact .bool false
  · exact .float _
  · exact .float _
  · exact .float _

theorem legible_readAtom (read : readAtom cs = .ok (v, rest)) : Legible depth v := by
  unfold readAtom at read
  split at read
  · rename_i found named
    cases read
    exact legible_readNamed? named
  · split at read
    · rename_i behind _
      cases found : readTextAt behind with
      | error fault =>
          rw [found] at read
          cases read
      | ok content =>
          rw [found] at read
          cases read
          exact .text _
    · exact legible_readNumber read
    · exact legible_readNumber read

theorem legible_readItems (each : ∀ {cs v rest}, readItem cs = .ok (v, rest) → Legible depth v)
    {steps : Nat} {done : List Value} (before : ∀ item ∈ done, Legible depth item)
    (read : readItems readItem steps done cs = .ok (v, rest)) : Legible (depth + 1) v := by
  induction steps generalizing done cs with
  | zero => cases read
  | succ steps ih =>
      unfold readItems at read
      cases found : readItem (skipSpace cs) with
      | error fault =>
          rw [found] at read
          cases read
      | ok item =>
          obtain ⟨item, after⟩ := item
          have all : ∀ other ∈ done ++ [item], Legible depth other :=
            List.forall_mem_append.mpr ⟨before, List.forall_mem_singleton.mpr (each found)⟩
          rw [found] at read
          simp only [bind, Except.bind] at read
          split at read
          · exact ih all read
          · cases read
            exact .list all
          · cases read

theorem nodup_setField {done : List (String × Value)} (distinct : (done.map (·.1)).Nodup)
    (name : String) (value : Value) : ((setField done name value).map (·.1)).Nodup := by
  by_cases known : done.any (·.1 == name) = true
  · have names : (setField done name value).map (·.1) = done.map (·.1) := by
      rw [setField, if_pos known, List.map_map]
      refine List.map_congr_left fun field _ => ?_
      by_cases same : field.1 = name
      · simp [same]
      · simp [same]
    rwa [names]
  · have fresh : name ∉ done.map (·.1) := by
      rw [List.any_eq_true] at known
      intro inside
      obtain ⟨field, member, same⟩ := List.mem_map.mp inside
      exact known ⟨field, member, by simp [same]⟩
    rw [setField_of_not_mem fresh, List.map_append]
    exact distinct.append (List.nodup_singleton _) (by simpa using fresh)

theorem mem_setField {done : List (String × Value)} {name : String} {value : Value}
    {field : String × Value} (member : field ∈ setField done name value) :
    field = (name, value) ∨ field ∈ done := by
  unfold setField at member
  split at member
  · obtain ⟨old, inside, same⟩ := List.mem_map.mp member
    split at same
    · exact .inl same.symm
    · exact .inr (same ▸ inside)
  · rcases List.mem_append.mp member with before | last
    · exact .inr before
    · exact .inl (List.mem_singleton.mp last)

theorem legible_readFields (each : ∀ {cs v rest}, readItem cs = .ok (v, rest) → Legible depth v)
    {steps : Nat} {done : List (String × Value)} (before : ∀ field ∈ done, Legible depth field.2)
    (distinct : (done.map (·.1)).Nodup)
    (read : readFields readItem steps done cs = .ok (v, rest)) : Legible (depth + 1) v := by
  induction steps generalizing done cs with
  | zero => cases read
  | succ steps ih =>
      unfold readFields at read
      split at read
      · rename_i behind _
        cases named : readTextAt behind with
        | error fault =>
            rw [named] at read
            cases read
        | ok name =>
            obtain ⟨name, afterName⟩ := name
            rw [named] at read
            simp only [bind, Except.bind] at read
            split at read
            · rename_i afterColon _
              cases found : readItem (skipSpace afterColon) with
              | error fault =>
                  rw [found] at read
                  cases read
              | ok value =>
                  obtain ⟨value, after⟩ := value
                  have all : ∀ field ∈ setField done name value, Legible depth field.2 := by
                    intro field member
                    rcases mem_setField member with rfl | old
                    · exact each found
                    · exact before field old
                  have apart := nodup_setField distinct name value
                  rw [found] at read
                  dsimp only at read
                  split at read
                  · exact ih all apart read
                  · cases read
                    exact .record all apart
                  · cases read
            · cases read
      · cases read

theorem legible_readValue (read : readValue depth cs = .ok (v, rest)) : Legible depth v := by
  induction depth generalizing cs v rest with
  | zero =>
      unfold readValue at read
      split at read
      · cases read
      · cases read
      · exact legible_readAtom read
  | succ depth ih =>
      unfold readValue at read
      split at read
      · split at read
        · cases read
          exact .list (by simp)
        · exact legible_readItems ih (by simp) read
      · split at read
        · cases read
          exact .record (List.forall_mem_nil _) List.nodup_nil
        · exact legible_readFields ih (List.forall_mem_nil _) List.nodup_nil read
      · exact legible_readAtom read

theorem legible_read {text : String} (found : read text = .ok v) : Legible depthLimit v := by
  unfold read at found
  cases value : readValue depthLimit (skipSpace text.toList) with
  | error fault =>
      rw [value] at found
      cases found
  | ok read =>
      obtain ⟨value, rest⟩ := read
      rw [value] at found
      simp only [bind, Except.bind] at found
      split at found
      · cases found
        exact legible_readValue value
      · cases found

end CheckKeeper.Json
