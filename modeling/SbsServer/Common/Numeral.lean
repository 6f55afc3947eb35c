import SbsServer.CLib.Numeral
import SbsServer.Json.Lexicon
import Mathlib.Data.Nat.Digits.Lemmas
import Mathlib.Tactic.IntervalCases

/-!
# Numbers of JSON and numerals of doubles

`strtod` reads every JSON number up to its end, and `%.17g` prints every
finite double as a JSON number.
-/

namespace SbsServer

open CLib CLib.Double Json

/-- A text that does not continue a number. -/
def EndsNumber (rest : List UInt8) : Prop :=
  ∀ byte, rest.head? = some byte →
    isDigit byte = false ∧ byte ∉ ([46, 69, 101, 88, 120] : List UInt8)

variable {byte : UInt8} {value : Nat}

/-- A decimal digit has its value. -/
theorem digitOf_of_isDigit
    (decimal : isDigit byte = true) :
    digitOf 10 byte = some (byte.toNat - 48) := by
  simp only [isDigit, Bool.and_eq_true, decide_eq_true_eq,
    UInt8.le_iff_toNat_le] at decimal
  simp at decimal
  have small : byte.toNat - 48 < 10 := by omega
  simp [digitOf, decimal, small]

/-- Other bytes have no value in base ten. -/
theorem digitOf_of_not_isDigit
    (other : isDigit byte = false) :
    digitOf 10 byte = none := by
  simp only [isDigit, Bool.and_eq_false_iff, decide_eq_false_iff_not,
    UInt8.le_iff_toNat_le] at other
  simp at other
  have large :
      ¬ (if 48 ≤ byte.toNat ∧ byte.toNat ≤ 57 then byte.toNat - 48
        else if 97 ≤ byte.toNat ∧ byte.toNat ≤ 102 then byte.toNat - 87
        else if 65 ≤ byte.toNat ∧ byte.toNat ≤ 70 then byte.toNat - 55
        else 10) < 10 := by
    split_ifs <;> omega
  simp only [digitOf, large, if_false]

variable {rest : List UInt8}

/-- The scan stops at once where no digit stands. -/
theorem scanDigits_of_stop
    (stop : ∀ byte, rest.head? = some byte → isDigit byte = false)
    (value count : Nat) :
    scanDigits 10 value count rest = (value, count, rest) := by
  cases rest with
  | nil => simp [scanDigits]
  | cons byte tail =>
      simp [scanDigits, digitOf_of_not_isDigit (stop byte rfl)]

/-- The scan takes all digits before a text that starts with none. -/
theorem scanDigits_append
    {digits rest : List UInt8}
    (decimal : ∀ byte ∈ digits, isDigit byte = true)
    (stop : ∀ byte, rest.head? = some byte → isDigit byte = false)
    (value count : Nat) :
    scanDigits 10 value count (digits ++ rest) =
      (digitsValue value digits, count + digits.length, rest) := by
  induction digits generalizing value count with
  | nil => simpa [digitsValue] using scanDigits_of_stop stop value count
  | cons byte tail hypothesis =>
      rw [List.forall_mem_cons] at decimal
      simp only [List.cons_append, scanDigits, digitOf_of_isDigit decimal.1,
        hypothesis decimal.2]
      simp [digitsValue]
      omega

/-- A number starts no special word of `strtod`. -/
theorem hasPrefix_of_isDigit
    (decimal : isDigit byte = true)
    (tail : List UInt8) :
    hasPrefix "infinity" (byte :: tail) = false ∧
      hasPrefix "inf" (byte :: tail) = false ∧
      hasPrefix "nan" (byte :: tail) = false := by
  simp only [isDigit, Bool.and_eq_true, decide_eq_true_eq,
    UInt8.le_iff_toNat_le] at decimal
  have lowered : ¬ (65 ≤ byte ∧ byte ≤ 90) := by
    simp only [UInt8.le_iff_toNat_le]
    simp at decimal ⊢
    omega
  have differs : ∀ code : UInt8, 57 < code.toNat → ¬ code = byte := by
    rintro code large rfl
    simp at decimal
    omega
  have infinity : (CStr.lit "infinity").bytes =
      [105, 110, 102, 105, 110, 105, 116, 121] := by decide
  have inf : (CStr.lit "inf").bytes = [105, 110, 102] := by decide
  have nan : (CStr.lit "nan").bytes = [110, 97, 110] := by decide
  simp [hasPrefix, infinity, inf, nan, lowered, differs, List.isPrefixOf]

/-- A digit is no sign. -/
theorem scanSign_of_isDigit
    (decimal : isDigit byte = true)
    (tail : List UInt8) :
    scanSign (byte :: tail) = (false, byte :: tail) := by
  have minus : byte ≠ 45 := by
    rintro rfl
    exact absurd decimal (by decide)
  have plus : byte ≠ 43 := by
    rintro rfl
    exact absurd decimal (by decide)
  simp [scanSign, minus, plus]

theorem Digits.exists_cons (digits : Digits) :
    ∃ byte tail, digits.bytes = byte :: tail ∧ isDigit byte = true := by
  cases held : digits.bytes with
  | nil => exact absurd held digits.nonempty
  | cons byte tail =>
      exact ⟨byte, tail, rfl, digits.decimal byte (by simp [held])⟩

/-- What follows a number does not start with a digit. -/
theorem EndsNumber.no_digit
    (ends : EndsNumber rest) :
    ∀ byte, rest.head? = some byte → isDigit byte = false :=
  fun byte head => (ends byte head).1

/-- The exponent of a number is read up to its end. -/
theorem readExponent_render
    (exponent : Exponent)
    (ends : EndsNumber rest) :
    readExponent 101 69 (exponent.render ++ rest) = (exponent.value, rest) := by
  rcases exponent with ⟨capital, sign, digits⟩
  have digits_read := scanDigits_append digits.decimal ends.no_digit 0 0
  have some_digits : digits.bytes.length ≠ 0 := by
    simpa using digits.nonempty
  have marked : Exponent.marker capital = 101 ∨ Exponent.marker capital = 69 := by
    cases capital <;> simp [Exponent.marker]
  have sign_read :
      scanSign (Exponent.signText sign ++ (digits.bytes ++ rest)) =
        (decide (sign = some true), digits.bytes ++ rest) := by
    rcases sign with _ | minus
    · obtain ⟨byte, tail, held, decimal⟩ := Digits.exists_cons digits
      simp [Exponent.signText, held, scanSign_of_isDigit decimal]
    · cases minus <;> simp [Exponent.signText, scanSign]
  simp [Exponent.render, readExponent, marked, sign_read, digits_read, some_digits,
    Exponent.value]

variable (number : Number)

/-- The optional exponent of a number is read up to its end. -/
theorem readExponent_exponentText
    (ends : EndsNumber rest) :
    readExponent 101 69 (number.exponentText ++ rest) =
      (number.exponent.elim 0 Exponent.value, rest) := by
  cases held : number.exponent with
  | some exponent =>
      simpa [Number.exponentText, held] using readExponent_render exponent ends
  | none =>
      cases rest with
      | nil => simp [Number.exponentText, held, readExponent]
      | cons byte tail =>
          have other := (ends byte rfl).2
          simp only [List.mem_cons, List.not_mem_nil, or_false, not_or] at other
          simp [Number.exponentText, held, readExponent, other]

/-- The text after the digits of a number starts with no digit, no point and
no `x`. -/
theorem head_exponentText
    (ends : EndsNumber rest) :
    ∀ byte, (number.exponentText ++ rest).head? = some byte →
      isDigit byte = false ∧ byte ≠ 46 ∧ byte ≠ 88 ∧ byte ≠ 120 := by
  cases held : number.exponent with
  | none =>
      intro byte head
      have other := ends byte (by simpa [Number.exponentText, held] using head)
      simp only [List.mem_cons, List.not_mem_nil, or_false, not_or] at other
      simp [other]
  | some exponent =>
      cases capital : exponent.capital <;>
        simp [Number.exponentText, held, Exponent.render, Exponent.marker, capital,
          isDigit]

/-- The unsigned part of a number is read up to its end. -/
theorem readMagnitude_render
    (ends : EndsNumber rest) :
    readMagnitude 10 (number.whole.bytes ++
        (number.fractionText ++ (number.exponentText ++ rest))) =
      some (number.magnitude, rest) := by
  have some_digits : number.whole.bytes.length ≠ 0 := by
    simpa using number.whole.nonempty
  have exponent_read := readExponent_exponentText number ends
  have after_digits :
      ∀ byte, (number.exponentText ++ rest).head? = some byte →
        isDigit byte = false :=
    fun byte head => (head_exponentText number ends byte head).1
  cases held : number.fraction with
  | none =>
      have whole_read := scanDigits_append number.whole.decimal after_digits 0 0
      have no_point :
          ∀ tail, number.exponentText ++ rest = 46 :: tail → False := by
        intro tail starts
        have head := head_exponentText number ends 46 (by simp [starts])
        exact head.2.1 rfl
      simp [readMagnitude, Number.fractionText, held, whole_read, some_digits,
        exponent_read, Number.magnitude, digitsValue]
  | some digits =>
      have point : ∀ byte,
          (46 :: (digits.bytes ++ (number.exponentText ++ rest))).head? = some byte →
            isDigit byte = false := by
        simp [isDigit]
      have whole_read := scanDigits_append number.whole.decimal point 0 0
      have fraction_read := scanDigits_append digits.decimal after_digits
        (digitsValue 0 number.whole.bytes) 0
      simp [readMagnitude, Number.fractionText, held, whole_read, fraction_read,
        some_digits, exponent_read, Number.magnitude]

/-- The double nearest to a number, with its sign. -/
def nearestDouble (number : Number) : Double :=
  signed number.minus number.magnitude

/-- No number is read as hexadecimal. -/
theorem hasPrefix_hexadecimal
    (ends : EndsNumber rest) :
    hasPrefix "0x" (number.whole.bytes ++
      (number.fractionText ++ (number.exponentText ++ rest))) = false := by
  have pattern : (CStr.lit "0x").bytes = [48, 120] := by decide
  obtain ⟨byte, tail, held, decimal⟩ := Digits.exists_cons number.whole
  by_cases zero : byte = 48
  · subst zero
    have alone := number.canonical (by simp [held])
    -- Behind the single zero stands a point, an exponent or the end.
    have next :
        ∀ code, (number.fractionText ++ (number.exponentText ++ rest)).head? =
            some code →
          code ≠ 88 ∧ code ≠ 120 := by
      intro code head
      cases fraction : number.fraction with
      | some digits =>
          simp only [Number.fractionText, fraction, Option.elim_some,
            List.cons_append, List.head?_cons, Option.some.injEq] at head
          subst head
          decide
      | none =>
          simp only [Number.fractionText, fraction, Option.elim_none,
            List.nil_append] at head
          exact (head_exponentText number ends code head).2.2
    rw [alone]
    generalize number.fractionText ++ (number.exponentText ++ rest) = text at next
    cases text with
    | nil => simp [hasPrefix, pattern, List.isPrefixOf]
    | cons code text =>
        have other := next code rfl
        have lowered :
            ¬ 120 = (if 65 ≤ code ∧ code ≤ 90 then code + 32 else code) := by
          split_ifs
          · intro equal
            exact other.1 (by
              have : code = 120 - 32 := by rw [equal]; simp
              rw [this]
              decide)
          · exact fun equal => other.2 equal.symm
        simp [hasPrefix, pattern, List.isPrefixOf, lowered]
  · have lowered : ¬ (65 ≤ byte ∧ byte ≤ 90) := by
      simp [isDigit, UInt8.le_iff_toNat_le] at decimal ⊢
      omega
    have differs : ¬ 48 = byte := fun equal => zero equal.symm
    simp [hasPrefix, pattern, held, List.isPrefixOf, lowered, differs]

/-- `strtod` reads a JSON number up to its end. -/
theorem readDouble_render
    (number : Number)
    {rest : List UInt8}
    (ends : EndsNumber rest) :
    readDouble (number.render ++ rest) = some (nearestDouble number, rest) := by
  have magnitude_read := readMagnitude_render number ends
  have decimal_read := hasPrefix_hexadecimal number ends
  obtain ⟨byte, tail, held, decimal⟩ := Digits.exists_cons number.whole
  rw [held, List.cons_append] at magnitude_read decimal_read
  have words := hasPrefix_of_isDigit decimal
  have unspaced : isSpace byte = false := by
    simp only [isDigit, Bool.and_eq_true, decide_eq_true_eq,
      UInt8.le_iff_toNat_le] at decimal
    simp [isSpace, UInt8.le_iff_toNat_le, ← UInt8.toNat_inj] at decimal ⊢
    omega
  cases sign : number.minus with
  | false =>
      simp [Number.render, sign, held, readDouble, unspaced,
        scanSign_of_isDigit decimal, words, decimal_read, magnitude_read,
        nearestDouble]
  | true =>
      simp [Number.render, sign, held, readDouble, isSpace, scanSign, words,
        decimal_read, magnitude_read, nearestDouble]

/-! ## Printing -/

theorem isDigit_digitByte
    {digit : Nat}
    (small : digit < 10) :
    isDigit (48 + digit).toUInt8 = true := by
  interval_cases digit <;> decide

/-- Numerals are made of digits. -/
theorem isDigit_of_mem_decimalBytes
    (member : byte ∈ CStr.decimalBytes value) :
    isDigit byte = true := by
  unfold CStr.decimalBytes at member
  split at member
  · rw [List.mem_singleton] at member
    rw [member]
    decide
  · simp only [List.mem_map, List.mem_reverse] at member
    obtain ⟨digit, present, rfl⟩ := member
    exact isDigit_digitByte (Nat.digits_lt_base (by decide) present)

/-- The value of no digits. -/
@[simp] theorem digitsValue_nil (start : Nat) : digitsValue start [] = start := by
  simp [digitsValue]

/-- Digits from the last to the first have the value of their number. -/
theorem digitsValue_reverse
    {digits : List Nat}
    (small : ∀ digit ∈ digits, digit < 10) :
    digitsValue 0 (digits.reverse.map fun digit => (48 + digit).toUInt8) =
      Nat.ofDigits 10 digits := by
  induction digits with
  | nil => simp [Nat.ofDigits]
  | cons digit tail hypothesis =>
      rw [List.forall_mem_cons] at small
      have earlier := hypothesis small.2
      have last : (48 + digit).toUInt8.toNat - 48 = digit := by
        have bound : (48 + digit) % 2 ^ 8 = 48 + digit := Nat.mod_eq_of_lt (by omega)
        rw [Nat.toUInt8_eq, UInt8.toNat_ofNat', bound]
        omega
      simp only [digitsValue] at earlier
      simp only [digitsValue, List.reverse_cons, List.map_append, List.foldl_append,
        earlier, List.map_cons, List.map_nil, List.foldl_cons, List.foldl_nil, last,
        Nat.ofDigits_cons]
      omega

/-- A numeral has the value of its number. -/
theorem digitsValue_decimalBytes (value : Nat) :
    digitsValue 0 (CStr.decimalBytes value) = value := by
  unfold CStr.decimalBytes
  split
  · next zero => simp [zero, digitsValue]
  · rw [digitsValue_reverse fun _ => Nat.digits_lt_base (by decide),
      Nat.ofDigits_digits]

/-- A numeral is not empty. -/
theorem decimalBytes_ne_nil (value : Nat) : CStr.decimalBytes value ≠ [] := by
  unfold CStr.decimalBytes
  split
  · simp
  · next positive => simpa [Nat.digits_ne_nil_iff_ne_zero] using positive

/-- The numeral of a positive number does not start with zero. -/
theorem decimalBytes_head
    (positive : value ≠ 0) :
    ∃ byte tail, CStr.decimalBytes value = byte :: tail ∧ byte ≠ 48 := by
  have some_digits : Nat.digits 10 value ≠ [] :=
    Nat.digits_ne_nil_iff_ne_zero.mpr positive
  have nonzero := Nat.getLast_digit_ne_zero 10 positive
  have small := Nat.digits_lt_base (by decide) (List.getLast_mem some_digits)
  have split := List.dropLast_append_getLast some_digits
  generalize (Nat.digits 10 value).getLast some_digits = digit at *
  refine ⟨(48 + digit).toUInt8,
    ((Nat.digits 10 value).dropLast.reverse.map fun digit => (48 + digit).toUInt8),
    ?_, ?_⟩
  · rw [CStr.decimalBytes, if_neg positive, ← split]
    simp
  · interval_cases digit
    · exact absurd rfl nonzero
    all_goals decide

/-- A rational of at least one rounds to a positive integer. -/
theorem roundHalfEven_ne_zero
    {value : ℚ}
    (large : 1 ≤ value) :
    roundHalfEven value ≠ 0 := by
  have floor : (1 : ℤ) ≤ value.floor := by
    exact Rat.le_floor_iff.mpr (by exact_mod_cast large)
  have below : value.floor.toNat ≠ 0 := by omega
  unfold roundHalfEven
  simp only
  split_ifs <;> omega

/-- The significant digits of a positive rational start with no zero. -/
theorem significantDigits_head
    {magnitude : ℚ}
    (positive : 0 < magnitude) :
    ∃ byte tail, (significantDigits magnitude).2 = byte :: tail ∧ byte ≠ 48 ∧
      ∀ digit ∈ byte :: tail, isDigit digit = true := by
  have scaled :
      1 ≤ magnitude * (10 : ℚ) ^ (16 - Int.log 10 magnitude) := by
    have lower : (10 : ℚ) ^ Int.log 10 magnitude ≤ magnitude := by
      exact_mod_cast Int.zpow_log_le_self (R := ℚ) (b := 10) (by decide) positive
    calc (1 : ℚ) ≤ (10 : ℚ) ^ (16 : ℤ) := by norm_num
      _ = (10 : ℚ) ^ Int.log 10 magnitude *
            (10 : ℚ) ^ (16 - Int.log 10 magnitude) := by
          rw [← zpow_add₀ (by norm_num)]
          congr 1
          omega
      _ ≤ magnitude * (10 : ℚ) ^ (16 - Int.log 10 magnitude) := by
          exact mul_le_mul_of_nonneg_right lower (zpow_nonneg (by norm_num) _)
  have numeral :
      ∃ value, value ≠ 0 ∧
        (significantDigits magnitude).2 = CStr.decimalBytes value := by
    unfold significantDigits
    simp only
    split
    · exact ⟨10 ^ 16, by decide, rfl⟩
    · exact ⟨_, roundHalfEven_ne_zero scaled, rfl⟩
  obtain ⟨value, nonzero, same⟩ := numeral
  obtain ⟨byte, tail, held, other⟩ := decimalBytes_head nonzero
  refine ⟨byte, tail, same.trans held, other, fun digit member => ?_⟩
  exact isDigit_of_mem_decimalBytes (held ▸ member)

/-- Digits around a point are a JSON number. -/
theorem withFraction_render
    (whole : Digits)
    {fraction : List UInt8}
    (decimal : ∀ byte ∈ fraction, isDigit byte = true) :
    ∃ places : Option Digits,
      withFraction whole.bytes fraction =
        whole.bytes ++ places.elim [] fun digits => 46 :: digits.bytes := by
  have kept : ∀ byte ∈ fraction.rdropWhile (· = 48), isDigit byte = true :=
    fun byte member => decimal byte ((List.rdropWhile_prefix _ _).subset member)
  unfold withFraction
  split
  · exact ⟨none, by simp⟩
  · next some_digits =>
      exact ⟨some ⟨_, some_digits, kept⟩, by simp⟩

/-- The exponent of the scientific notation is a JSON exponent. -/
theorem exponentSuffix_render (exponent : ℤ) :
    ∃ suffix : Exponent, suffix.render = exponentSuffix exponent := by
  have some_digits : exponentDigits exponent.natAbs ≠ [] := by
    unfold exponentDigits
    split
    · simp
    · exact decimalBytes_ne_nil _
  have decimal : ∀ byte ∈ exponentDigits exponent.natAbs, isDigit byte = true := by
    unfold exponentDigits
    split
    · rw [List.forall_mem_cons]
      exact ⟨by decide, fun byte => isDigit_of_mem_decimalBytes⟩
    · exact fun byte => isDigit_of_mem_decimalBytes
  refine ⟨⟨false, some (decide (exponent < 0)), ⟨_, some_digits, decimal⟩⟩, ?_⟩
  by_cases negative : exponent < 0 <;>
    simp [Exponent.render, Exponent.marker, Exponent.signText, exponentSuffix, negative]

/-- The text of a positive rational is that of a JSON number without sign. -/
theorem formatMagnitude_render
    {magnitude : ℚ}
    (positive : 0 < magnitude) :
    ∃ number : Number,
      number.whole.bytes ++ number.fractionText ++ number.exponentText =
        formatMagnitude magnitude := by
  obtain ⟨byte, tail, held, other, decimal⟩ := significantDigits_head positive
  generalize split : significantDigits magnitude = digits at held
  obtain ⟨exponent, digits⟩ := digits
  simp only at held
  subst held
  -- The digits before the point start with the first significant digit.
  have leading (count : Nat) :
      ∃ whole : Digits, whole.bytes = (byte :: tail).take (count + 1) ∧
        (whole.bytes.head? = some 48 → whole.bytes = [48]) := by
    refine ⟨⟨(byte :: tail).take (count + 1), by simp, fun digit member =>
      decimal digit (List.mem_of_mem_take member)⟩, rfl, fun head => ?_⟩
    simp only [List.take_succ_cons, List.head?_cons, Option.some.injEq] at head
    exact absurd head other
  have following (count : Nat) :
      ∀ digit ∈ (byte :: tail).drop count, isDigit digit = true :=
    fun digit member => decimal digit (List.mem_of_mem_drop member)
  simp only [formatMagnitude, split]
  split_ifs
  · obtain ⟨whole, first, canonical⟩ := leading 0
    obtain ⟨places, point⟩ := withFraction_render whole (following 1)
    obtain ⟨suffix, power⟩ := exponentSuffix_render exponent
    refine ⟨⟨false, whole, canonical, places, some suffix⟩, ?_⟩
    rw [← first, point, ← power]
    simp [Number.fractionText, Number.exponentText]
  · have padded :
        ∀ digit ∈ List.replicate (-exponent - 1).toNat 48 ++ (byte :: tail),
          isDigit digit = true := by
      intro digit member
      rcases List.mem_append.mp member with zero | later
      · rw [List.eq_of_mem_replicate zero]
        decide
      · exact decimal digit later
    obtain ⟨places, point⟩ := withFraction_render
      ⟨[48], by simp, by simp [isDigit]⟩ padded
    refine ⟨⟨false, ⟨[48], by simp, by simp [isDigit]⟩, by simp, places, none⟩, ?_⟩
    rw [point]
    simp [Number.fractionText, Number.exponentText]
  · obtain ⟨whole, first, canonical⟩ := leading exponent.toNat
    obtain ⟨places, point⟩ :=
      withFraction_render whole (following (exponent.toNat + 1))
    refine ⟨⟨false, whole, canonical, places, none⟩, ?_⟩
    rw [← first, point]
    simp [Number.fractionText, Number.exponentText]

/-- `%.17g` prints every finite double as a JSON number. -/
theorem exists_number_formatG17
    {value : Double}
    (finite : value.isFinite = true) :
    ∃ number : Number, number.render = formatG17 value := by
  cases value with
  | nan => simp [isFinite] at finite
  | infinity negative => simp [isFinite] at finite
  | finite value =>
      rcases lt_trichotomy value 0 with below | rfl | above
      · obtain ⟨number, same⟩ := formatMagnitude_render (abs_pos.mpr below.ne)
        refine ⟨{ number with minus := true }, ?_⟩
        simpa [Number.render, Number.fractionText, Number.exponentText, formatG17,
          below, below.ne] using same
      · exact ⟨⟨false, ⟨[48], by simp, by simp [isDigit]⟩, by simp, none, none⟩, by
          simp [Number.render, Number.fractionText, Number.exponentText, formatG17]⟩
      · obtain ⟨number, same⟩ := formatMagnitude_render (abs_pos.mpr above.ne')
        refine ⟨{ number with minus := false }, ?_⟩
        simpa [Number.render, Number.fractionText, Number.exponentText, formatG17,
          above.le.not_gt, above.ne'] using same
  | negativeZero =>
      exact ⟨⟨true, ⟨[48], by simp, by simp [isDigit]⟩, by simp, none, none⟩, by
        simp [Number.render, Number.fractionText, Number.exponentText, formatG17]⟩

/-- Zeros at the end of a numeral. -/
theorem decimalBytes_mul_pow
    (positive : value ≠ 0)
    (zeros : Nat) :
    CStr.decimalBytes (value * 10 ^ zeros) =
      CStr.decimalBytes value ++ List.replicate zeros 48 := by
  have product : value * 10 ^ zeros ≠ 0 := by positivity
  have digits : Nat.digits 10 (10 ^ zeros * value) =
      List.replicate zeros 0 ++ Nat.digits 10 value :=
    Nat.digits_base_pow_mul (by decide) (Nat.pos_of_ne_zero positive)
  unfold CStr.decimalBytes
  rw [if_neg product, if_neg positive, Nat.mul_comm, digits]
  simp

theorem length_decimalBytes
    (positive : value ≠ 0) :
    (CStr.decimalBytes value).length = Nat.log 10 value + 1 := by
  unfold CStr.decimalBytes
  rw [if_neg positive, List.length_map, List.length_reverse,
    Nat.length_digits 10 value (by decide) positive]

/-- The text of a natural number is its numeral. -/
theorem formatG17_natCast
    (small : value < 10 ^ 16) :
    formatG17 (ofInt value) = CStr.decimalBytes value := by
  by_cases zero : value = 0
  · subst zero
    decide +kernel
  · have positive : (0 : ℚ) < value := by exact_mod_cast Nat.pos_of_ne_zero zero
    have exponent : Int.log 10 (value : ℚ) = Nat.log 10 value := Int.log_natCast 10 value
    have bound : Nat.log 10 value < 16 := Nat.log_lt_of_lt_pow zero small
    have scaled : (value : ℚ) * (10 : ℚ) ^ (16 - (Nat.log 10 value : ℤ)) =
        ((value * 10 ^ (16 - Nat.log 10 value) : Nat) : ℚ) := by
      have places : (16 : ℤ) - Nat.log 10 value = ((16 - Nat.log 10 value : Nat) : ℤ) := by omega
      rw [places, zpow_natCast]
      push_cast
      ring
    have below : value * 10 ^ (16 - Nat.log 10 value) ≠ 10 ^ 17 := by
      have upper := Nat.lt_pow_succ_log_self (b := 10) (by decide) value
      have more : value * 10 ^ (16 - Nat.log 10 value) < 10 ^ 17 := by
        calc value * 10 ^ (16 - Nat.log 10 value)
            < 10 ^ (Nat.log 10 value + 1) * 10 ^ (16 - Nat.log 10 value) :=
              Nat.mul_lt_mul_of_pos_right upper (by positivity)
          _ = 10 ^ 17 := by
              rw [← pow_add]
              congr 1
              omega
      exact more.ne
    have digits : significantDigits value = ((Nat.log 10 value : ℤ),
        CStr.decimalBytes value ++ List.replicate (16 - Nat.log 10 value) 48) := by
      unfold significantDigits
      dsimp only
      rw [exponent, scaled, roundHalfEven_natCast, if_neg below, decimalBytes_mul_pow zero]
    have length := length_decimalBytes zero
    unfold formatG17 ofInt
    dsimp only
    rw [Int.cast_natCast, if_neg positive.ne', if_neg positive.not_gt, abs_of_pos positive]
    unfold formatMagnitude
    rw [digits]
    dsimp only
    rw [if_neg (by omega), if_neg (by omega), Int.toNat_natCast, ← length, List.take_left,
      List.drop_left]
    unfold withFraction
    have dropped :
        (List.replicate (16 - Nat.log 10 value) (48 : UInt8)).rdropWhile (· = 48) = [] := by
      rw [List.rdropWhile_eq_nil_iff]
      intro digit member
      rw [List.eq_of_mem_replicate member]
      rfl
    rw [dropped]

/-- A natural number is read back from its text. -/
theorem readDouble_formatG17_natCast
    (small : value < 10 ^ 15) :
    readDouble (formatG17 (ofInt value)) = some (ofInt value, []) := by
  have canonical : (CStr.decimalBytes value).head? = some 48 → CStr.decimalBytes value = [48] := by
    intro head
    by_cases zero : value = 0
    · subst zero
      rfl
    · obtain ⟨byte, tail, held, other⟩ := decimalBytes_head zero
      rw [held] at head
      exact absurd (Option.some.inj head) other
  let number : Number := {
    minus := false
    whole := ⟨CStr.decimalBytes value, decimalBytes_ne_nil value, fun _ =>
      isDigit_of_mem_decimalBytes⟩
    canonical := canonical
    fraction := none
    exponent := none }
  have text : number.render = CStr.decimalBytes value := by
    simp [number, Number.render, Number.fractionText, Number.exponentText]
  have read := @readDouble_render number [] (fun _ head => by cases head)
  have nearest : nearestDouble number = ofInt value := by
    have isValue : number.magnitude = value := by
      simp [number, Number.magnitude, digitsValue_decimalBytes]
    rw [nearestDouble, isValue]
    exact roundToDouble_natCast (by omega)
  rw [List.append_nil, text, nearest] at read
  rw [formatG17_natCast (by omega)]
  exact read

end SbsServer
