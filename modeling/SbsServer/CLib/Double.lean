import SbsServer.CLib.Str
import Mathlib.Data.Int.Log
import Mathlib.Data.Rat.Floor
import Mathlib.Tactic.NormNum
import Mathlib.Tactic.FieldSimp
import Mathlib.Tactic.Linarith
import Mathlib.Tactic.Positivity

/-!
# Double-precision numbers

A `double` is a not-a-number, an infinity, a finite value given exactly as a
rational, or the zero with a sign.  Only `roundToDouble` rounds; conversions
from 32-bit integers are exact.  Conversions to integers follow the AArch64
instructions of the target (`FCVTZS`, `FCVTZU`, `FCVTAS`): out-of-range values
saturate and a not-a-number becomes zero.
-/

namespace CLib

/-- The value of a C `double`. -/
inductive Double
  | nan
  | infinity (negative : Bool)
  | finite (value : ℚ)
  | negativeZero
  deriving DecidableEq

namespace Double

/-- What comparisons and conversions to integers read: the two zeros are equal. -/
def plain : Double → Double
  | negativeZero => finite 0
  | value => value

/-- The unary minus. -/
def negate : Double → Double
  | nan => nan
  | infinity negative => infinity !negative
  | finite value => if value = 0 then negativeZero else finite (-value)
  | negativeZero => finite 0

@[simp] theorem plain_negate_finite (value : ℚ) :
    (finite value).negate.plain = finite (-value) := by
  by_cases zero : value = 0
  · simp [negate, plain, zero]
  · simp [negate, plain, zero]

/-- The integer nearest to a nonnegative rational, ties to even. -/
def roundHalfEven (value : ℚ) : Nat :=
  let below := value.floor.toNat
  let rest := value - below
  if rest < 1 / 2 then below
  else if 1 / 2 < rest then below + 1
  else if below % 2 = 0 then below
  else below + 1

/-- Rational power of two. -/
def twoPow (exponent : ℤ) : ℚ :=
  if 0 ≤ exponent then (2 : ℚ) ^ exponent.toNat
  else 1 / (2 : ℚ) ^ (-exponent).toNat

/-- Exponent of the last bit kept when a positive rational is rounded to 53
significant bits, not below the subnormal limit. -/
def unitExponent (magnitude : ℚ) : ℤ :=
  let guess : ℤ := (Nat.log2 magnitude.num.natAbs : ℤ) - Nat.log2 magnitude.den
  let exponent := if magnitude < twoPow guess then guess - 1 else guess
  max (exponent - 52) (-1074)

/-- Rounding to the nearest binary64 value, ties to even. -/
def roundToDouble (value : ℚ) : Double :=
  if value = 0 then finite 0
  else
    let magnitude := |value|
    let unit := twoPow (unitExponent magnitude)
    let rounded := roundHalfEven (magnitude / unit) * unit
    if twoPow 1024 ≤ rounded then infinity (decide (value < 0))
    else if value < 0 then (finite rounded).negate
    else finite rounded

/-- Conversion of an integer of at most 53 bits, which is exact. -/
def ofInt (value : ℤ) : Double :=
  finite value

/-- Division by a positive constant. -/
def divRat (dividend : Double) (divisor : ℚ) : Double :=
  match dividend with
  | nan => nan
  | infinity negative => infinity negative
  | finite value => roundToDouble (value / divisor)
  | negativeZero => negativeZero

/-- The test `value >= 0.0`. -/
def nonneg : Double → Bool
  | nan => false
  | infinity negative => !negative
  | finite value => decide (0 ≤ value)
  | negativeZero => true

/-- The test `value > 0.0`. -/
def positive : Double → Bool
  | nan => false
  | infinity negative => !negative
  | finite value => decide (0 < value)
  | negativeZero => false

/-- The test `value >= bound`. -/
def atLeast (value : Double) (bound : ℚ) : Bool :=
  match value with
  | nan => false
  | infinity negative => !negative
  | finite value => decide (bound ≤ value)
  | negativeZero => decide (bound ≤ 0)

/-- Rounding toward zero. -/
def truncate (value : ℚ) : ℤ :=
  if 0 ≤ value then value.floor else value.ceil

/-- Rounding to the nearest integer, ties away from zero. -/
def roundHalfAway (value : ℚ) : ℤ :=
  if 0 ≤ value then (value + 1 / 2).floor else (value - 1 / 2).ceil

/-- Saturating conversion to the integers from `least` to `greatest`. -/
def saturate
    (round : ℚ → ℤ)
    (least greatest : ℤ) : Double → ℤ
  | nan => 0
  | infinity true => least
  | infinity false => greatest
  | finite value => max least (min greatest (round value))
  | negativeZero => max least (min greatest (round 0))

/-- The cast `(int)value`. -/
def toInt32 (value : Double) : Int32 :=
  Int32.ofInt (saturate truncate (-2147483648) 2147483647 value)

/-- The cast `(uint32_t)value`. -/
def toUInt32 (value : Double) : UInt32 :=
  UInt32.ofNat (saturate truncate 0 4294967295 value).toNat

/-- `lround`. -/
def lround (value : Double) : ℤ :=
  saturate roundHalfAway (-9223372036854775808) 9223372036854775807 value

theorem truncate_intCast (value : ℤ) : truncate (value : ℚ) = value := by
  unfold truncate
  split
  · exact Rat.floor_intCast value
  · exact Rat.ceil_intCast value

/-- An `int` survives the conversion to `double` and back. -/
@[simp] theorem toInt32_ofInt (value : Int32) :
    toInt32 (ofInt value.toInt) = value := by
  have lower := value.le_toInt
  have upper := value.toInt_lt
  have inRange : max (-2147483648) (min 2147483647 value.toInt) = value.toInt := by
    omega
  simp only [toInt32, ofInt, saturate, truncate_intCast, inRange,
    Int32.ofInt_toInt]

/-- A `uint32_t` survives the conversion to `double` and back. -/
@[simp] theorem toUInt32_ofInt (value : UInt32) :
    toUInt32 (ofInt value.toNat) = value := by
  have upper := value.toNat_lt
  have inRange :
      max 0 (min 4294967295 (value.toNat : ℤ)) = value.toNat := by
    omega
  simp only [toUInt32, ofInt, saturate, truncate_intCast, inRange,
    Int.toNat_natCast, UInt32.ofNat_toNat]

/-- A natural number rounds to itself. -/
theorem roundHalfEven_natCast (value : Nat) : roundHalfEven value = value := by
  have floor : (value : ℚ).floor = value := by
    exact_mod_cast Rat.floor_intCast value
  simp [roundHalfEven, floor]

/-- Negative powers of two. -/
theorem twoPow_neg (exponent : Nat) : twoPow (-(exponent : ℤ)) = 1 / 2 ^ exponent := by
  unfold twoPow
  split
  · next nonneg =>
      have zero : exponent = 0 := by omega
      simp [zero]
  · simp

/-- Naturals of at most 53 bits keep a whole number of units. -/
theorem unitExponent_natCast
    {value : Nat}
    (small : value < 2 ^ 53) :
    ∃ places : Nat, unitExponent value = -places := by
  have magnitude : Nat.log2 value ≤ 52 := by
    by_cases zero : value = 0
    · simp [zero]
    · have := (Nat.log2_lt zero).mpr small
      omega
  have bound : unitExponent value ≤ 0 := by
    have guess : (Nat.log2 (value : ℚ).num.natAbs : ℤ) -
        Nat.log2 (value : ℚ).den ≤ 52 := by
      simp only [Rat.num_natCast, Int.natAbs_natCast]
      omega
    unfold unitExponent
    simp only
    split <;> omega
  exact ⟨(unitExponent value).natAbs, by omega⟩

/-- Naturals of at most 53 bits are exact. -/
theorem roundToDouble_natCast
    {value : Nat}
    (small : value < 2 ^ 53) :
    roundToDouble value = ofInt value := by
  by_cases zero : value = 0
  · simp [zero, roundToDouble, ofInt]
  · obtain ⟨places, unit⟩ := unitExponent_natCast small
    have positive : (0 : ℚ) < value := by exact_mod_cast Nat.pos_of_ne_zero zero
    have scaled : (value : ℚ) / twoPow (-(places : ℤ)) = ((value * 2 ^ places : Nat) : ℚ) := by
      rw [twoPow_neg]
      push_cast
      simp
    have exact_units : ((value * 2 ^ places : Nat) : ℚ) * twoPow (-(places : ℤ)) = value := by
      rw [twoPow_neg]
      push_cast
      field_simp
    have finite : ¬ twoPow 1024 ≤ (value : ℚ) := by
      have limit : twoPow 1024 = 2 ^ 1024 := by simp [twoPow]
      rw [limit, not_le]
      calc (value : ℚ) < 2 ^ 53 := by exact_mod_cast small
        _ ≤ 2 ^ 1024 := pow_le_pow_right₀ (by norm_num) (by norm_num)
    simp only [roundToDouble, abs_of_pos positive, unit, scaled, roundHalfEven_natCast,
      exact_units, if_neg finite, if_neg positive.ne', if_neg positive.not_gt, ofInt]
    simp

/-- Decimal digits of a natural number, padded with zeros to a width. -/
def paddedDigits (width value : Nat) : List UInt8 :=
  (List.range width).reverse.map fun position =>
    (48 + value / 10 ^ position % 10).toUInt8

/-- Text of a finite value for the format `%.Nf`, from its sign and magnitude. -/
def fixedText (places : Nat) (negative : Bool) (magnitude : ℚ) : CStr :=
  let scaled := roundHalfEven (magnitude * 10 ^ places)
  CStr.ofBytes
    ((if negative then [45] else []) ++
      CStr.decimalBytes (scaled / 10 ^ places) ++
      (if places = 0 then [] else
        46 :: paddedDigits places (scaled % 10 ^ places)))

/-- Text of `printf` for the format `%.Nf` with `places` digits. -/
def formatFixed (places : Nat) : Double → CStr
  | nan => "nan"
  | infinity true => "-inf"
  | infinity false => "inf"
  | finite value => fixedText places (decide (value < 0)) |value|
  | negativeZero => fixedText places true 0

/-- Value of a byte as a digit in a base of at most sixteen. -/
def digitOf (base : Nat) (byte : UInt8) : Option Nat :=
  let code := byte.toNat
  let value :=
    if 48 ≤ code ∧ code ≤ 57 then code - 48
    else if 97 ≤ code ∧ code ≤ 102 then code - 87
    else if 65 ≤ code ∧ code ≤ 70 then code - 55
    else base
  if value < base then some value else none

/-- Leading digits of a text: their value, their number and the rest. -/
def scanDigits (base : Nat) :
    (accumulator count : Nat) → List UInt8 → Nat × Nat × List UInt8
  | accumulator, count, [] => (accumulator, count, [])
  | accumulator, count, byte :: rest =>
      match digitOf base byte with
      | some digit => scanDigits base (accumulator * base + digit) (count + 1) rest
      | none => (accumulator, count, byte :: rest)

/-- Optional sign of a number. -/
def scanSign : List UInt8 → Bool × List UInt8
  | 45 :: rest => (true, rest)
  | 43 :: rest => (false, rest)
  | text => (false, text)

/-- Optional exponent after one of two marker bytes; zero when malformed. -/
def scanExponent (lower upper : UInt8) : List UInt8 → ℤ
  | marker :: rest =>
      if marker = lower ∨ marker = upper then
        let (negative, digits) := scanSign rest
        let (value, _, _) := scanDigits 10 0 0 digits
        if negative then -(value : ℤ) else value
      else 0
  | [] => 0

/-- Magnitude of the longest number at the head of an unsigned text, in base
ten (`e` exponents of ten) or sixteen (`p` exponents of two). -/
def scanMagnitude (base : Nat) (text : List UInt8) : Option ℚ :=
  let (whole, wholeCount, rest) := scanDigits base 0 0 text
  let (digits, count, rest) := match rest with
    | 46 :: fraction => scanDigits base whole 0 fraction
    | _ => (whole, 0, rest)
  if wholeCount + count = 0 then none
  else
    let scaled : ℚ := digits / base ^ count
    if base = 16 then some (scaled * twoPow (scanExponent 112 80 rest))
    else
      let exponent := scanExponent 101 69 rest
      if 0 ≤ exponent then some (scaled * 10 ^ exponent.toNat)
      else some (scaled / 10 ^ (-exponent).toNat)

/-- Case-insensitive test for a lower-case prefix. -/
def hasPrefix (pattern : String) (text : List UInt8) : Bool :=
  let lowered := text.map fun byte =>
    if 65 ≤ byte ∧ byte ≤ 90 then byte + 32 else byte
  (CStr.lit pattern).bytes.isPrefixOf lowered

/-- The value of a sign and a magnitude. -/
def signed (negative : Bool) (magnitude : ℚ) : Double :=
  if negative then (roundToDouble magnitude).negate else roundToDouble magnitude

/-- The value `g_ascii_strtod` reads from the head of a text; zero when the
text does not start with a number. -/
def strtod (text : CStr) : Double :=
  let isSpace := fun byte : UInt8 => byte = 32 ∨ (9 ≤ byte ∧ byte ≤ 13)
  let (negative, body) := scanSign (text.bytes.dropWhile (isSpace ·))
  if hasPrefix "inf" body then infinity negative
  else if hasPrefix "nan" body then nan
  else
    let hexadecimal :=
      if hasPrefix "0x" body then scanMagnitude 16 (body.drop 2) else none
    match hexadecimal, scanMagnitude 10 body with
    | some magnitude, _ => signed negative magnitude
    | none, some magnitude => signed negative magnitude
    | none, none => finite 0

end Double
end CLib
