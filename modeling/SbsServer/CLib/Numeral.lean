import SbsServer.CLib.Double
import Mathlib.Data.List.DropRight
import Mathlib.Tactic.Positivity

/-!
# Numerals of doubles

`printf` with the format `%.17g`, and `strtod` with its end pointer, in the C
locale.  The number of significant digits is large enough that `strtod` reads
every finite `double` back from its text; nothing here depends on that.
-/

namespace CLib

/-- `isspace` on a byte. -/
def isSpace (byte : UInt8) : Bool :=
  byte = 32 || (9 ≤ byte && byte ≤ 13)

namespace Double

/-- The test for a number that is neither infinite nor a not-a-number. -/
def isFinite : Double → Bool
  | finite _ => true
  | negativeZero => true
  | _ => false

/-- Decimal exponent and the seventeen significant digits of a positive
rational, rounded to nearest. -/
def significantDigits (magnitude : ℚ) : ℤ × List UInt8 :=
  let exponent := Int.log 10 magnitude
  let scaled := roundHalfEven (magnitude * (10 : ℚ) ^ (16 - exponent))
  if scaled = 10 ^ 17 then (exponent + 1, CStr.decimalBytes (10 ^ 16))
  else (exponent, CStr.decimalBytes scaled)

/-- Digits around a decimal point; zeros at the end are dropped, and the point
with them when no digit stays behind it. -/
def withFraction (whole fraction : List UInt8) : List UInt8 :=
  match fraction.rdropWhile (· = 48) with
  | [] => whole
  | digits => whole ++ 46 :: digits

/-- The digits of an exponent, two at least. -/
def exponentDigits (magnitude : Nat) : List UInt8 :=
  if magnitude < 10 then 48 :: CStr.decimalBytes magnitude
  else CStr.decimalBytes magnitude

/-- The exponent of the scientific notation. -/
def exponentSuffix (exponent : ℤ) : List UInt8 :=
  101 :: (if exponent < 0 then 45 else 43) :: exponentDigits exponent.natAbs

/-- The digits of a positive rational, without its sign. -/
def formatMagnitude (magnitude : ℚ) : List UInt8 :=
  let (exponent, digits) := significantDigits magnitude
  if exponent < -4 ∨ 17 ≤ exponent then
    withFraction (digits.take 1) (digits.drop 1) ++ exponentSuffix exponent
  else if exponent < 0 then
    withFraction [48] (List.replicate (-exponent - 1).toNat 48 ++ digits)
  else
    withFraction (digits.take (exponent.toNat + 1))
      (digits.drop (exponent.toNat + 1))

/-- The text of `printf` for the format `%.17g`. -/
def formatG17 : Double → List UInt8
  | nan => [110, 97, 110]
  | infinity true => [45, 105, 110, 102]
  | infinity false => [105, 110, 102]
  | finite value =>
      if value = 0 then [48]
      else if value < 0 then 45 :: formatMagnitude |value|
      else formatMagnitude |value|
  | negativeZero => [45, 48]

/-- Optional exponent after one of two marker bytes, and the text behind it.
A marker without digits is not part of the number. -/
def readExponent (lower upper : UInt8) : List UInt8 → ℤ × List UInt8
  | [] => (0, [])
  | marker :: rest =>
      if marker = lower ∨ marker = upper then
        let (negative, digits) := scanSign rest
        let (value, count, after) := scanDigits 10 0 0 digits
        if count = 0 then (0, marker :: rest)
        else (if negative then -(value : ℤ) else value, after)
      else (0, marker :: rest)

/-- Magnitude of the longest number at the head of an unsigned text and the
text behind it. -/
def readMagnitude (base : Nat) (text : List UInt8) : Option (ℚ × List UInt8) :=
  let (whole, wholeCount, rest) := scanDigits base 0 0 text
  let (digits, count, rest) := match rest with
    | 46 :: fraction => scanDigits base whole 0 fraction
    | _ => (whole, 0, rest)
  if wholeCount + count = 0 then none
  else
    let scaled : ℚ := digits / base ^ count
    if base = 16 then
      let (exponent, rest) := readExponent 112 80 rest
      some (scaled * twoPow exponent, rest)
    else
      let (exponent, rest) := readExponent 101 69 rest
      some (scaled * (10 : ℚ) ^ exponent, rest)

/-- The text behind `nan`, after an optional parenthesised word. -/
def afterNan (text : List UInt8) : List UInt8 :=
  let isWord := fun byte : UInt8 =>
    (48 ≤ byte ∧ byte ≤ 57) ∨ (65 ≤ byte ∧ byte ≤ 90) ∨ byte = 95 ∨
      (97 ≤ byte ∧ byte ≤ 122)
  match text with
  | 40 :: rest =>
      match rest.dropWhile (isWord ·) with
      | 41 :: after => after
      | _ => text
  | _ => text

/-- `strtod`: the number at the head of a text and the text at the end
pointer, or nothing when the end pointer stays at the start. -/
def readDouble (text : List UInt8) : Option (Double × List UInt8) :=
  let (negative, body) := scanSign (text.dropWhile isSpace)
  if hasPrefix "infinity" body then some (infinity negative, body.drop 8)
  else if hasPrefix "inf" body then some (infinity negative, body.drop 3)
  else if hasPrefix "nan" body then some (nan, afterNan (body.drop 3))
  else
    let hexadecimal :=
      if hasPrefix "0x" body then readMagnitude 16 (body.drop 2) else none
    match hexadecimal, readMagnitude 10 body with
    | some (magnitude, rest), _ => some (signed negative magnitude, rest)
    | none, some (magnitude, rest) => some (signed negative magnitude, rest)
    | none, none => none

/-- Each digit that is counted is taken off the text. -/
theorem length_scanDigits
    (base value count : Nat)
    (text : List UInt8) :
    (scanDigits base value count text).2.1 +
        (scanDigits base value count text).2.2.length =
      count + text.length := by
  induction text generalizing value count with
  | nil => simp [scanDigits]
  | cons byte tail hypothesis =>
      rw [scanDigits]
      split
      · next digit _ =>
          rw [hypothesis, List.length_cons]
          omega
      · simp

/-- A sign takes no more than one byte. -/
theorem length_scanSign_le (text : List UInt8) :
    (scanSign text).2.length ≤ text.length := by
  unfold scanSign
  split <;> simp

/-- An exponent does not lengthen the text. -/
theorem length_readExponent_le
    (lower upper : UInt8)
    (text : List UInt8) :
    (readExponent lower upper text).2.length ≤ text.length := by
  unfold readExponent
  split
  · simp
  · next marker rest =>
      have sign := length_scanSign_le rest
      have digits := length_scanDigits 10 0 0 (scanSign rest).2
      generalize scanSign rest = signed at sign digits ⊢
      obtain ⟨negative, behind⟩ := signed
      simp only at sign digits ⊢
      generalize scanDigits 10 0 0 behind = scanned at digits ⊢
      obtain ⟨value, count, after⟩ := scanned
      simp only at digits ⊢
      split_ifs <;> simp only [List.length_cons] <;> omega

/-- A magnitude takes text. -/
theorem length_readMagnitude_lt
    {base : Nat}
    {text rest : List UInt8}
    {magnitude : ℚ}
    (read : readMagnitude base text = some (magnitude, rest)) :
    rest.length < text.length := by
  have whole := length_scanDigits base 0 0 text
  unfold readMagnitude at read
  generalize scanDigits base 0 0 text = scanned at whole read
  obtain ⟨value, count, behind⟩ := scanned
  simp only at whole read
  split at read
  · next tail =>
      have places := length_scanDigits base value 0 tail
      generalize scanDigits base value 0 tail = scanned at places read
      obtain ⟨digits, places_count, after⟩ := scanned
      have decimal := length_readExponent_le 101 69 after
      have binary := length_readExponent_le 112 80 after
      simp only [List.length_cons] at places whole read
      split_ifs at read
      all_goals
        simp only [Option.some.injEq, Prod.mk.injEq] at read
        rw [← read.2]
        omega
  · have decimal := length_readExponent_le 101 69 behind
    have binary := length_readExponent_le 112 80 behind
    simp only at read
    split_ifs at read
    all_goals
      simp only [Option.some.injEq, Prod.mk.injEq] at read
      rw [← read.2]
      omega

/-- A word at the head of a text is part of it. -/
theorem length_of_hasPrefix
    {pattern : String}
    {text : List UInt8}
    (starts : hasPrefix pattern text = true) :
    (CStr.lit pattern).bytes.length ≤ text.length := by
  have shorter := (List.isPrefixOf_iff_prefix.mp starts).length_le
  simpa using shorter

/-- A parenthesised word does not lengthen the text. -/
theorem length_afterNan_le (text : List UInt8) :
    (afterNan text).length ≤ text.length := by
  unfold afterNan
  simp only
  split
  · next rest =>
      split
      · next after held =>
          have suffix : 41 :: after <:+ rest := held ▸ List.dropWhile_suffix _
          have shorter := suffix.length_le
          simp only [List.length_cons] at shorter ⊢
          omega
      · simp
  · simp

/-- `strtod` takes text when it moves its end pointer. -/
theorem length_readDouble_lt
    {text rest : List UInt8}
    {value : Double}
    (read : readDouble text = some (value, rest)) :
    rest.length < text.length := by
  have blank := List.length_dropWhile_le isSpace text
  have sign := length_scanSign_le (text.dropWhile isSpace)
  unfold readDouble at read
  generalize scanSign (text.dropWhile isSpace) = signed at sign read
  obtain ⟨negative, body⟩ := signed
  simp only at sign read
  have shorter : body.length ≤ text.length := sign.trans blank
  have dropped (count : Nat) (positive : 0 < count) (long : count ≤ body.length) :
      (body.drop count).length < text.length := by
    rw [List.length_drop]
    omega
  by_cases infinity : hasPrefix "infinity" body = true
  · rw [if_pos infinity] at read
    cases read
    have long : 8 ≤ body.length := length_of_hasPrefix infinity
    exact dropped 8 (by decide) long
  rw [if_neg infinity] at read
  by_cases inf : hasPrefix "inf" body = true
  · rw [if_pos inf] at read
    cases read
    have long : 3 ≤ body.length := length_of_hasPrefix inf
    exact dropped 3 (by decide) long
  rw [if_neg inf] at read
  by_cases nan : hasPrefix "nan" body = true
  · rw [if_pos nan] at read
    cases read
    have long : 3 ≤ body.length := length_of_hasPrefix nan
    exact (length_afterNan_le _).trans_lt (dropped 3 (by decide) long)
  rw [if_neg nan] at read
  have hexadecimal : ∀ magnitude after,
      (if hasPrefix "0x" body = true then readMagnitude 16 (body.drop 2) else none) =
        some (magnitude, after) →
      after.length < text.length := by
    intro magnitude after found
    split_ifs at found
    have taken := length_readMagnitude_lt found
    rw [List.length_drop] at taken
    omega
  generalize (if hasPrefix "0x" body = true then readMagnitude 16 (body.drop 2)
    else none) = candidate at hexadecimal read
  cases candidate with
  | some found =>
      obtain ⟨magnitude, after⟩ := found
      cases read
      exact hexadecimal _ _ rfl
  | none =>
      cases decimal : readMagnitude 10 body with
      | none => simp [decimal] at read
      | some found =>
          have taken := length_readMagnitude_lt decimal
          simp only [decimal, Option.some.injEq, Prod.mk.injEq] at read
          rw [← read.2]
          omega

end Double

/-- `strtoul` in base 10, without its end pointer; what does not fit gives `ULONG_MAX`. -/
def strtoul (text : List UInt8) : UInt64 :=
  let (negative, digits) := Double.scanSign (text.dropWhile isSpace)
  let (value, _, _) := Double.scanDigits 10 0 0 digits
  if 2 ^ 64 ≤ value then 18446744073709551615
  else if negative then -UInt64.ofNat value
  else UInt64.ofNat value

end CLib
