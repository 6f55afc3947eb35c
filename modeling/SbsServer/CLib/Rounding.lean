import SbsServer.CLib.Double

/-!
# Rounding is monotone

Rounding to the nearest value of a binary format, for any number of fraction
bits, least unit and overflow threshold.  Between two magnitudes with one unit
the order is that of the rounded quotients; between two units there is a power of
two that both roundings respect.
-/

namespace CLib
namespace Double

/-- The order of values without signed zeros. -/
def plainAtMost : Double → Double → Bool
  | infinity first, infinity second => first || !second
  | infinity first, finite _ => first
  | finite _, infinity second => !second
  | finite first, finite second => decide (first ≤ second)
  | _, _ => false

/-- The test `first <= second`. -/
def atMost (first second : Double) : Bool :=
  first.plain.plainAtMost second.plain

/-- The test `value < 0.0`. -/
def negative : Double → Bool
  | nan => false
  | infinity negative => negative
  | finite value => decide (value < 0)
  | negativeZero => false

theorem plainAtMost_trans
    {first second third : Double}
    (left : first.plainAtMost second = true)
    (right : second.plainAtMost third = true) :
    first.plainAtMost third = true := by
  cases first with
  | nan => cases left
  | negativeZero => cases left
  | infinity lowest =>
      cases second with
      | nan => cases left
      | negativeZero => cases left
      | infinity middle =>
          cases third with
          | nan => cases right
          | negativeZero => cases right
          | infinity highest =>
              simp only [plainAtMost, Bool.or_eq_true, Bool.not_eq_true'] at left right ⊢
              grind
          | finite highest =>
              simp only [plainAtMost, Bool.or_eq_true, Bool.not_eq_true'] at left right ⊢
              grind
      | finite middle =>
          obtain rfl : lowest = true := left
          cases third with
          | nan => cases right
          | negativeZero => cases right
          | infinity highest => rfl
          | finite highest => rfl
  | finite lowest =>
      cases second with
      | nan => cases left
      | negativeZero => cases left
      | infinity middle => cases third <;> simp_all [plainAtMost]
      | finite middle =>
          cases third with
          | nan => cases right
          | negativeZero => cases right
          | infinity highest => exact right
          | finite highest =>
              exact decide_eq_true
                ((of_decide_eq_true left).trans (of_decide_eq_true right))

/-- The three kinds of values that comparisons tell apart. -/
theorem plain_cases (value : Double) :
    value = nan ∨ (∃ negative, value = infinity negative) ∨
      ∃ number, value.plain = finite number := by
  cases value with
  | nan => exact .inl rfl
  | infinity negative => exact .inr (.inl ⟨negative, rfl⟩)
  | finite number => exact .inr (.inr ⟨number, rfl⟩)
  | negativeZero => exact .inr (.inr ⟨0, rfl⟩)

theorem negate_finite_ne_nan (value : ℚ) : (finite value).negate ≠ nan := by
  by_cases zero : value = 0
  · simp [negate, zero]
  · simp [negate, zero]

theorem atMost_trans
    {first second third : Double}
    (left : first.atMost second = true)
    (right : second.atMost third = true) :
    first.atMost third = true :=
  plainAtMost_trans left right

variable {first second value : Double}

theorem infinity_true_atMost
    (number : value ≠ nan) :
    (infinity true).atMost value = true := by
  cases value with
  | nan => exact absurd rfl number
  | infinity negative => rfl
  | finite value => rfl
  | negativeZero => rfl

theorem atMost_infinity_false
    (number : value ≠ nan) :
    value.atMost (infinity false) = true := by
  cases value with
  | nan => exact absurd rfl number
  | infinity negative => exact Bool.or_true negative
  | finite value => rfl
  | negativeZero => rfl

theorem atLeast_eq_atMost (value : Double) (bound : ℚ) :
    value.atLeast bound = (finite bound).atMost value := by
  cases value <;> rfl

/-- A lower bound is passed on. -/
theorem atLeast_of_atMost
    {bound : ℚ}
    (ordered : first.atMost second = true)
    (reaches : first.atLeast bound = true) :
    second.atLeast bound = true := by
  rw [atLeast_eq_atMost] at reaches ⊢
  exact atMost_trans reaches ordered

/-- What does not reach a bound is at most the bound. -/
theorem atMost_of_not_atLeast
    {bound : ℚ}
    (number : value ≠ nan)
    (short : value.atLeast bound = false) :
    value.atMost (finite bound) = true := by
  cases value with
  | nan => exact absurd rfl number
  | infinity other =>
      have lowest : other = true := by simpa [atLeast] using short
      exact lowest
  | finite value => exact decide_eq_true (not_le.mp (of_decide_eq_false short)).le
  | negativeZero => exact decide_eq_true (not_le.mp (of_decide_eq_false short)).le

/-- What is at least zero is not negative. -/
theorem not_negative_of_atMost
    (ordered : (finite 0).atMost value = true) :
    value.negative = false := by
  cases value with
  | nan => cases ordered
  | infinity other =>
      have highest : (!other) = true := ordered
      exact Bool.not_eq_true' other |>.mp highest
  | finite value => exact decide_eq_false (not_lt.mpr (of_decide_eq_true ordered))
  | negativeZero => rfl

theorem ne_nan_of_atMost
    (ordered : first.atMost second = true) :
    second ≠ nan := by
  rintro rfl
  cases first <;> cases ordered

theorem twoPow_eq_zpow (exponent : ℤ) : twoPow exponent = (2 : ℚ) ^ exponent := by
  unfold twoPow
  split
  next nonneg =>
    obtain ⟨places, rfl⟩ := Int.eq_ofNat_of_zero_le nonneg
    rfl
  next negative =>
    obtain ⟨places, places_eq⟩ := Int.eq_ofNat_of_zero_le (a := -exponent) (by omega)
    have exponent_eq : exponent = -(places : ℤ) := by omega
    rw [exponent_eq, neg_neg, Int.toNat_natCast, zpow_neg, zpow_natCast, one_div]

/-- The exponent of the leading bit of a positive rational. -/
def binaryExponent (magnitude : ℚ) : ℤ :=
  let guess : ℤ := (Nat.log2 magnitude.num.natAbs : ℤ) - Nat.log2 magnitude.den
  if magnitude < twoPow guess then guess - 1 else guess

theorem binaryExponent_spec
    {magnitude : ℚ}
    (positive : 0 < magnitude) :
    (2 : ℚ) ^ binaryExponent magnitude ≤ magnitude ∧
      magnitude < (2 : ℚ) ^ (binaryExponent magnitude + 1) := by
  have denominator : (0 : ℚ) < magnitude.den := by exact_mod_cast magnitude.den_pos
  have numerator : (magnitude.num.natAbs : ℚ) = magnitude * magnitude.den := by
    have nonneg : 0 ≤ magnitude.num := Rat.num_nonneg.mpr positive.le
    have cast : ((magnitude.num.natAbs : ℕ) : ℚ) = (magnitude.num : ℚ) := by
      rw [← Int.cast_natCast, Int.natAbs_of_nonneg nonneg]
    rw [cast, Rat.mul_den_eq_num]
  have numeratorPositive : magnitude.num.natAbs ≠ 0 :=
    Int.natAbs_ne_zero.mpr (Rat.num_ne_zero.mpr positive.ne')
  have numeratorLow : (2 : ℚ) ^ (Nat.log2 magnitude.num.natAbs : ℤ) ≤ magnitude.num.natAbs := by
    rw [zpow_natCast]
    exact_mod_cast Nat.log2_self_le numeratorPositive
  have numeratorHigh :
      (magnitude.num.natAbs : ℚ) < (2 : ℚ) ^ ((Nat.log2 magnitude.num.natAbs : ℤ) + 1) := by
    have below : magnitude.num.natAbs < 2 ^ (Nat.log2 magnitude.num.natAbs + 1) :=
      Nat.lt_log2_self
    exact_mod_cast below
  have denominatorLow : (2 : ℚ) ^ (Nat.log2 magnitude.den : ℤ) ≤ magnitude.den := by
    rw [zpow_natCast]
    exact_mod_cast Nat.log2_self_le magnitude.den_nz
  have denominatorHigh :
      (magnitude.den : ℚ) < (2 : ℚ) ^ ((Nat.log2 magnitude.den : ℤ) + 1) := by
    have below : magnitude.den < 2 ^ (Nat.log2 magnitude.den + 1) := Nat.lt_log2_self
    exact_mod_cast below
  unfold binaryExponent
  dsimp only
  generalize (Nat.log2 magnitude.num.natAbs : ℤ) = top at *
  generalize (Nat.log2 magnitude.den : ℤ) = bottom at *
  rw [numerator] at numeratorLow numeratorHigh
  have above : (2 : ℚ) ^ (top - bottom - 1) ≤ magnitude := by
    have scaled : (2 : ℚ) ^ (top - bottom - 1) * (2 : ℚ) ^ (bottom + 1) = (2 : ℚ) ^ top := by
      rw [← zpow_add₀ two_ne_zero]
      congr 1
      omega
    have bounded : (2 : ℚ) ^ (top - bottom - 1) * magnitude.den ≤
        magnitude * magnitude.den := by
      calc (2 : ℚ) ^ (top - bottom - 1) * magnitude.den
          ≤ (2 : ℚ) ^ (top - bottom - 1) * (2 : ℚ) ^ (bottom + 1) :=
            mul_le_mul_of_nonneg_left denominatorHigh.le (zpow_pos two_pos _).le
        _ = (2 : ℚ) ^ top := scaled
        _ ≤ magnitude * magnitude.den := numeratorLow
    exact le_of_mul_le_mul_right bounded denominator
  have below : magnitude < (2 : ℚ) ^ (top - bottom + 1) := by
    have scaled : (2 : ℚ) ^ (top - bottom + 1) * (2 : ℚ) ^ bottom = (2 : ℚ) ^ (top + 1) := by
      rw [← zpow_add₀ two_ne_zero]
      congr 1
      omega
    have bounded : magnitude * magnitude.den <
        (2 : ℚ) ^ (top - bottom + 1) * magnitude.den := by
      calc magnitude * magnitude.den
          < (2 : ℚ) ^ (top + 1) := numeratorHigh
        _ = (2 : ℚ) ^ (top - bottom + 1) * (2 : ℚ) ^ bottom := scaled.symm
        _ ≤ (2 : ℚ) ^ (top - bottom + 1) * magnitude.den :=
            mul_le_mul_of_nonneg_left denominatorLow (zpow_pos two_pos _).le
    exact lt_of_mul_lt_mul_right bounded denominator.le
  rw [twoPow_eq_zpow]
  split
  next small =>
    rw [sub_add_cancel]
    exact ⟨above, small⟩
  next large => exact ⟨not_lt.mp large, below⟩

/-- A larger magnitude has no smaller exponent. -/
theorem binaryExponent_le
    {first second : ℚ}
    (positive : 0 < first)
    (ordered : first ≤ second) :
    binaryExponent first ≤ binaryExponent second := by
  have lower := (binaryExponent_spec positive).1
  have upper := (binaryExponent_spec (positive.trans_le ordered)).2
  have powers : (2 : ℚ) ^ binaryExponent first < (2 : ℚ) ^ (binaryExponent second + 1) :=
    lower.trans_lt (ordered.trans_lt upper)
  have exponents := (zpow_lt_zpow_iff_right₀ one_lt_two).mp powers
  omega

/-- The rounded value is one of the two integers around the value. -/
theorem roundHalfEven_bounds (value : ℚ) :
    value.floor.toNat ≤ roundHalfEven value ∧
      roundHalfEven value ≤ value.floor.toNat + 1 := by
  unfold roundHalfEven
  dsimp only
  split
  next => exact ⟨le_refl _, Nat.le_succ _⟩
  next =>
    split
    next => exact ⟨Nat.le_succ _, le_refl _⟩
    next =>
      split
      next => exact ⟨le_refl _, Nat.le_succ _⟩
      next => exact ⟨Nat.le_succ _, le_refl _⟩

theorem roundHalfEven_le
    {first second : ℚ}
    (ordered : first ≤ second) :
    roundHalfEven first ≤ roundHalfEven second := by
  have floors : first.floor.toNat ≤ second.floor.toNat := by
    have floor_le : first.floor ≤ second.floor := Int.floor_le_floor ordered
    omega
  rcases Nat.lt_or_eq_of_le floors with apart | same
  · have low := (roundHalfEven_bounds first).2
    have high := (roundHalfEven_bounds second).1
    omega
  · unfold roundHalfEven
    dsimp only
    rw [← same]
    have rests : first - (first.floor.toNat : ℚ) ≤ second - (first.floor.toNat : ℚ) :=
      sub_le_sub_right ordered _
    split
    next =>
      split
      next => exact le_refl _
      next =>
        split
        next => exact Nat.le_succ _
        next =>
          split
          next => exact le_refl _
          next => exact Nat.le_succ _
    next notBelow =>
      rw [if_neg (not_lt.mpr ((not_lt.mp notBelow).trans rests))]
      split
      next above =>
        rw [if_pos (above.trans_le rests)]
      next notAbove =>
        split
        next =>
          split
          next => exact Nat.le_succ _
          next => exact le_refl _
        next =>
          split
          next => exact le_refl _
          next => exact le_refl _

/-! ## Rounding to a format -/

/-- A binary format: the bits after the leading one, the exponent of the least unit and the
exponent from which a value counts as infinite. -/
structure BinaryFormat where
  fractionBits : Nat
  leastUnit : ℤ
  overflow : ℤ

/-- The format of `double`. -/
def binary64 : BinaryFormat where
  fractionBits := 52
  leastUnit := -1074
  overflow := 1024

/-- The format of `float`. -/
def binary32 : BinaryFormat where
  fractionBits := 23
  leastUnit := -149
  overflow := 128

namespace BinaryFormat

variable (format : BinaryFormat)

/-- Exponent of the last bit that is kept. -/
def unitExponent (magnitude : ℚ) : ℤ :=
  max (binaryExponent magnitude - format.fractionBits) format.leastUnit

/-- The nearest multiple of the unit. -/
def roundMagnitude (magnitude : ℚ) : ℚ :=
  let unit := twoPow (format.unitExponent magnitude)
  roundHalfEven (magnitude / unit) * unit

/-- Rounding to the nearest value of the format, ties to even. -/
def round (value : ℚ) : Double :=
  if value = 0 then finite 0
  else
    let rounded := format.roundMagnitude |value|
    if twoPow format.overflow ≤ rounded then infinity (decide (value < 0))
    else if value < 0 then (finite rounded).negate
    else finite rounded

theorem roundMagnitude_nonneg (magnitude : ℚ) : 0 ≤ format.roundMagnitude magnitude := by
  unfold roundMagnitude
  rw [twoPow_eq_zpow]
  exact mul_nonneg (Nat.cast_nonneg _) (zpow_pos two_pos _).le

/-- A magnitude is less than the power of two above its unit. -/
theorem roundMagnitude_le_twoPow
    {magnitude : ℚ}
    (positive : 0 < magnitude) :
    format.roundMagnitude magnitude ≤
      (2 : ℚ) ^ (format.unitExponent magnitude + (format.fractionBits + 1)) := by
  have unitPositive : (0 : ℚ) < 2 ^ format.unitExponent magnitude := zpow_pos two_pos _
  have leading : binaryExponent magnitude + 1 ≤
      format.unitExponent magnitude + (format.fractionBits + 1) := by
    unfold unitExponent
    omega
  have bounded : magnitude ≤
      (2 : ℚ) ^ (format.fractionBits + 1) * 2 ^ format.unitExponent magnitude := by
    rw [← zpow_natCast, ← zpow_add₀ two_ne_zero]
    refine (binaryExponent_spec positive).2.le.trans
      (zpow_le_zpow_right₀ one_le_two (leading.trans (le_of_eq ?_)))
    push_cast
    ring
  have quotient : magnitude / 2 ^ format.unitExponent magnitude ≤
      ((2 ^ (format.fractionBits + 1) : ℕ) : ℚ) := by
    rw [div_le_iff₀ unitPositive]
    exact_mod_cast bounded
  have integer := roundHalfEven_le quotient
  rw [roundHalfEven_natCast] at integer
  have scaled : (roundHalfEven (magnitude / 2 ^ format.unitExponent magnitude) : ℚ) ≤
      ((2 ^ (format.fractionBits + 1) : ℕ) : ℚ) := by
    exact_mod_cast integer
  unfold roundMagnitude
  rw [twoPow_eq_zpow]
  dsimp only
  calc (roundHalfEven (magnitude / 2 ^ format.unitExponent magnitude) : ℚ) *
        2 ^ format.unitExponent magnitude
      ≤ ((2 ^ (format.fractionBits + 1) : ℕ) : ℚ) * 2 ^ format.unitExponent magnitude :=
        mul_le_mul_of_nonneg_right scaled unitPositive.le
    _ = (2 : ℚ) ^ (format.unitExponent magnitude + (format.fractionBits + 1)) := by
        rw [zpow_add₀ two_ne_zero, mul_comm]
        congr 1
        exact_mod_cast rfl

/-- A magnitude above the least unit keeps its leading bit. -/
theorem twoPow_le_roundMagnitude
    {magnitude : ℚ}
    (positive : 0 < magnitude)
    (normal : format.leastUnit < format.unitExponent magnitude) :
    (2 : ℚ) ^ (format.unitExponent magnitude + format.fractionBits) ≤
      format.roundMagnitude magnitude := by
  have unitPositive : (0 : ℚ) < 2 ^ format.unitExponent magnitude := zpow_pos two_pos _
  have leading : format.unitExponent magnitude + format.fractionBits =
      binaryExponent magnitude := by
    unfold unitExponent at normal ⊢
    omega
  have split_power : (2 : ℚ) ^ (format.unitExponent magnitude + format.fractionBits) =
      ((2 ^ format.fractionBits : ℕ) : ℚ) * 2 ^ format.unitExponent magnitude := by
    rw [zpow_add₀ two_ne_zero, mul_comm, zpow_natCast]
    push_cast
    rfl
  have quotient : ((2 ^ format.fractionBits : ℕ) : ℚ) ≤
      magnitude / 2 ^ format.unitExponent magnitude := by
    rw [le_div_iff₀ unitPositive, ← split_power, leading]
    exact (binaryExponent_spec positive).1
  have integer := roundHalfEven_le quotient
  rw [roundHalfEven_natCast] at integer
  have scaled : ((2 ^ format.fractionBits : ℕ) : ℚ) ≤
      roundHalfEven (magnitude / 2 ^ format.unitExponent magnitude) := by
    exact_mod_cast integer
  unfold roundMagnitude
  rw [twoPow_eq_zpow, split_power]
  exact mul_le_mul_of_nonneg_right scaled unitPositive.le

/-- Rounding respects the order of magnitudes. -/
theorem roundMagnitude_le
    {first second : ℚ}
    (positive : 0 < first)
    (ordered : first ≤ second) :
    format.roundMagnitude first ≤ format.roundMagnitude second := by
  have exponents := binaryExponent_le positive ordered
  have units : format.unitExponent first ≤ format.unitExponent second := by
    unfold unitExponent
    omega
  rcases units.lt_or_eq with apart | same
  · have least : format.leastUnit ≤ format.unitExponent first := by
      unfold unitExponent
      omega
    have between : format.unitExponent first + (format.fractionBits + 1) ≤
        format.unitExponent second + format.fractionBits := by
      omega
    calc format.roundMagnitude first
        ≤ (2 : ℚ) ^ (format.unitExponent first + (format.fractionBits + 1)) :=
          format.roundMagnitude_le_twoPow positive
      _ ≤ (2 : ℚ) ^ (format.unitExponent second + format.fractionBits) :=
          zpow_le_zpow_right₀ one_le_two between
      _ ≤ format.roundMagnitude second :=
          format.twoPow_le_roundMagnitude (positive.trans_le ordered)
            (lt_of_le_of_lt least apart)
  · unfold roundMagnitude
    rw [same, twoPow_eq_zpow]
    have unitPositive : (0 : ℚ) < 2 ^ format.unitExponent second := zpow_pos two_pos _
    have quotients : first / 2 ^ format.unitExponent second ≤
        second / 2 ^ format.unitExponent second :=
      div_le_div_of_nonneg_right ordered unitPositive.le
    have integers : (roundHalfEven (first / 2 ^ format.unitExponent second) : ℚ) ≤
        roundHalfEven (second / 2 ^ format.unitExponent second) := by
      exact_mod_cast roundHalfEven_le quotients
    exact mul_le_mul_of_nonneg_right integers unitPositive.le

/-- Rounding of a positive value. -/
theorem round_pos
    {value : ℚ}
    (positive : 0 < value) :
    format.round value =
      if twoPow format.overflow ≤ format.roundMagnitude value then infinity false
      else finite (format.roundMagnitude value) := by
  unfold round
  rw [if_neg positive.ne', abs_of_pos positive]
  simp only [decide_eq_false positive.not_gt, if_neg positive.not_gt]

/-- Rounding of a negative value. -/
theorem round_neg
    {value : ℚ}
    (negative : value < 0) :
    format.round value =
      if twoPow format.overflow ≤ format.roundMagnitude (-value) then infinity true
      else (finite (format.roundMagnitude (-value))).negate := by
  unfold round
  rw [if_neg negative.ne, abs_of_neg negative]
  simp only [decide_eq_true negative, if_pos negative]

/-- A value that is not negative is rounded to one that is at least zero. -/
theorem zero_atMost_round
    {value : ℚ}
    (nonneg : 0 ≤ value) :
    (finite 0).atMost (format.round value) = true := by
  rcases nonneg.eq_or_lt with zero | positive
  · subst zero
    exact decide_eq_true (le_refl 0)
  · rw [format.round_pos positive]
    split
    next => rfl
    next => exact decide_eq_true (format.roundMagnitude_nonneg value)

theorem round_atMost_zero
    {value : ℚ}
    (nonpos : value ≤ 0) :
    (format.round value).atMost (finite 0) = true := by
  rcases nonpos.eq_or_lt with zero | negative
  · subst zero
    exact decide_eq_true (le_refl 0)
  · rw [format.round_neg negative]
    split
    next => rfl
    next =>
      rw [atMost, plain_negate_finite]
      exact decide_eq_true (neg_nonpos.mpr (format.roundMagnitude_nonneg _))

/-- Rounding is monotone. -/
theorem round_atMost
    {first second : ℚ}
    (ordered : first ≤ second) :
    (format.round first).atMost (format.round second) = true := by
  rcases lt_or_ge 0 first with positive | nonpos
  · have magnitudes := format.roundMagnitude_le positive ordered
    rw [format.round_pos positive, format.round_pos (positive.trans_le ordered)]
    split
    next overflows =>
      rw [if_pos (overflows.trans magnitudes)]
      rfl
    next =>
      split
      next => rfl
      next => exact decide_eq_true magnitudes
  · rcases lt_or_ge second 0 with negative | nonneg
    · have magnitudes := format.roundMagnitude_le (neg_pos.mpr negative) (neg_le_neg ordered)
      rw [format.round_neg negative, format.round_neg (ordered.trans_lt negative)]
      split
      next =>
        split
        next => rfl
        next =>
          rw [atMost, plain_negate_finite]
          rfl
      next fits =>
        rw [if_neg fun overflows => fits (overflows.trans magnitudes), atMost,
          plain_negate_finite, plain_negate_finite]
        exact decide_eq_true (neg_le_neg magnitudes)
    · exact atMost_trans (format.round_atMost_zero nonpos) (format.zero_atMost_round nonneg)

/-- Rounding never gives a not-a-number. -/
theorem round_ne_nan (value : ℚ) : format.round value ≠ nan := by
  unfold round
  split
  next => exact nofun
  next =>
    dsimp only
    split
    next => exact nofun
    next =>
      split
      next => exact negate_finite_ne_nan _
      next => exact nofun

/-- An operation that rounds a monotone function of the values and keeps the infinities is
monotone; the sign of a zero is free. -/
theorem apply_atMost
    (operation : Double → Double)
    (scale : ℚ → ℚ)
    (monotone : Monotone scale)
    (infinite : ∀ negative, operation (infinity negative) = infinity negative)
    (rounds : ∀ value number, value.plain = finite number →
      (operation value).plain = (format.round (scale number)).plain)
    {first second : Double}
    (ordered : first.atMost second = true) :
    (operation first).atMost (operation second) = true := by
  have lowest : ∀ value number, value.plain = finite number →
      (infinity true).atMost (operation value) = true := by
    intro value number number_eq
    rw [atMost, rounds value number number_eq]
    exact infinity_true_atMost (format.round_ne_nan _)
  have highest : ∀ value number, value.plain = finite number →
      (operation value).atMost (infinity false) = true := by
    intro value number number_eq
    rw [atMost, rounds value number number_eq]
    exact atMost_infinity_false (format.round_ne_nan _)
  rcases plain_cases first with rfl | ⟨negative, rfl⟩ | ⟨left, left_eq⟩
  · cases ordered
  · rw [infinite]
    rcases plain_cases second with rfl | ⟨other, rfl⟩ | ⟨right, right_eq⟩
    · cases ordered
    · rw [infinite]
      exact ordered
    · rw [atMost, right_eq] at ordered
      obtain rfl : negative = true := ordered
      exact lowest second right right_eq
  · rcases plain_cases second with rfl | ⟨other, rfl⟩ | ⟨right, right_eq⟩
    · rw [atMost, left_eq] at ordered
      cases ordered
    · rw [atMost, left_eq] at ordered
      obtain rfl : other = false := Bool.not_eq_true' other |>.mp ordered
      rw [infinite]
      exact highest first left left_eq
    · rw [atMost, left_eq, right_eq] at ordered
      rw [atMost, rounds first left left_eq, rounds second right right_eq]
      exact format.round_atMost (monotone (of_decide_eq_true ordered))

end BinaryFormat

theorem roundToDouble_atMost
    {first second : ℚ}
    (ordered : first ≤ second) :
    (roundToDouble first).atMost (roundToDouble second) = true :=
  binary64.round_atMost ordered

theorem plain_divRat
    (divisor : ℚ)
    (value : Double)
    (number : ℚ)
    (number_eq : value.plain = finite number) :
    (value.divRat divisor).plain = (binary64.round (number / divisor)).plain := by
  cases value with
  | nan => cases number_eq
  | infinity negative => cases number_eq
  | finite value =>
      obtain rfl : value = number := finite.inj number_eq
      rfl
  | negativeZero =>
      obtain rfl : 0 = number := finite.inj number_eq
      rw [zero_div]
      rfl

/-- Division by a positive constant is monotone. -/
theorem divRat_atMost
    {divisor : ℚ}
    (positive : 0 < divisor)
    (ordered : first.atMost second = true) :
    (first.divRat divisor).atMost (second.divRat divisor) = true :=
  binary64.apply_atMost (fun value => value.divRat divisor) (fun value => value / divisor)
    (fun _ _ smaller => div_le_div_of_nonneg_right smaller positive.le)
    (fun _ => rfl) (plain_divRat divisor) ordered

/-- The conversion of a `double` to `float`. -/
def toFloat : Double → Double
  | nan => nan
  | infinity negative => infinity negative
  | finite value => binary32.round value
  | negativeZero => negativeZero

theorem plain_toFloat
    (value : Double)
    (number : ℚ)
    (number_eq : value.plain = finite number) :
    value.toFloat.plain = (binary32.round number).plain := by
  cases value with
  | nan => cases number_eq
  | infinity negative => cases number_eq
  | finite value =>
      obtain rfl : value = number := finite.inj number_eq
      rfl
  | negativeZero =>
      obtain rfl : 0 = number := finite.inj number_eq
      rfl

/-- The conversion to `float` is monotone. -/
theorem toFloat_atMost
    (ordered : first.atMost second = true) :
    first.toFloat.atMost second.toFloat = true :=
  binary32.apply_atMost toFloat id monotone_id (fun _ => rfl) plain_toFloat ordered

/-- The conversion of an integer to `float`. -/
def ofIntFloat (value : ℤ) : Double :=
  binary32.round value

/-- The test `value > bound`. -/
def above (value bound : Double) : Bool :=
  bound.atMost value && !value.atMost bound

/-- The sign bit; that of a not-a-number is not kept. -/
def signBit : Double → Bool
  | nan => false
  | infinity negative => negative
  | finite value => decide (value < 0)
  | negativeZero => true

/-- A zero with a sign. -/
def zero (negative : Bool) : Double :=
  if negative then negativeZero else finite 0

/-- The product of two `float` values; a zero has the sign of the product. -/
def mulFloat (first second : Double) : Double :=
  let negative := first.signBit != second.signBit
  match first.plain, second.plain with
  | infinity _, infinity _ => infinity negative
  | infinity _, finite factor => if factor = 0 then nan else infinity negative
  | finite factor, infinity _ => if factor = 0 then nan else infinity negative
  | finite left, finite right =>
      if left * right = 0 then zero negative else binary32.round (left * right)
  | _, _ => nan

/-- The quotient of two `float` values; a zero has the sign of the quotient. -/
def divFloat (first second : Double) : Double :=
  let negative := first.signBit != second.signBit
  match first.plain, second.plain with
  | infinity _, finite _ => infinity negative
  | finite _, infinity _ => zero negative
  | finite left, finite right =>
      if right = 0 then (if left = 0 then nan else infinity negative)
      else if left = 0 then zero negative
      else binary32.round (left / right)
  | _, _ => nan

/-- The sum of two `float` values; only two negative zeros add to a negative zero. -/
def addFloat (first second : Double) : Double :=
  match first.plain, second.plain with
  | infinity left, infinity right => if left = right then infinity left else nan
  | infinity left, finite _ => infinity left
  | finite _, infinity right => infinity right
  | finite left, finite right =>
      if first = negativeZero ∧ second = negativeZero then negativeZero
      else binary32.round (left + right)
  | _, _ => nan

/-- The difference of two `float` values. -/
def subFloat (first second : Double) : Double :=
  first.addFloat second.negate

/-- `CLAMP`; a not-a-number passes. -/
def clamp (value low high : Double) : Double :=
  if value.above high then high
  else if low.above value then low
  else value

/-- `floorf`. -/
def floor : Double → Double
  | finite value => finite value.floor
  | value => value

/-- `ceilf`; between -1 and 0 the zero is negative. -/
def ceil : Double → Double
  | finite value => if value < 0 ∧ value.ceil = 0 then negativeZero else finite value.ceil
  | value => value

/-- Rounding to the nearest integer does not leave a bound that is an integer. -/
theorem roundHalfAway_le
    {value : ℚ}
    {bound : ℤ}
    (bounded : value ≤ bound) :
    roundHalfAway value ≤ bound := by
  unfold roundHalfAway
  split
  · rw [← Int.lt_add_one_iff, Rat.floor_lt_iff]
    push_cast
    linarith
  · rw [Rat.ceil_le_iff]
    linarith

theorem lround_le
    {bound : ℤ}
    (least : -9223372036854775808 ≤ bound)
    (bounded : value.atMost (finite bound) = true) :
    value.lround ≤ bound := by
  unfold lround
  cases value with
  | nan => cases bounded
  | infinity negative =>
      obtain rfl : negative = true := bounded
      exact least
  | finite value =>
      have rounded := roundHalfAway_le (of_decide_eq_true bounded)
      exact max_le least (min_le_of_right_le rounded)
  | negativeZero =>
      have rounded := roundHalfAway_le (of_decide_eq_true bounded)
      exact max_le least (min_le_of_right_le rounded)

theorem plain_zero (negative : Bool) : (zero negative).plain = finite 0 := by
  cases negative <;> rfl

/-- The product with 1 is the conversion to `float`, up to the sign of a zero. -/
theorem plain_mulFloat_one
    (value : Double)
    (number : ℚ)
    (number_eq : value.plain = finite number) :
    (value.mulFloat (finite 1)).plain = (binary32.round number).plain := by
  have one : (finite 1).plain = finite 1 := rfl
  simp only [mulFloat, number_eq, one, mul_one]
  split
  next vanishes =>
    rw [vanishes, plain_zero]
    rfl
  next => rfl

/-- The product with 1 stays below a bound that is a `float`. -/
theorem mulFloat_one_atMost
    {bound : ℚ}
    (isFloat : binary32.round bound = finite bound)
    (bounded : value.atMost (finite bound) = true) :
    (value.mulFloat (finite 1)).atMost (finite bound) = true := by
  rcases plain_cases value with rfl | ⟨negative, rfl⟩ | ⟨number, number_eq⟩
  · cases bounded
  · obtain rfl : negative = true := bounded
    rfl
  · rw [atMost, number_eq] at bounded
    rw [atMost, plain_mulFloat_one value number number_eq, ← isFloat]
    exact binary32.round_atMost (of_decide_eq_true bounded)

end Double
end CLib
