import Mathlib.Data.Int.Log
import Mathlib.Data.Rat.Floor
import Mathlib.Algebra.Order.Round
import Mathlib.Tactic.Linarith
import Mathlib.Tactic.NormNum
import Mathlib.Tactic.Ring

/-!
Owns the numbers the program reads from texts and database columns: a rational,
an infinity or NaN. A `double` is one whose rationals are rounded to binary64 by
`ofRat`, to nearest with ties to even, overflowing to infinity.

Does not own the sign of zero, which no modelled comparison sees.
-/

namespace QuantGateway.Foundation

/-- What a `double`, a Python `Decimal` and an SQL `numeric` can hold. -/
inductive ExtendedRational where
  | finite (value : ℚ)
  | infinite (negative : Bool)
  | nan
deriving DecidableEq, Repr

abbrev Double := ExtendedRational

namespace ExtendedRational

/-- The comparison `<` of IEEE numbers: false when either side is NaN. -/
def lt : ExtendedRational → ExtendedRational → Bool
  | .finite first, .finite second => first < second
  | .finite _, .infinite negative => !negative
  | .infinite negative, .finite _ => negative
  | .infinite first, .infinite second => first && !second
  | .nan, _ => false
  | _, .nan => false

def neg : ExtendedRational → ExtendedRational
  | .finite value => .finite (-value)
  | .infinite negative => .infinite !negative
  | .nan => .nan

/-! ## Rounding to binary64 -/

/-- The integer nearest to a rational, the even one of two. -/
def roundHalfEven (value : ℚ) : ℤ :=
  let below := ⌊value⌋
  if value - below < 1 / 2 then below
  else if 1 / 2 < value - below then below + 1
  else if below % 2 = 0 then below else below + 1

/-- The exponent of the last place of the binary64 numbers around a rational. -/
def placeExponent (value : ℚ) : ℤ :=
  max (-1074) (Int.log 2 |value| - 52)

/-- The binary64 number nearest to a rational. -/
def ofRat (value : ℚ) : Double :=
  let place : ℚ := 2 ^ placeExponent value
  let rounded : ℚ := roundHalfEven (value / place) * place
  if |rounded| < 2 ^ 1024 then .finite rounded else .infinite (rounded < 0)

/-- The conversion of a decimal number to a `double`. -/
def toDouble : ExtendedRational → Double
  | .finite value => ofRat value
  | .infinite negative => .infinite negative
  | .nan => .nan

/-- The integer part, rounded toward zero. -/
def truncate (value : ℚ) : ℤ :=
  if 0 ≤ value then ⌊value⌋ else ⌈value⌉

/-- The nearest integer, rounded away from zero on a tie. -/
def roundHalfAway (value : ℚ) : ℤ :=
  if 0 ≤ value then ⌊value + 1 / 2⌋ else ⌈value - 1 / 2⌉

theorem roundHalfEven_intCast (value : ℤ) : roundHalfEven (value : ℚ) = value := by
  simp [roundHalfEven]

theorem truncate_intCast (value : ℤ) : truncate (value : ℚ) = value := by
  unfold truncate
  split
  · exact Int.floor_intCast value
  · exact Int.ceil_intCast value

/-- A multiple of its own last place is its own rounding. -/
theorem ofRat_eq_of_multiple {value : ℚ} {places : ℤ}
    (multiple : value = places * 2 ^ placeExponent value) (inRange : |value| < 2 ^ 1024) :
    ofRat value = .finite value := by
  have positive : (2 : ℚ) ^ placeExponent value ≠ 0 := zpow_ne_zero _ two_ne_zero
  have quotient : value / 2 ^ placeExponent value = places := by
    rw [div_eq_iff positive]
    exact multiple
  unfold ofRat
  simp only [quotient, roundHalfEven_intCast]
  rw [← multiple, if_pos inRange]

/-- Every natural number up to `2 ^ 53` is a binary64 number. -/
theorem ofRat_natCast {value : ℕ} (small : value ≤ 2 ^ 53) :
    ofRat (value : ℚ) = .finite value := by
  have inRange : |(value : ℚ)| < 2 ^ 1024 := by
    calc
      |(value : ℚ)| = value := abs_of_nonneg (Nat.cast_nonneg value)
      _ ≤ 2 ^ 53 := by exact_mod_cast small
      _ < 2 ^ 1024 := pow_lt_pow_right₀ one_lt_two (by decide)
  have exponent : placeExponent (value : ℚ) = (Nat.log 2 value : ℤ) - 52 := by
    unfold placeExponent
    rw [abs_of_nonneg (Nat.cast_nonneg value), Int.log_natCast]
    omega
  rcases Nat.lt_or_eq_of_le small with below | top
  · -- Below `2 ^ 53` the last place is a fraction of one.
    have low : Nat.log 2 value ≤ 52 := Nat.lt_succ_iff.mp (Nat.log_lt_of_lt_pow' (by decide) below)
    have places : (value : ℚ) =
        ((value * 2 ^ (52 - Nat.log 2 value) : ℕ) : ℤ) * 2 ^ placeExponent (value : ℚ) := by
      have fraction : (Nat.log 2 value : ℤ) - 52 = -((52 - Nat.log 2 value : ℕ) : ℤ) := by omega
      rw [exponent, fraction, zpow_neg, zpow_natCast]
      push_cast
      field_simp
    exact ofRat_eq_of_multiple places inRange
  · have log : Nat.log 2 value = 53 := by
      rw [top, Nat.log_pow (by decide)]
    have places : (value : ℚ) = ((2 ^ 52 : ℕ) : ℤ) * 2 ^ placeExponent (value : ℚ) := by
      rw [exponent, log, top]
      norm_num
    exact ofRat_eq_of_multiple places inRange

/-- An integer of at most 53 bits times a power of two is a binary64 number. -/
theorem ofRat_mul_pow {significand : ℤ} {exponent : ℕ} (small : |significand| < 2 ^ 53)
    (inRange : exponent ≤ 900) :
    ofRat (significand * 2 ^ exponent) = .finite (significand * 2 ^ exponent) := by
  rcases eq_or_ne significand 0 with rfl | nonzero
  · have zero : ofRat 0 = .finite 0 := by simpa using @ofRat_natCast 0 (by decide)
    simpa using zero
  have bounded : |(significand : ℚ)| < 2 ^ 53 := by exact_mod_cast small
  have positive : (0 : ℚ) < |(significand : ℚ) * 2 ^ exponent| :=
    abs_pos.mpr (mul_ne_zero (Int.cast_ne_zero.mpr nonzero) (pow_ne_zero _ two_ne_zero))
  have below : |(significand : ℚ) * 2 ^ exponent| < 2 ^ (53 + exponent) := by
    rw [abs_mul, abs_of_pos (pow_pos two_pos exponent : (0 : ℚ) < 2 ^ exponent), pow_add]
    exact mul_lt_mul_of_pos_right bounded (pow_pos two_pos exponent)
  -- The last place is no larger than the power of two.
  have place : placeExponent ((significand : ℚ) * 2 ^ exponent) ≤ exponent := by
    have log : Int.log 2 |(significand : ℚ) * 2 ^ exponent| < (53 + exponent : ℕ) := by
      refine (Int.lt_zpow_iff_log_lt (by decide) positive).mp ?_
      rw [zpow_natCast]
      exact_mod_cast below
    unfold placeExponent
    omega
  obtain ⟨shift, isShift⟩ := Int.le.dest place
  have power : (2 : ℚ) ^ exponent =
      2 ^ shift * 2 ^ placeExponent ((significand : ℚ) * 2 ^ exponent) := by
    calc
      (2 : ℚ) ^ exponent = 2 ^ (exponent : ℤ) := (zpow_natCast 2 exponent).symm
      _ = 2 ^ ((shift : ℤ) + placeExponent ((significand : ℚ) * 2 ^ exponent)) := by
        rw [add_comm, isShift]
      _ = 2 ^ shift * 2 ^ placeExponent ((significand : ℚ) * 2 ^ exponent) := by
        rw [zpow_add₀ two_ne_zero, zpow_natCast]
  refine @ofRat_eq_of_multiple _ (significand * 2 ^ shift) ?_ ?_
  · rw [Int.cast_mul, mul_assoc, Int.cast_pow, Int.cast_ofNat, ← power]
  · exact below.trans (pow_lt_pow_right₀ one_lt_two (by omega))

/-- Rounding moves a rational by half a unit at most. -/
theorem abs_roundHalfEven_sub_le (value : ℚ) : |(roundHalfEven value : ℚ) - value| ≤ 1 / 2 := by
  have low := Int.floor_le value
  have high := Int.lt_floor_add_one value
  rw [abs_le]
  unfold roundHalfEven
  by_cases down : value - ⌊value⌋ < 1 / 2
  · rw [if_pos down]
    constructor <;> linarith
  · rw [if_neg down]
    by_cases up : 1 / 2 < value - ⌊value⌋
    · rw [if_pos up]
      push_cast
      constructor <;> linarith
    · rw [if_neg up]
      by_cases even : ⌊value⌋ % 2 = 0
      · rw [if_pos even]
        constructor <;> linarith
      · rw [if_neg even]
        push_cast
        constructor <;> linarith

/-- The last place of a number is no larger than the number, or than one. -/
theorem place_le (value : ℚ) : (2 : ℚ) ^ placeExponent value ≤ max 1 |value| := by
  by_cases fraction : placeExponent value ≤ 0
  · exact le_max_of_le_left (zpow_le_one_of_nonpos₀ one_le_two fraction)
  · have exponent : placeExponent value ≤ Int.log 2 |value| := by
      unfold placeExponent at fraction ⊢
      omega
    have nonzero : 0 < |value| := by
      rw [abs_pos]
      rintro rfl
      exact fraction (by decide +kernel)
    apply le_max_of_le_right
    calc
      (2 : ℚ) ^ placeExponent value ≤ 2 ^ Int.log 2 |value| :=
        zpow_le_zpow_right₀ one_le_two exponent
      _ ≤ |value| := by exact_mod_cast Int.zpow_log_le_self (b := 2) (by decide) nonzero

/-- Rounding moves a number by half its last place at most. -/
theorem abs_rounded_sub_le (value : ℚ) :
    |roundHalfEven (value / 2 ^ placeExponent value) * 2 ^ placeExponent value - value| ≤
      2 ^ placeExponent value / 2 := by
  have positive : (0 : ℚ) < 2 ^ placeExponent value := zpow_pos two_pos _
  have near := abs_roundHalfEven_sub_le (value / 2 ^ placeExponent value)
  calc
    _ = |(roundHalfEven (value / 2 ^ placeExponent value) : ℚ) -
          value / 2 ^ placeExponent value| * 2 ^ placeExponent value := by
        rw [← abs_of_pos positive, ← abs_mul, abs_of_pos positive, sub_mul,
          div_mul_cancel₀ _ positive.ne']
    _ ≤ 1 / 2 * 2 ^ placeExponent value := mul_le_mul_of_nonneg_right near positive.le
    _ = 2 ^ placeExponent value / 2 := by ring

/-- Only numbers beyond `2 ^ 1023` can round to an infinity. -/
theorem ofRat_finite {value : ℚ} (small : |value| < 2 ^ 1023) :
    ∃ rounded, ofRat value = .finite rounded := by
  have positive : (0 : ℚ) < 2 ^ placeExponent value := zpow_pos two_pos _
  have placeSmall : (2 : ℚ) ^ placeExponent value < 2 ^ 1023 := by
    apply (place_le value).trans_lt
    exact max_lt (one_lt_pow₀ one_lt_two (by decide)) small
  have moved := abs_rounded_sub_le value
  have inRange : |(roundHalfEven (value / 2 ^ placeExponent value) : ℚ) * 2 ^ placeExponent value| <
      2 ^ 1024 := by
    have triangle := abs_sub_abs_le_abs_sub
      ((roundHalfEven (value / 2 ^ placeExponent value) : ℚ) * 2 ^ placeExponent value) value
    have double : (2 : ℚ) ^ 1024 = 2 * 2 ^ 1023 := pow_succ' 2 1023
    rw [double]
    generalize (2 : ℚ) ^ 1023 = bound at small placeSmall ⊢
    linarith
  unfold ofRat
  exact ⟨_, if_pos inRange⟩

/-- In the normal range the error is small beside the number. -/
theorem abs_ofRat_sub_le {value rounded : ℚ} (normal : 2 ^ (-1022 : ℤ) ≤ value)
    (rounds : ofRat value = .finite rounded) : |rounded - value| ≤ value / 2 ^ 53 := by
  have positive : 0 < value := (zpow_pos two_pos _).trans_le normal
  have size : |value| = value := abs_of_pos positive
  have exponent : placeExponent value = Int.log 2 value - 52 := by
    have low : -1022 ≤ Int.log 2 value :=
      (Int.zpow_le_iff_le_log (by decide) positive).mp (by exact_mod_cast normal)
    unfold placeExponent
    rw [size]
    omega
  have place : (2 : ℚ) ^ placeExponent value ≤ value / 2 ^ 52 := by
    have log : (2 : ℚ) ^ Int.log 2 value ≤ value := by
      exact_mod_cast Int.zpow_log_le_self (b := 2) (by decide) positive
    rw [exponent, zpow_sub₀ two_ne_zero]
    exact div_le_div_of_nonneg_right log (by positivity)
  have isRounded : rounded =
      roundHalfEven (value / 2 ^ placeExponent value) * 2 ^ placeExponent value := by
    unfold ofRat at rounds
    dsimp only at rounds
    split at rounds
    · exact (ExtendedRational.finite.inj rounds).symm
    · cases rounds
  have moved := abs_rounded_sub_le value
  rw [← isRounded] at moved
  calc
    |rounded - value| ≤ 2 ^ placeExponent value / 2 := moved
    _ ≤ value / 2 ^ 52 / 2 := div_le_div_of_nonneg_right place two_pos.le
    _ = value / 2 ^ 53 := by ring

theorem lt_zero_natCast {value : ℕ} (positive : 0 < value) :
    lt (.finite 0) (.finite (value : ℚ)) = true := by
  simpa [lt] using positive

end ExtendedRational

end QuantGateway.Foundation
