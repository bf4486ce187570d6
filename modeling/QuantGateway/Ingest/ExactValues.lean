import QuantGateway.Ingest.Statements
import QuantGateway.SecurityMaster.Query

/-!
Owns the values that pass from a payload through the column types and the startup
query without being changed: a decimal of at most eight places, and a timestamp of
whole seconds, although both ends divide and multiply it in binary64.

Does not own fractions of a second, which the division by 1000 rounds.
-/

namespace QuantGateway.Ingest

open QuantGateway.Foundation
open QuantGateway.Foundation.ExtendedRational
open QuantGateway.MarketData
open QuantGateway.SecurityMaster

/-! ## Decimals -/

theorem roundHalfAway_intCast (value : ℤ) : roundHalfAway (value : ℚ) = value := by
  unfold roundHalfAway
  split
  · rw [Int.floor_eq_iff]
    constructor <;> linarith
  · rw [Int.ceil_eq_iff]
    constructor <;> linarith

/-- A `numeric(20, 8)` column keeps a decimal of at most eight places, or refuses
it. -/
theorem numericColumn_exact {column : Text} {value : ℚ} {units : ℤ} {stored : Numeric}
    (places : value * 10 ^ 8 = units)
    (accepted : numericColumn column (.finite value) = .ok stored) : stored = .finite value := by
  have kept : (roundHalfAway (value * 10 ^ 8) : ℚ) / 10 ^ 8 = value := by
    rw [places, roundHalfAway_intCast, ← places]
    exact mul_div_cancel_right₀ value (by norm_num)
  unfold numericColumn at accepted
  simp only [kept] at accepted
  split at accepted
  · exact (Except.ok.inj accepted).symm
  · cases accepted

/-! ## Timestamps -/

/-- The seconds that stay below 53 bits when they become nanoseconds: those up to the
year 2116. -/
def ExactSeconds (seconds : ℤ) : Prop :=
  |seconds * 5 ^ 9| < 2 ^ 53

variable {seconds : ℤ}

theorem ofRat_seconds (exact : ExactSeconds seconds) : ofRat (seconds : ℚ) = .finite seconds := by
  have small : |seconds| < 2 ^ 53 := by
    unfold ExactSeconds at exact
    rw [abs_lt] at exact ⊢
    omega
  simpa using ofRat_mul_pow small (Nat.zero_le 900)

/-- Milliseconds of whole seconds become the timestamp of these seconds. -/
theorem msToDatetime_exact (exact : ExactSeconds seconds) :
    msToDatetime (some (.integer (seconds * 1000))) =
      .ok (some (.instant (seconds * 10 ^ 6))) := by
  have quotient : ((seconds * 1000 : ℤ) : ℚ) / 1000 = seconds := by
    push_cast
    exact mul_div_cancel_right₀ _ (by norm_num)
  have perThousand : (JsonNumber.integer (seconds * 1000)).perThousand = .finite seconds := by
    unfold JsonNumber.perThousand
    simp only [quotient]
    exact ofRat_seconds exact
  have whole : microsecondsOf ((seconds : ℚ) - (seconds : ℤ)) = 0 := by
    rw [sub_self]
    decide +kernel
  have inRange : -62135596800 * 10 ^ 6 ≤ seconds * 10 ^ 6 ∧
      seconds * 10 ^ 6 < 253402300800 * 10 ^ 6 := by
    unfold ExactSeconds at exact
    rw [abs_lt] at exact
    omega
  unfold msToDatetime fromTimestamp
  simp only [perThousand, truncate_intCast, whole, add_zero]
  rw [if_pos inRange]
  rfl

/-- Seconds read back from the database become exactly their nanoseconds. -/
theorem nanosOfSeconds_exact (outOfRange : Double → Nanos) (exact : ExactSeconds seconds) :
    nanosOfSeconds outOfRange (Timestamp.instant (seconds * 10 ^ 6)).epoch.toDouble =
      Int64.ofInt (seconds * 10 ^ 9) := by
  have epoch : (Timestamp.instant (seconds * 10 ^ 6)).epoch = .finite seconds := by
    unfold Timestamp.epoch
    push_cast
    congr 1
    exact mul_div_cancel_right₀ _ (by norm_num)
  have nanoseconds : ofRat ((seconds : ℚ) * 10 ^ 9) = .finite ((seconds * 10 ^ 9 : ℤ) : ℚ) := by
    have factors : (seconds : ℚ) * 10 ^ 9 = ((seconds * 5 ^ 9 : ℤ) : ℚ) * 2 ^ 9 := by
      push_cast
      ring
    have product := @ofRat_mul_pow (seconds * 5 ^ 9) 9 exact (by decide)
    rw [factors, product, ← factors]
    push_cast
    rfl
  have inRange : -2 ^ 63 ≤ seconds * 10 ^ 9 ∧ seconds * 10 ^ 9 < 2 ^ 63 := by
    unfold ExactSeconds at exact
    rw [abs_lt] at exact
    omega
  have double : (ExtendedRational.finite (seconds : ℚ)).toDouble = .finite seconds :=
    ofRat_seconds exact
  rw [epoch, double]
  unfold nanosOfSeconds
  simp only [nanoseconds, truncate_intCast]
  rw [if_pos inRange]

theorem toInt_nanoseconds (exact : ExactSeconds seconds) :
    (Int64.ofInt (seconds * 10 ^ 9)).toInt = seconds * 10 ^ 9 := by
  unfold ExactSeconds at exact
  rw [abs_lt] at exact
  apply Int64.toInt_ofInt_of_le
  · omega
  · omega

/-- An expiry read back from the database is the exchange's, to the nanosecond. -/
theorem nanosOfSeconds_toInt (outOfRange : Double → Nanos) (exact : ExactSeconds seconds) :
    (nanosOfSeconds outOfRange (Timestamp.instant (seconds * 10 ^ 6)).epoch.toDouble).toInt =
      seconds * 10 ^ 9 := by
  rw [nanosOfSeconds_exact outOfRange exact]
  exact toInt_nanoseconds exact

end QuantGateway.Ingest
