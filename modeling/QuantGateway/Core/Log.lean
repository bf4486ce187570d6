import QuantGateway.Foundation.Numerals

/-!
Owns `init_logging`, `shutdown_logging` and `fingerprint`: the level of the logger after
any of these calls, and how much of a hash a fingerprint shows.

spdlog's `from_str` and the hash of the standard library are parameters. Does not own
which lines are logged.
-/

namespace QuantGateway.Core

open QuantGateway.Foundation
open QuantGateway.Foundation.Numerals

/-! ## The level of the logger -/

/-- `spdlog::level::level_enum`. -/
inductive LogLevel where
  | trace
  | debug
  | info
  | warn
  | err
  | critical
  | off
deriving DecidableEq, Repr

def LogLevel.severity : LogLevel → Nat
  | .trace => 0
  | .debug => 1
  | .info => 2
  | .warn => 3
  | .err => 4
  | .critical => 5
  | .off => 6

/-- The static of `init_logging` and the level of the default logger; a process without
a logger logs nothing. -/
structure Logging where
  initialised : Bool
  level : LogLevel
deriving DecidableEq, Repr

namespace Logging

/-- spdlog's own default logger. -/
def initial : Logging where
  initialised := false
  level := .info

/-- A line of the level reaches the sinks. -/
def shouldLog (logging : Logging) (level : LogLevel) : Bool :=
  logging.level.severity ≤ level.severity && level ≠ .off

end Logging

/-- The level `init_logging` sets: `off` only where it was asked for. -/
def loggerLevel (fromStr : Text → LogLevel) (level : Text) : LogLevel :=
  let parsed := fromStr level
  if parsed = .off ∧ level ≠ "off".toList then .info else parsed

def initLogging (fromStr : Text → LogLevel) (level : Text) (logging : Logging) : Logging :=
  if logging.initialised then logging
  else { initialised := true, level := loggerLevel fromStr level }

def shutdownLogging (logging : Logging) : Logging :=
  { logging with level := .off }

section Level

variable {fromStr : Text → LogLevel} {level : Text}

/-- A name spdlog does not know is no request for silence. -/
theorem loggerLevel_eq_off_iff (named : fromStr "off".toList = .off) :
    loggerLevel fromStr level = .off ↔ level = "off".toList := by
  unfold loggerLevel
  simp only
  split
  next unknown => exact iff_of_false (by simp) unknown.2
  next known =>
    constructor
    · intro isOff
      by_contra other
      exact known ⟨isOff, other⟩
    · rintro rfl
      exact named

theorem initLogging_initial :
    initLogging fromStr level .initial = ⟨true, loggerLevel fromStr level⟩ := rfl

theorem Logging.shouldLog_critical {logging : Logging} :
    logging.shouldLog .critical = true ↔ logging.level ≠ .off := by
  obtain ⟨initialised, level⟩ := logging
  cases level <;> simp [Logging.shouldLog, LogLevel.severity]

/-- A logger that is off hears nothing. -/
theorem Logging.shouldLog_of_off {logging : Logging} (isOff : logging.level = .off)
    (level : LogLevel) : logging.shouldLog level = false := by
  unfold Logging.shouldLog
  rw [isOff]
  cases level <;> rfl

end Level

/-! ## Fingerprints -/

/-- `fingerprint`: the lowest 24 bits of the hash, in six hexadecimal digits. -/
def fingerprint (hash : Text → UInt64) (secret : Text) : Text :=
  padded 16 6 (hash secret &&& 0xFFFFFF).toNat

theorem toNat_and_24 (value : UInt64) : (value &&& 0xFFFFFF).toNat = value.toNat % 2 ^ 24 := by
  rw [UInt64.toNat_and]
  exact Nat.and_two_pow_sub_one_eq_mod value.toNat 24

/-- Which text a fingerprint is. -/
theorem fingerprint_eq_iff {hash : Text → UInt64} {secret text : Text} :
    fingerprint hash secret = text ↔
      Numeral 16 6 text ∧ numeralValue 16 text = (hash secret).toNat % 2 ^ 24 := by
  have fits : (hash secret).toNat % 2 ^ 24 < 16 ^ 6 := Nat.mod_lt _ (by decide)
  have numeral := numeral_padded (by decide) (by decide) fits
  have value := @numeralValue_padded 16 (by decide) (by decide) 6 ((hash secret).toNat % 2 ^ 24)
  unfold fingerprint
  rw [toNat_and_24]
  constructor
  · rintro rfl
    exact ⟨numeral, value⟩
  · rintro ⟨isNumeral, isValue⟩
    exact numeral.eq_of_value_eq (by decide) isNumeral (value.trans isValue.symm)

/-- A fingerprint is the one text of six lower-case hexadecimal digits that denotes the
lowest 24 bits of the hash, so two secrets share it exactly if their hashes agree in these
bits. -/
theorem fingerprint_shows_24_bits (hash : Text → UInt64) (first second text : Text) :
    (fingerprint hash first = text ↔
      text.length = 6 ∧ (∀ letter ∈ text, letter ∈ "0123456789abcdef".toList) ∧
        numeralValue 16 text = (hash first).toNat % 2 ^ 24) ∧
    (fingerprint hash first = fingerprint hash second ↔
      (hash first).toNat % 2 ^ 24 = (hash second).toNat % 2 ^ 24) := by
  have digits : digitsOf 16 = "0123456789abcdef".toList := by decide
  constructor
  · rw [fingerprint_eq_iff, ← digits, ← and_assoc]
    exact and_congr_left fun _ => ⟨fun numeral => ⟨numeral.length, numeral.digits⟩,
      fun ⟨length, inDigits⟩ => ⟨length, inDigits⟩⟩
  · obtain ⟨numeral, value⟩ := fingerprint_eq_iff.mp (rfl : fingerprint hash second = _)
    rw [fingerprint_eq_iff, value]
    exact ⟨fun same => same.2.symm, fun same => ⟨numeral, same.symm⟩⟩

example : fingerprint (fun _ => 0xABCDEF0000A7) [] = "0000a7".toList := by decide +kernel

end QuantGateway.Core
