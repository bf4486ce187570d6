import QuantGateway.Foundation.Numerals
import QuantGateway.Foundation.PlainDecimal
import Mathlib.Data.Prod.Lex
import Mathlib.Data.Set.Finite.Lemmas
import Mathlib.Data.Set.Finite.List
import Mathlib.Algebra.Order.Field.Power

/-!
Owns the plain text of a binary64 number: the shortest one that rounds to it, of
several the nearest, and of two equally near the smaller. A number has one such text
at most, and a text of up to fifteen characters is always the one of its number.

Does not own numbers written with an exponent.
-/

namespace QuantGateway.Foundation

open ExtendedRational
open CharConv
open Numerals

namespace PlainDecimal

/-- By length, then by the distance from a number, then by size. -/
def rank (value : ℚ) (decimal : PlainDecimal) : ℕ ×ₗ ℚ ×ₗ ℚ :=
  toLex (decimal.text.length, toLex (|decimal.number - value|, decimal.number))

/-- A plain number is how a binary64 number is written. -/
structure Writes (decimal : PlainDecimal) (value : ℚ) : Prop where
  rounds : ofRat decimal.number = .finite value
  shortest : ∀ other : PlainDecimal, ofRat other.number = .finite value →
    decimal.rank value ≤ other.rank value

variable {first second : PlainDecimal} {value : ℚ}

/-- A binary64 number is written in one way. -/
theorem Writes.unique (firstWrites : first.Writes value) (secondWrites : second.Writes value) :
    first.text = second.text := by
  have sameRank : first.rank value = second.rank value :=
    le_antisymm (firstWrites.shortest second secondWrites.rounds)
      (secondWrites.shortest first firstWrites.rounds)
  have sameNumber : first.number = second.number :=
    congrArg (fun rank => (ofLex (ofLex rank).2).2) sameRank
  exact text_eq_of_number_eq sameNumber

/-! ## Every number is written -/

/-- The number of digits. -/
def size (decimal : PlainDecimal) : ℕ :=
  decimal.whole.length + decimal.fraction.length

theorem size_le_length (decimal : PlainDecimal) : decimal.size ≤ decimal.text.length := by
  unfold size text
  split
  next integer => rw [integer, List.length_nil, Nat.add_zero]
  next =>
    rw [List.length_append, List.length_cons]
    omega

theorem finite_char : Finite Char :=
  Finite.of_injective (fun letter => letter.val.toFin) fun _ _ same =>
    Char.ext (UInt32.toFin_inj.mp same)

theorem length_le (decimal : PlainDecimal) :
    decimal.whole.length ≤ decimal.text.length ∧
      decimal.fraction.length ≤ decimal.text.length := by
  have size := decimal.size_le_length
  unfold PlainDecimal.size at size
  omega

/-- Plain numbers of bounded length are finitely many. -/
theorem finite_length_le (bound : ℕ) :
    {decimal : PlainDecimal | decimal.text.length ≤ bound}.Finite := by
  have _ := finite_char
  have parts := (List.finite_length_le Char bound).prod (List.finite_length_le Char bound)
  have injective : Function.Injective
      fun decimal : PlainDecimal => (decimal.whole, decimal.fraction) := by
    intro first second same
    obtain ⟨sameWhole, sameFraction⟩ := Prod.mk.inj same
    cases first
    cases second
    cases sameWhole
    cases sameFraction
    rfl
  refine (parts.preimage injective.injOn).subset fun decimal short => ?_
  obtain ⟨whole, fraction⟩ := decimal.length_le
  exact ⟨whole.trans short, fraction.trans short⟩

/-- If any plain number rounds to a value, one of them is how it is written. -/
theorem exists_writes {decimal : PlainDecimal} (rounds : ofRat decimal.number = .finite value) :
    ∃ written : PlainDecimal, written.Writes value := by
  have finite := (finite_length_le decimal.text.length).subset
    (Set.inter_subset_left (t := {other | ofRat other.number = .finite value}))
  obtain ⟨written, ⟨short, isWritten⟩, shortest⟩ :=
    Set.exists_min_image _ (rank value) finite ⟨decimal, Nat.le_refl decimal.text.length, rounds⟩
  refine ⟨written, isWritten, fun other otherRounds => ?_⟩
  rcases Nat.lt_or_ge decimal.text.length other.text.length with longer | shorter
  · exact Prod.Lex.le_iff.mpr (.inl (lt_of_le_of_lt short longer))
  · exact shortest other ⟨shorter, otherRounds⟩

theorem digitsValue_padded (width value : ℕ) : digitsValue (padded 10 width value) = value := by
  unfold padded
  rw [digitsValue_append, digitsValue_toDigits]
  unfold digitsValue
  rw [Nat.ofDigitChars_replicate_zero, Nat.mul_zero, Nat.zero_mul, Nat.zero_add]

theorem padded_isDigit (width value : ℕ) :
    ∀ letter ∈ padded 10 width value, letter.isDigit = true := by
  intro letter member
  rcases List.mem_append.mp member with zeros | digits
  · rw [List.eq_of_mem_replicate zeros]
    decide
  · exact toDigits_isDigit value letter digits

/-- Every decimal number can be written plainly, by leaving out idle zeros. -/
theorem exists_decimal (units places : ℕ) :
    ∃ decimal : PlainDecimal, decimal.number = units / 10 ^ places := by
  induction places generalizing units with
  | zero =>
      refine ⟨⟨Nat.toDigits 10 units, [], plainWhole_toDigits units, by simp, by simp⟩, ?_⟩
      unfold number
      rw [List.append_nil, digitsValue_toDigits, List.length_nil]
  | succ places inductionHypothesis =>
      by_cases idle : 10 ∣ units
      · obtain ⟨fewer, rfl⟩ := idle
        obtain ⟨decimal, isNumber⟩ := inductionHypothesis fewer
        refine ⟨decimal, isNumber.trans ?_⟩
        rw [pow_succ]
        push_cast
        field_simp
      · have fits : units % 10 ^ (places + 1) < 10 ^ (places + 1) :=
          Nat.mod_lt _ (by positivity)
        have length := length_padded (by decide) (Nat.succ_pos places) fits
        have noIdleZero : (padded 10 (places + 1) (units % 10 ^ (places + 1))).getLast? ≠
            some '0' := by
          intro zero
          obtain ⟨front, isFront⟩ := List.getLast?_eq_some_iff.mp zero
          have value := digitsValue_padded (places + 1) (units % 10 ^ (places + 1))
          rw [isFront, digitsValue_append, List.length_singleton, pow_one] at value
          have last : 10 ∣ units % 10 ^ (places + 1) := ⟨digitsValue front, by
            rw [← value, Nat.mul_comm]
            rfl⟩
          exact idle ((Nat.dvd_mod_iff (dvd_pow_self 10 (Nat.succ_ne_zero places))).mp last)
        refine ⟨⟨Nat.toDigits 10 (units / 10 ^ (places + 1)), _, plainWhole_toDigits _,
          padded_isDigit _ _, noIdleZero⟩, ?_⟩
        unfold number
        simp only
        rw [digitsValue_append, digitsValue_toDigits, digitsValue_padded, length,
          Nat.div_add_mod']

theorem exists_units_of_scanDecimal {text rest : Text} {number : ℚ}
    (scanned : scanDecimal text = some (number, rest)) :
    ∃ units places : ℕ, number = units / 10 ^ places := by
  unfold scanDecimal at scanned
  dsimp only at scanned
  split at scanned
  next => cases scanned
  next =>
    cases scanned
    generalize digitsValue _ = units
    generalize (scanExponent _).1 - _ = exponent
    obtain ⟨places, rfl | rfl⟩ := exponent.eq_nat_or_neg
    · refine ⟨units * 10 ^ places, 0, ?_⟩
      rw [zpow_natCast, pow_zero, div_one]
      push_cast
      rfl
    · refine ⟨units, places, ?_⟩
      rw [zpow_neg, zpow_natCast, div_eq_mul_inv]

/-- What `from_chars` reads without a sign can be written plainly, if it is a number. -/
theorem exists_writes_of_read {text rest : Text}
    (read : fromCharsMagnitude text = some (.finite value, rest)) :
    ∃ written : PlainDecimal, written.Writes value := by
  unfold fromCharsMagnitude at read
  split at read
  next =>
    -- A word is no number.
    unfold scanWord at read
    dsimp only at read
    split at read
    next => cases read
    next =>
      split at read
      next => cases read
      next => split at read <;> cases read
  next number after scanned =>
    split at read
    next rounded rounds =>
      split at read
      next => cases read
      next =>
        cases read
        obtain ⟨units, places, rfl⟩ := exists_units_of_scanDecimal scanned
        obtain ⟨decimal, isNumber⟩ := exists_decimal units places
        rw [← isNumber] at rounds
        exact exists_writes rounds
    next => cases read

/-! ## Fifteen digits -/

/-- The digits behind the point count units of their place. -/
theorem number_mul_pow (decimal : PlainDecimal) (more : ℕ) :
    decimal.number * 10 ^ (decimal.fraction.length + more) =
      (digitsValue (decimal.whole ++ decimal.fraction) * 10 ^ more : ℕ) := by
  unfold number
  rw [pow_add]
  push_cast
  field_simp

theorem digits_lt (decimal : PlainDecimal) :
    digitsValue (decimal.whole ++ decimal.fraction) < 10 ^ decimal.size := by
  have allDigits : ∀ letter ∈ decimal.whole ++ decimal.fraction, letter.isDigit = true := by
    intro letter member
    rcases List.mem_append.mp member with inWhole | inFraction
    · exact decimal.plain.digits letter inWhole
    · exact decimal.fractionDigits letter inFraction
  have small := digitsValue_lt allDigits
  rwa [List.length_append] at small

/-- A number of fifteen digits is far from the smallest ones. -/
theorem normal_of_size (decimal : PlainDecimal) (short : decimal.size ≤ 15)
    (nonzero : decimal.number ≠ 0) : (2 : ℚ) ^ (-1022 : ℤ) ≤ decimal.number := by
  have units : digitsValue (decimal.whole ++ decimal.fraction) ≠ 0 := by
    intro zero
    apply nonzero
    unfold number
    rw [zero, Nat.cast_zero, zero_div]
  have places : decimal.fraction.length ≤ 15 := by
    unfold size at short
    omega
  calc
    (2 : ℚ) ^ (-1022 : ℤ) ≤ 2 ^ (-50 : ℤ) := zpow_le_zpow_right₀ one_le_two (by decide)
    _ ≤ 1 / 10 ^ 15 := by norm_num
    _ ≤ 1 / 10 ^ decimal.fraction.length :=
      one_div_le_one_div_of_le (by positivity) (pow_le_pow_right₀ (by norm_num) places)
    _ ≤ digitsValue (decimal.whole ++ decimal.fraction) / 10 ^ decimal.fraction.length := by
      apply div_le_div_of_nonneg_right _ (by positivity)
      exact_mod_cast Nat.one_le_iff_ne_zero.mpr units

/-- Integers that differ by less than rounding errors are equal, when one is small. -/
theorem eq_of_near {units small : ℕ} (bounded : small < 10 ^ 15)
    (near : |(units : ℚ) - small| ≤ (units + small) / 2 ^ 53) : units = small := by
  by_contra apart
  have step : (1 : ℚ) ≤ |(units : ℚ) - small| := by
    have whole : (1 : ℤ) ≤ |(units : ℤ) - small| := Int.one_le_abs (by omega)
    exact_mod_cast whole
  have bound : (small : ℚ) < 10 ^ 15 := by exact_mod_cast bounded
  have above := le_abs_self ((units : ℚ) - small)
  linarith

/-- Plain numbers of up to fifteen digits are told apart by what they round to. -/
theorem number_eq_of_rounds (firstShort : first.size ≤ 15) (secondShort : second.size ≤ 15)
    (nonzero : value ≠ 0) (firstRounds : ofRat first.number = .finite value)
    (secondRounds : ofRat second.number = .finite value)
    (places : first.fraction.length ≤ second.fraction.length) :
    first.number = second.number := by
  have isZero : ofRat 0 = .finite 0 := by simpa using @ofRat_natCast 0 (by decide)
  have ne_zero {decimal : PlainDecimal} (rounds : ofRat decimal.number = .finite value) :
      decimal.number ≠ 0 := by
    intro zero
    rw [zero, isZero] at rounds
    exact nonzero (ExtendedRational.finite.inj rounds).symm
  have firstNear :=
    abs_ofRat_sub_le (first.normal_of_size firstShort (ne_zero firstRounds)) firstRounds
  have secondNear :=
    abs_ofRat_sub_le (second.normal_of_size secondShort (ne_zero secondRounds)) secondRounds
  obtain ⟨more, isMore⟩ := Nat.exists_eq_add_of_le places
  -- Both numbers count units of the last place of the second.
  have firstUnits := first.number_mul_pow more
  have secondUnits := second.number_mul_pow 0
  rw [← isMore] at firstUnits
  rw [Nat.add_zero, pow_zero, Nat.mul_one] at secondUnits
  have scale : (0 : ℚ) < 10 ^ second.fraction.length := by positivity
  have near : |first.number - second.number| ≤ (first.number + second.number) / 2 ^ 53 := by
    have triangle := abs_sub_le first.number value second.number
    rw [abs_sub_comm first.number value] at triangle
    linarith
  have units : digitsValue (first.whole ++ first.fraction) * 10 ^ more =
      digitsValue (second.whole ++ second.fraction) := by
    apply eq_of_near
    · exact second.digits_lt.trans_le (Nat.pow_le_pow_right (by decide) secondShort)
    · rw [← firstUnits, ← secondUnits, ← sub_mul, ← add_mul, abs_mul, abs_of_pos scale,
        mul_div_right_comm]
      exact mul_le_mul_of_nonneg_right near scale.le
  rw [units, ← secondUnits] at firstUnits
  exact mul_right_cancel₀ scale.ne' firstUnits

/-- A plain text of up to fifteen characters is how its number is written. -/
theorem writes_of_length (short : first.text.length ≤ 15)
    (rounds : ofRat first.number = .finite value) (nonzero : value ≠ 0) :
    first.Writes value := by
  refine ⟨rounds, fun other otherRounds => ?_⟩
  rcases Nat.lt_or_ge first.text.length other.text.length with shorter | longer
  · exact Prod.Lex.le_iff.mpr (.inl shorter)
  · have firstSize := first.size_le_length.trans short
    have otherSize := other.size_le_length.trans (longer.trans short)
    have sameNumber : first.number = other.number := by
      rcases Nat.le_total first.fraction.length other.fraction.length with fewer | more
      · exact number_eq_of_rounds firstSize otherSize nonzero rounds otherRounds fewer
      · exact (number_eq_of_rounds otherSize firstSize nonzero otherRounds rounds more).symm
    have sameText := text_eq_of_number_eq sameNumber
    unfold rank
    rw [sameNumber, sameText]

end PlainDecimal

end QuantGateway.Foundation
