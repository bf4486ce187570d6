import QuantGateway.Foundation.CharConv

/-!
Owns numerals of a fixed width in a base up to sixteen: what `std::setw` and
`std::setfill('0')` make of a number, and that a number has one such numeral.

Does not own numbers that are too long for the width.
-/

namespace QuantGateway.Foundation

namespace Numerals

variable {base : Nat}

/-- The digit a letter denotes, in lower case. -/
def digitOf (letter : Char) : Nat :=
  if letter.isDigit then letter.toNat - '0'.toNat else letter.toNat - 'a'.toNat + 10

/-- The number a numeral denotes. -/
def numeralValue (base : Nat) (numeral : Text) : Nat :=
  numeral.foldl (fun value letter => value * base + digitOf letter) 0

/-- The numeral of a number, filled with zeros up to a width. -/
def padded (base width value : Nat) : Text :=
  List.replicate (width - (Nat.toDigits base value).length) '0' ++ Nat.toDigits base value

theorem digitOf_digitChar {digit : Nat} (small : digit < 16) :
    digitOf (Nat.digitChar digit) = digit := by
  have all : ∀ digit < 16, digitOf (Nat.digitChar digit) = digit := by decide
  exact all digit small

theorem numeralValue_snoc (numeral : Text) (letter : Char) :
    numeralValue base (numeral ++ [letter]) =
      numeralValue base numeral * base + digitOf letter := by
  unfold numeralValue
  rw [List.foldl_append]
  rfl

/-- By the recursion of the division by the base. -/
theorem numeralValue_toDigits (positional : 1 < base) (small : base ≤ 16) (value : Nat) :
    numeralValue base (Nat.toDigits base value) = value := by
  induction value using Nat.strongRecOn with
  | ind value inductionHypothesis =>
      rw [Nat.toDigits_eq_if positional]
      split
      next digit =>
        have single := @numeralValue_snoc base [] (Nat.digitChar value)
        rw [digitOf_digitChar (by omega)] at single
        simpa [numeralValue] using single
      next several =>
        have positive : 0 < value := by omega
        have lastDigit : value % base < base := Nat.mod_lt value (by omega)
        rw [numeralValue_snoc, inductionHypothesis _ (Nat.div_lt_self positive positional),
          digitOf_digitChar (by omega), Nat.mul_comm, Nat.div_add_mod]

theorem numeralValue_zeros (count : Nat) (numeral : Text) :
    numeralValue base (List.replicate count '0' ++ numeral) = numeralValue base numeral := by
  induction count with
  | zero => rfl
  | succ count inductionHypothesis =>
      rw [List.replicate_succ, List.cons_append, ← inductionHypothesis]
      unfold numeralValue
      rw [List.foldl_cons, Nat.zero_mul]
      rfl

/-- The zeros in front do not change the number. -/
theorem numeralValue_padded (positional : 1 < base) (small : base ≤ 16) (width value : Nat) :
    numeralValue base (padded base width value) = value := by
  unfold padded
  rw [numeralValue_zeros, numeralValue_toDigits positional small]

/-- A number below the power has the width exactly. -/
theorem length_padded (positional : 1 < base) {width value : Nat} (positive : 0 < width)
    (fits : value < base ^ width) : (padded base width value).length = width := by
  have within := (Nat.length_toDigits_le_iff positional positive).mpr fits
  unfold padded
  rw [List.length_append, List.length_replicate]
  omega

/-! ## Numerals of a width -/

/-- The digits of a base. -/
def digitsOf (base : Nat) : Text :=
  (List.range base).map Nat.digitChar

/-- A numeral of a width: as many digits of the base. -/
structure Numeral (base width : Nat) (text : Text) : Prop where
  length : text.length = width
  digits : ∀ letter ∈ text, letter ∈ digitsOf base

theorem mem_digitsOf {letter : Char} :
    letter ∈ digitsOf base ↔ ∃ digit < base, Nat.digitChar digit = letter := by
  simp [digitsOf]

theorem digitChar_mem_of_toDigits (positional : 1 < base) (value : Nat) :
    ∀ letter ∈ Nat.toDigits base value, letter ∈ digitsOf base := by
  induction value using Nat.strongRecOn with
  | ind value inductionHypothesis =>
      intro letter member
      rw [Nat.toDigits_eq_if positional] at member
      split at member
      next digit =>
        exact mem_digitsOf.mpr ⟨value, digit, (List.mem_singleton.mp member).symm⟩
      next several =>
        rcases List.mem_append.mp member with front | last
        · exact inductionHypothesis _ (Nat.div_lt_self (by omega) positional) letter front
        · exact mem_digitsOf.mpr ⟨value % base, Nat.mod_lt value (by omega),
            (List.mem_singleton.mp last).symm⟩

/-- A number that fits is padded to a numeral. -/
theorem numeral_padded (positional : 1 < base) {width value : Nat} (positive : 0 < width)
    (fits : value < base ^ width) : Numeral base width (padded base width value) := by
  refine ⟨length_padded positional positive fits, fun letter member => ?_⟩
  rcases List.mem_append.mp member with zeros | digits
  · rw [List.eq_of_mem_replicate zeros]
    exact mem_digitsOf.mpr ⟨0, by omega, rfl⟩
  · exact digitChar_mem_of_toDigits positional value letter digits

/-- Numerals of one width with one value are the same, by their last digits. -/
theorem Numeral.eq_of_value_eq (small : base ≤ 16) {width : Nat} {first second : Text}
    (isFirst : Numeral base width first) (isSecond : Numeral base width second)
    (same : numeralValue base first = numeralValue base second) : first = second := by
  induction width generalizing first second with
  | zero =>
      rw [List.eq_nil_of_length_eq_zero isFirst.length,
        List.eq_nil_of_length_eq_zero isSecond.length]
  | succ width inductionHypothesis =>
      have front {text : Text} (isNumeral : Numeral base (width + 1) text) :
          ∃ front digit, text = front ++ [Nat.digitChar digit] ∧ digit < base ∧
            Numeral base width front := by
        have nonempty : text ≠ [] := List.ne_nil_of_length_eq_add_one isNumeral.length
        obtain ⟨front, letter, rfl⟩ := (List.eq_nil_or_concat' text).resolve_left nonempty
        obtain ⟨digit, isDigit, rfl⟩ :=
          mem_digitsOf.mp (isNumeral.digits letter (by simp))
        refine ⟨front, digit, rfl, isDigit, ?_, fun letter member => ?_⟩
        · simpa using isNumeral.length
        · exact isNumeral.digits letter (List.mem_append_left _ member)
      obtain ⟨firstFront, firstDigit, rfl, firstSmall, firstRest⟩ := front isFirst
      obtain ⟨secondFront, secondDigit, rfl, secondSmall, secondRest⟩ := front isSecond
      rw [numeralValue_snoc, numeralValue_snoc, digitOf_digitChar (firstSmall.trans_le small),
        digitOf_digitChar (secondSmall.trans_le small)] at same
      have sameDigit : firstDigit = secondDigit := by
        have remainder := congrArg (· % base) same
        simpa [Nat.mod_eq_of_lt firstSmall, Nat.mod_eq_of_lt secondSmall] using remainder
      have sameFront : numeralValue base firstFront = numeralValue base secondFront := by
        rw [sameDigit] at same
        exact Nat.eq_of_mul_eq_mul_right (by omega) (Nat.add_right_cancel same)
      rw [sameDigit, inductionHypothesis firstRest secondRest sameFront]

end Numerals

end QuantGateway.Foundation
