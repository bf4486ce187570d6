import QuantGateway.Foundation.CharConv

/-!
Owns decimal numbers written out plainly: digits without an idle zero in front,
and, behind a point, digits without an idle zero at the end. A number has one such
text, and `from_chars` for `double` reads its value.
-/

namespace QuantGateway.Foundation

open CharConv

/-! ## Values of digit texts -/

theorem digitsValue_cons (letter : Char) (rest : Text) :
    digitsValue (letter :: rest) =
      (letter.toNat - '0'.toNat) * 10 ^ rest.length + digitsValue rest := by
  unfold digitsValue
  rw [Nat.ofDigitChars_cons, Nat.ofDigitChars_eq_ofDigitChars_zero]
  ring

theorem digitsValue_append (first second : Text) :
    digitsValue (first ++ second) =
      digitsValue first * 10 ^ second.length + digitsValue second := by
  unfold digitsValue
  rw [Nat.ofDigitChars_append, Nat.ofDigitChars_eq_ofDigitChars_zero, Nat.mul_comm]

theorem digitsValue_lt {text : Text} (allDigits : ∀ letter ∈ text, letter.isDigit = true) :
    digitsValue text < 10 ^ text.length := by
  induction text with
  | nil => decide
  | cons letter rest inductionHypothesis =>
      rw [List.forall_mem_cons] at allDigits
      have small := inductionHypothesis allDigits.2
      have digit : letter.toNat - '0'.toNat ≤ 9 := by
        have high := (Char.isDigit_iff_toNat.mp allDigits.1).2
        have nine : '9'.toNat = 57 := rfl
        have zero : '0'.toNat = 48 := rfl
        omega
      rw [digitsValue_cons, List.length_cons, Nat.pow_succ]
      calc
        (letter.toNat - '0'.toNat) * 10 ^ rest.length + digitsValue rest <
            9 * 10 ^ rest.length + 10 ^ rest.length :=
          Nat.add_lt_add_of_le_of_lt (Nat.mul_le_mul_right _ digit) small
        _ = 10 ^ rest.length * 10 := by ring

/-- Digit texts of one length are equal when they denote the same number. -/
theorem eq_of_digitsValue_eq {first second : Text}
    (firstDigits : ∀ letter ∈ first, letter.isDigit = true)
    (secondDigits : ∀ letter ∈ second, letter.isDigit = true)
    (sameLength : first.length = second.length)
    (sameValue : digitsValue first = digitsValue second) : first = second := by
  induction first generalizing second with
  | nil => exact (List.eq_nil_of_length_eq_zero sameLength.symm).symm
  | cons letter rest inductionHypothesis =>
      cases second with
      | nil => cases sameLength
      | cons letter' rest' =>
          rw [List.forall_mem_cons] at firstDigits secondDigits
          have sameRestLength : rest.length = rest'.length := Nat.succ.inj sameLength
          have small := digitsValue_lt firstDigits.2
          have small' := digitsValue_lt secondDigits.2
          rw [digitsValue_cons, digitsValue_cons, ← sameRestLength] at sameValue
          rw [← sameRestLength] at small'
          have positive : 0 < 10 ^ rest.length := Nat.pow_pos (by decide)
          have sameHead : letter.toNat - '0'.toNat = letter'.toNat - '0'.toNat := by
            have quotient := congrArg (· / 10 ^ rest.length) sameValue
            simpa only [Nat.mul_comm _ (10 ^ rest.length), Nat.mul_add_div positive,
              Nat.div_eq_of_lt small, Nat.div_eq_of_lt small', Nat.add_zero] using quotient
          have sameRest : digitsValue rest = digitsValue rest' := by
            rw [sameHead] at sameValue
            exact Nat.add_left_cancel sameValue
          have low := (Char.isDigit_iff_toNat.mp firstDigits.1).1
          have low' := (Char.isDigit_iff_toNat.mp secondDigits.1).1
          have sameLetter : letter = letter' := Char.toNat_inj.mp (by omega)
          rw [sameLetter, inductionHypothesis firstDigits.2 secondDigits.2 sameRestLength sameRest]

/-- The whole part of a plain number: no zero stands in front of another digit. -/
structure PlainWhole (text : Text) : Prop where
  nonempty : text ≠ []
  digits : ∀ letter ∈ text, letter.isDigit = true
  noIdleZero : text = ['0'] ∨ text.head? ≠ some '0'

/-- A whole part is the number zero or at least as large as its first place. -/
theorem PlainWhole.lower {text : Text} (plain : PlainWhole text) :
    text = ['0'] ∨ 10 ^ (text.length - 1) ≤ digitsValue text := by
  rcases plain.noIdleZero with zero | leads
  · exact .inl zero
  · right
    have allDigits := plain.digits
    cases text with
    | nil => exact absurd rfl plain.nonempty
    | cons letter rest =>
        have low := (Char.isDigit_iff_toNat.mp (allDigits letter List.mem_cons_self)).1
        have notZero : letter.toNat ≠ '0'.toNat := by
          intro same
          exact leads (congrArg some (Char.toNat_inj.mp same))
        have positive : 1 ≤ letter.toNat - '0'.toNat := by omega
        rw [digitsValue_cons, List.length_cons, Nat.add_sub_cancel]
        calc
          10 ^ rest.length = 1 * 10 ^ rest.length := (Nat.one_mul _).symm
          _ ≤ (letter.toNat - '0'.toNat) * 10 ^ rest.length := Nat.mul_le_mul_right _ positive
          _ ≤ _ := Nat.le_add_right _ _

theorem PlainWhole.length_le {first second : Text} (firstPlain : PlainWhole first)
    (secondPlain : PlainWhole second) (sameValue : digitsValue first = digitsValue second) :
    first.length ≤ second.length := by
  rcases firstPlain.lower with zero | large
  · rw [zero]
    exact List.length_pos_of_ne_nil secondPlain.nonempty
  · have small := digitsValue_lt secondPlain.digits
    rw [← sameValue] at small
    have places := (Nat.pow_lt_pow_iff_right (by decide)).mp (large.trans_lt small)
    omega

/-- A number has one whole part. -/
theorem PlainWhole.eq_of_digitsValue_eq {first second : Text} (firstPlain : PlainWhole first)
    (secondPlain : PlainWhole second) (sameValue : digitsValue first = digitsValue second) :
    first = second := by
  apply Foundation.eq_of_digitsValue_eq firstPlain.digits secondPlain.digits _ sameValue
  exact le_antisymm (firstPlain.length_le secondPlain sameValue)
    (secondPlain.length_le firstPlain sameValue.symm)

/-- A positive number is written without a leading zero. -/
theorem head?_toDigits {value : Nat} (positive : 0 < value) :
    (Nat.toDigits 10 value).head? ≠ some '0' := by
  induction value using Nat.strongRecOn with
  | ind value inductionHypothesis =>
      by_cases oneDigit : value < 10
      · rw [Nat.toDigits_of_lt_base oneDigit]
        simpa [Nat.digitChar_eq_zero] using positive.ne'
      · rw [Nat.toDigits_of_base_le (by decide) (Nat.le_of_not_lt oneDigit),
          List.head?_append_of_ne_nil _ Nat.toDigits_ne_nil]
        exact inductionHypothesis (value / 10) (by omega) (by omega)

/-- `Nat.toDigits` writes whole parts. -/
theorem plainWhole_toDigits (value : Nat) : PlainWhole (Nat.toDigits 10 value) := by
  refine ⟨Nat.toDigits_ne_nil, toDigits_isDigit value, ?_⟩
  rcases Nat.eq_zero_or_pos value with rfl | positive
  · exact .inl rfl
  · exact .inr (head?_toDigits positive)

/-! ## Plain decimal numbers -/

/-- A number as its digits in front of the point and behind it. -/
structure PlainDecimal where
  whole : Text
  fraction : Text
  plain : PlainWhole whole
  fractionDigits : ∀ letter ∈ fraction, letter.isDigit = true
  noIdleZero : fraction.getLast? ≠ some '0'

namespace PlainDecimal

/-- The point is written only in front of a digit. -/
def text (decimal : PlainDecimal) : Text :=
  if decimal.fraction = [] then decimal.whole else decimal.whole ++ '.' :: decimal.fraction

theorem mem_text (decimal : PlainDecimal) {letter : Char} (member : letter ∈ decimal.text) :
    letter = '.' ∨ letter.isDigit = true := by
  unfold text at member
  by_cases integer : decimal.fraction = []
  · rw [if_pos integer] at member
    exact .inr (decimal.plain.digits letter member)
  · rw [if_neg integer] at member
    rcases List.mem_append.mp member with inWhole | behind
    · exact .inr (decimal.plain.digits letter inWhole)
    · rcases List.mem_cons.mp behind with point | inFraction
      · exact .inl point
      · exact .inr (decimal.fractionDigits letter inFraction)

def number (decimal : PlainDecimal) : ℚ :=
  digitsValue (decimal.whole ++ decimal.fraction) / 10 ^ decimal.fraction.length

/-- The last digit of a fraction counts. -/
theorem not_dvd_digits (decimal : PlainDecimal) (nonempty : decimal.fraction ≠ []) :
    ¬ 10 ∣ digitsValue (decimal.whole ++ decimal.fraction) := by
  have allDigits := decimal.fractionDigits
  have noIdleZero := decimal.noIdleZero
  obtain ⟨front, last, fraction⟩ := (List.eq_nil_or_concat' _).resolve_left nonempty
  rw [fraction] at allDigits noIdleZero ⊢
  have digit := Char.isDigit_iff_toNat.mp (allDigits last (by simp))
  have notZero : last.toNat ≠ '0'.toNat := by
    intro same
    rw [List.getLast?_concat] at noIdleZero
    exact noIdleZero (congrArg some (Char.toNat_inj.mp same))
  have nine : '9'.toNat = 57 := rfl
  have zero : '0'.toNat = 48 := rfl
  have empty : digitsValue [] = 0 := rfl
  rw [← List.append_assoc, digitsValue_append, digitsValue_cons, List.length_singleton,
    List.length_nil, pow_one, pow_zero]
  omega

theorem digits_eq_of_number_eq {first second : PlainDecimal}
    (same : first.number = second.number) :
    digitsValue (first.whole ++ first.fraction) * 10 ^ second.fraction.length =
      digitsValue (second.whole ++ second.fraction) * 10 ^ first.fraction.length := by
  unfold number at same
  rw [div_eq_div_iff (by positivity) (by positivity)] at same
  exact_mod_cast same

theorem places_le_of_number_eq {first second : PlainDecimal}
    (same : first.number = second.number) :
    second.fraction.length ≤ first.fraction.length := by
  by_contra longer
  rw [not_le] at longer
  have digits := digits_eq_of_number_eq same
  have fraction : second.fraction ≠ [] := by
    intro empty
    rw [empty] at longer
    exact absurd longer (Nat.not_lt_zero _)
  obtain ⟨more, places⟩ := Nat.exists_eq_add_of_lt longer
  rw [places, Nat.add_assoc, Nat.pow_add, ← Nat.mul_assoc, Nat.mul_right_comm,
    Nat.mul_left_inj (by positivity)] at digits
  apply second.not_dvd_digits fraction
  rw [← digits]
  exact Dvd.dvd.mul_left (dvd_pow_self 10 (Nat.succ_ne_zero more)) _

/-- A number has one plain text. -/
theorem text_eq_of_number_eq {first second : PlainDecimal}
    (same : first.number = second.number) : first.text = second.text := by
  have samePlaces : first.fraction.length = second.fraction.length :=
    le_antisymm (places_le_of_number_eq same.symm) (places_le_of_number_eq same)
  have digits := digits_eq_of_number_eq same
  have positive : 0 < 10 ^ second.fraction.length := by positivity
  rw [samePlaces, Nat.mul_left_inj positive.ne', digitsValue_append, digitsValue_append,
    samePlaces] at digits
  have small := digitsValue_lt first.fractionDigits
  have small' := digitsValue_lt second.fractionDigits
  rw [samePlaces] at small
  have sameWholeValue : digitsValue first.whole = digitsValue second.whole := by
    have quotient := congrArg (· / 10 ^ second.fraction.length) digits
    simpa only [Nat.mul_comm _ (10 ^ second.fraction.length), Nat.mul_add_div positive,
      Nat.div_eq_of_lt small, Nat.div_eq_of_lt small', Nat.add_zero] using quotient
  have sameFractionValue : digitsValue first.fraction = digitsValue second.fraction := by
    rw [sameWholeValue] at digits
    exact Nat.add_left_cancel digits
  have sameWhole := first.plain.eq_of_digitsValue_eq second.plain sameWholeValue
  have sameFraction := eq_of_digitsValue_eq first.fractionDigits second.fractionDigits samePlaces
    sameFractionValue
  unfold text
  rw [sameWhole, sameFraction]

/-! ## Reading -/

theorem scanDecimal_text (decimal : PlainDecimal) :
    scanDecimal decimal.text = some (decimal.number, []) := by
  have wholeDigits := decimal.plain.digits
  have someWhole := decimal.plain.nonempty
  have places : (10 : ℚ) ^ ((0 : ℤ) - decimal.fraction.length) =
      (10 ^ decimal.fraction.length)⁻¹ := by
    rw [zero_sub, zpow_neg, zpow_natCast]
  unfold text
  by_cases integer : decimal.fraction = []
  · rw [if_pos integer]
    unfold scanDecimal number
    simp [digits_eq_self wholeDigits, afterDigits_eq_nil wholeDigits, scanFraction, scanExponent,
      someWhole, integer]
  · rw [if_neg integer]
    have front : digits (decimal.whole ++ '.' :: decimal.fraction) = decimal.whole := by
      unfold digits
      rw [List.takeWhile_append_of_pos wholeDigits, List.takeWhile_cons_of_neg (by decide),
        List.append_nil]
    have back : afterDigits (decimal.whole ++ '.' :: decimal.fraction) =
        '.' :: decimal.fraction := by
      unfold afterDigits
      rw [List.dropWhile_append_of_pos wholeDigits, List.dropWhile_cons_of_neg (by decide)]
    unfold scanDecimal number
    simp only [front, back, scanFraction, digits_eq_self decimal.fractionDigits,
      afterDigits_eq_nil decimal.fractionDigits, scanExponent]
    rw [if_neg (by simp [someWhole]), places, div_eq_mul_inv]

/-- A plain text is read as the binary64 number nearest to it, unless that is zero and
the text says otherwise. -/
theorem fromCharsDouble_text (decimal : PlainDecimal) {value : ℚ}
    (rounds : ExtendedRational.ofRat decimal.number = .finite value) :
    fromCharsDouble decimal.text =
      if value = 0 ∧ decimal.number ≠ 0 then none else some (.finite value, []) := by
  have magnitude : fromCharsMagnitude decimal.text =
      if value = 0 ∧ decimal.number ≠ 0 then none else some (.finite value, []) := by
    unfold fromCharsMagnitude
    rw [scanDecimal_text]
    simp only [rounds]
  unfold fromCharsDouble
  split
  next rest signed =>
    have dash := decimal.mem_text (signed ▸ List.mem_cons_self)
    exact absurd dash (by decide)
  next => exact magnitude

end PlainDecimal

end QuantGateway.Foundation
