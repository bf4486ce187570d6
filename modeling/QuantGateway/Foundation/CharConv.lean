import QuantGateway.Foundation.Binary64
import Mathlib.Data.List.TakeWhile

/-!
Owns `Text` and `std::from_chars` for `unsigned`, for `std::uint16_t` and for
`double` in the general format: the value read from the front of a text and the
text left over, or `none` for every `std::errc`. None of them reads a leading blank
or plus sign.

Does not own the other bases and formats.
-/

namespace QuantGateway.Foundation

/-- A `std::string` or `std::string_view`. -/
abbrev Text := List Char

/-- `isspace` in the C locale. -/
def isBlank (letter : Char) : Bool :=
  letter = ' ' || (9 ≤ letter.toNat && letter.toNat ≤ 13)

theorem isBlank_of_isDigit {letter : Char} (digit : letter.isDigit = true) :
    isBlank letter = false := by
  have low : 48 ≤ letter.toNat := (Char.isDigit_iff_toNat.mp digit).1
  unfold isBlank
  simp only [Bool.or_eq_false_iff, Bool.and_eq_false_iff, decide_eq_false_iff_not]
  constructor
  · rintro rfl
    exact absurd low (by decide)
  · omega

theorem noBlank_of_all {text : Text} (clean : text.all (fun letter => !isBlank letter) = true) :
    ∀ letter ∈ text, isBlank letter = false := by
  simpa using clean

/-- A letter of a joined text comes from a piece or is the separator. -/
theorem mem_of_mem_intercalate {pieces : List Text} {sep letter : Char}
    (member : letter ∈ [sep].intercalate pieces) :
    letter = sep ∨ ∃ piece ∈ pieces, letter ∈ piece := by
  induction pieces with
  | nil => simp at member
  | cons piece rest inductionHypothesis =>
      cases rest with
      | nil =>
          rw [List.intercalate_singleton] at member
          exact .inr ⟨piece, List.mem_cons_self, member⟩
      | cons second others =>
          rw [List.intercalate_cons_cons, List.mem_append, List.mem_append,
            List.mem_singleton] at member
          rcases member with (inPiece | isSep) | inRest
          · exact .inr ⟨piece, List.mem_cons_self, inPiece⟩
          · exact .inl isSep
          · rcases inductionHypothesis inRest with isSep | ⟨source, inPieces, inSource⟩
            · exact .inl isSep
            · exact .inr ⟨source, .tail _ inPieces, inSource⟩

theorem idxOf?_append_cons {before after : Text} {sep : Char} (absent : sep ∉ before) :
    (before ++ sep :: after).idxOf? sep = some before.length := by
  induction before with
  | nil => simp [List.idxOf?_cons]
  | cons letter rest inductionHypothesis =>
      rw [List.mem_cons, not_or] at absent
      rw [List.cons_append, List.idxOf?_cons, if_neg (by simpa using Ne.symm absent.1),
        inductionHypothesis absent.2]
      rfl

/-- A text is cut at its first separator in one way only. -/
theorem append_cons_inj {before before' after after' : Text} {sep : Char}
    (absent : sep ∉ before) (absent' : sep ∉ before')
    (same : before ++ sep :: after = before' ++ sep :: after') :
    before = before' ∧ after = after' := by
  have places := congrArg (List.idxOf? sep) same
  rw [idxOf?_append_cons absent, idxOf?_append_cons absent', Option.some.injEq] at places
  obtain ⟨sameBefore, sameRest⟩ := List.append_inj same places
  exact ⟨sameBefore, (List.cons.inj sameRest).2⟩

namespace CharConv

def digits (text : Text) : Text :=
  text.takeWhile Char.isDigit

def afterDigits (text : Text) : Text :=
  text.dropWhile Char.isDigit

def digitsValue (text : Text) : Nat :=
  Nat.ofDigitChars 10 text 0

/-- `from_chars` for a 32-bit `unsigned`. -/
def fromCharsUnsigned (text : Text) : Option (Nat × Text) :=
  if digits text = [] then none
  else if digitsValue (digits text) < 2 ^ 32 then
    some (digitsValue (digits text), afterDigits text)
  else none

/-- `from_chars` for a `std::uint16_t`. -/
def fromCharsUInt16 (text : Text) : Option (UInt16 × Text) :=
  if digits text = [] then none
  else if digitsValue (digits text) < 2 ^ 16 then
    some (UInt16.ofNat (digitsValue (digits text)), afterDigits text)
  else none

/-- The exponent of a decimal number; a letter without digits is no exponent. -/
def scanExponent (text : Text) : Int × Text :=
  let signed (negative : Bool) (rest : Text) : Int × Text :=
    if digits rest = [] then (0, text)
    else
      let size : Int := digitsValue (digits rest)
      (if negative then -size else size, afterDigits rest)
  match text with
  | letter :: '-' :: rest => if letter.toLower = 'e' then signed true rest else (0, text)
  | letter :: '+' :: rest => if letter.toLower = 'e' then signed false rest else (0, text)
  | letter :: rest => if letter.toLower = 'e' then signed false rest else (0, text)
  | [] => (0, [])

/-- The digits after a point, and what follows them. -/
def scanFraction (text : Text) : Text × Text :=
  match text with
  | '.' :: rest => (digits rest, afterDigits rest)
  | _ => ([], text)

/-- An unsigned decimal number with an optional point and exponent. -/
def scanDecimal (text : Text) : Option (ℚ × Text) :=
  let whole := digits text
  let (fraction, afterFraction) := scanFraction (afterDigits text)
  if whole ++ fraction = [] then none
  else
    let (exponent, rest) := scanExponent afterFraction
    some (digitsValue (whole ++ fraction) * 10 ^ (exponent - fraction.length), rest)

/-- The optional parenthesis after `nan`. -/
def afterNan (text : Text) : Text :=
  match text with
  | '(' :: rest =>
      let inside := rest.takeWhile fun letter => letter.isAlphanum || letter == '_'
      match rest.drop inside.length with
      | ')' :: after => after
      | _ => text
  | _ => text

/-- The words for the values that are not finite, in either case. -/
def scanWord (text : Text) : Option (Double × Text) :=
  let lower := text.map Char.toLower
  if "infinity".toList.isPrefixOf lower then some (.infinite false, text.drop 8)
  else if "inf".toList.isPrefixOf lower then some (.infinite false, text.drop 3)
  else if "nan".toList.isPrefixOf lower then some (.nan, afterNan (text.drop 3))
  else none

/-- A number that would round to infinity, or to zero without being zero, is out
of range. -/
def fromCharsMagnitude (text : Text) : Option (Double × Text) :=
  match scanDecimal text with
  | none => scanWord text
  | some (value, rest) =>
      match ExtendedRational.ofRat value with
      | .finite rounded => if rounded = 0 ∧ value ≠ 0 then none else some (.finite rounded, rest)
      | _ => none

/-- `from_chars` for a `double`. -/
def fromCharsDouble (text : Text) : Option (Double × Text) :=
  match text with
  | '-' :: rest => (fromCharsMagnitude rest).map fun (value, after) => (value.neg, after)
  | _ => fromCharsMagnitude text

/-! ## Reading decimal integers back -/

section Decimals

variable {text : Text} (allDigits : ∀ letter ∈ text, letter.isDigit = true)

include allDigits

theorem digits_eq_self : digits text = text := by
  apply List.takeWhile_eq_self_iff.mpr
  exact allDigits

theorem afterDigits_eq_nil : afterDigits text = [] := by
  apply List.dropWhile_eq_nil_iff.mpr
  exact allDigits

/-- A text of digits is read as the number they denote. -/
theorem fromCharsUnsigned_digits (nonempty : text ≠ [])
    (small : digitsValue text < 2 ^ 32) :
    fromCharsUnsigned text = some (digitsValue text, []) := by
  unfold fromCharsUnsigned
  rw [digits_eq_self allDigits, afterDigits_eq_nil allDigits, if_neg nonempty, if_pos small]

/-- An integer up to `2 ^ 53` written in digits is read exactly. -/
theorem fromCharsDouble_digits (nonempty : text ≠ [])
    (small : digitsValue text ≤ 2 ^ 53) :
    fromCharsDouble text = some (.finite (digitsValue text), []) := by
  have scanned : scanDecimal text = some ((digitsValue text : ℚ), []) := by
    unfold scanDecimal
    simp [digits_eq_self allDigits, afterDigits_eq_nil allDigits, scanFraction, scanExponent,
      nonempty]
  have magnitude : fromCharsMagnitude text = some (.finite (digitsValue text), []) := by
    unfold fromCharsMagnitude
    rw [scanned]
    simp [ExtendedRational.ofRat_natCast small]
  unfold fromCharsDouble
  split
  next rest =>
    have impossible := allDigits '-' List.mem_cons_self
    exact absurd impossible (by decide)
  next => exact magnitude

end Decimals

/-- Which texts are read as a `std::uint16_t` to their end. -/
theorem fromCharsUInt16_eq_some_nil {text : Text} {value : UInt16} :
    fromCharsUInt16 text = some (value, []) ↔
      text ≠ [] ∧ (∀ letter ∈ text, letter.isDigit = true) ∧ digitsValue text = value.toNat := by
  unfold fromCharsUInt16
  constructor
  · intro read
    by_cases none : digits text = []
    · rw [if_pos none] at read
      cases read
    · rw [if_neg none] at read
      by_cases small : digitsValue (digits text) < 2 ^ 16
      · rw [if_pos small, Option.some.injEq, Prod.mk.injEq] at read
        obtain ⟨rfl, atEnd⟩ := read
        have allDigits := List.dropWhile_eq_nil_iff.mp atEnd
        rw [digits_eq_self allDigits] at none small ⊢
        exact ⟨none, allDigits, (UInt16.toNat_ofNat_of_lt' small).symm⟩
      · rw [if_neg small] at read
        cases read
  · rintro ⟨nonempty, allDigits, denotes⟩
    have small := value.toNat_lt
    rw [digits_eq_self allDigits, afterDigits_eq_nil allDigits, if_neg nonempty, denotes,
      if_pos small, UInt16.ofNat_toNat]

/-! ## Reading the words -/

/-- What begins with neither a digit nor a point is no decimal number. -/
theorem scanDecimal_eq_none {letter : Char} {rest : Text} (digit : letter.isDigit = false)
    (point : letter ≠ '.') : scanDecimal (letter :: rest) = none := by
  have noDigits : digits (letter :: rest) = [] := by simp [digits, digit]
  have whole : afterDigits (letter :: rest) = letter :: rest := by simp [afterDigits, digit]
  have noFraction : scanFraction (letter :: rest) = ([], letter :: rest) := by
    unfold scanFraction
    split
    next isPoint => exact absurd (List.cons.inj isPoint).1 point
    next => rfl
  unfold scanDecimal
  simp [noDigits, whole, noFraction]

theorem scanWord_infinite {text rest : Text} {negative : Bool}
    (read : scanWord text = some (.infinite negative, rest)) :
    negative = false ∧
      (("infinity".toList <+: text.map Char.toLower ∧ rest = text.drop 8) ∨
      ("inf".toList <+: text.map Char.toLower ∧ ¬ "infinity".toList <+: text.map Char.toLower ∧
        rest = text.drop 3)) := by
  unfold scanWord at read
  simp only [List.isPrefixOf_iff_prefix] at read
  split at read
  next long =>
    cases read
    exact ⟨rfl, .inl ⟨long, rfl⟩⟩
  next short =>
    split at read
    next isWord =>
      cases read
      exact ⟨rfl, .inr ⟨isWord, short, rfl⟩⟩
    next => split at read <;> cases read

theorem fromCharsMagnitude_infinite {text rest : Text} {negative : Bool}
    (read : fromCharsMagnitude text = some (.infinite negative, rest)) :
    scanWord text = some (.infinite negative, rest) := by
  unfold fromCharsMagnitude at read
  split at read
  next => exact read
  next value after _ =>
    split at read
    next rounded _ => split at read <;> cases read
    next => cases read

/-- The words that are read as infinity to their end, in either case. -/
def isInfinityWord (text : Text) : Bool :=
  text.map Char.toLower = "inf".toList || text.map Char.toLower = "infinity".toList

theorem toLower_of_isDigit {letter : Char} (digit : letter.isDigit = true) :
    letter.toLower = letter := by
  have high : letter.val.toNat ≤ 57 := (Char.isDigit_iff_toNat.mp digit).2
  unfold Char.toLower
  rw [dif_neg]
  rintro ⟨low, -⟩
  have above : 65 ≤ letter.val.toNat := UInt32.le_iff_toNat_le.mp low
  omega

theorem scanWord_of_isInfinityWord {text : Text}
    (isWord : text.map Char.toLower = "inf".toList ∨ text.map Char.toLower = "infinity".toList) :
    scanWord text = some (.infinite false, []) := by
  unfold scanWord
  rcases isWord with isWord | isWord
  · have short : text.length ≤ 3 := by
      have size : text.length = 3 := by simpa using congrArg List.length isWord
      exact size.le
    rw [isWord, List.drop_eq_nil_of_le short]
    rfl
  · have short : text.length ≤ 8 := by
      have size : text.length = 8 := by simpa using congrArg List.length isWord
      exact size.le
    rw [isWord, List.drop_eq_nil_of_le short]
    rfl

/-- The whole text is read as infinity exactly when it is one of the words. -/
theorem fromCharsDouble_infinite_iff (text : Text) :
    fromCharsDouble text = some (.infinite false, []) ↔ isInfinityWord text = true := by
  unfold isInfinityWord
  rw [Bool.or_eq_true, decide_eq_true_eq, decide_eq_true_eq]
  constructor
  · intro read
    unfold fromCharsDouble at read
    split at read
    next rest =>
      obtain ⟨⟨value, after⟩, magnitude, negated⟩ := Option.map_eq_some_iff.mp read
      cases value with
      | finite value => cases negated
      | nan => cases negated
      | infinite negative =>
          obtain ⟨positive, -⟩ := scanWord_infinite (fromCharsMagnitude_infinite magnitude)
          rw [positive] at negated
          cases negated
    next =>
      obtain ⟨-, ⟨isPrefix, atEnd⟩ | ⟨isPrefix, -, atEnd⟩⟩ :=
        scanWord_infinite (fromCharsMagnitude_infinite read)
      · have short : text.length ≤ 8 := List.drop_eq_nil_iff.mp atEnd.symm
        refine .inr (isPrefix.eq_of_length_le ?_).symm
        rw [List.length_map]
        exact short
      · have short : text.length ≤ 3 := List.drop_eq_nil_iff.mp atEnd.symm
        refine .inl (isPrefix.eq_of_length_le ?_).symm
        rw [List.length_map]
        exact short
  · intro isWord
    obtain ⟨letter, rest, rfl, first⟩ : ∃ letter rest, text = letter :: rest ∧
        letter.toLower = 'i' := by
      cases text with
      | nil => rcases isWord with isWord | isWord <;> cases isWord
      | cons letter rest =>
          refine ⟨letter, rest, rfl, ?_⟩
          rcases isWord with isWord | isWord <;> exact (List.cons.inj isWord).1
    have noDigit : letter.isDigit = false := by
      rw [← Bool.not_eq_true]
      intro digit
      rw [toLower_of_isDigit digit] at first
      subst first
      exact absurd digit (by decide)
    have noPoint : letter ≠ '.' := by
      rintro rfl
      exact absurd first (by decide)
    have noSign : letter ≠ '-' := by
      rintro rfl
      exact absurd first (by decide)
    have magnitude : fromCharsMagnitude (letter :: rest) = some (.infinite false, []) := by
      unfold fromCharsMagnitude
      rw [scanDecimal_eq_none noDigit noPoint]
      exact scanWord_of_isInfinityWord isWord
    unfold fromCharsDouble
    split
    next isSign => exact absurd (List.cons.inj isSign).1 noSign
    next => exact magnitude
/-! ## Writing decimal integers -/

theorem toDigits_isDigit (value : Nat) : ∀ letter ∈ Nat.toDigits 10 value,
    letter.isDigit = true :=
  fun _ member => Nat.isDigit_of_mem_toDigits (by decide) (by decide) member

@[simp] theorem digitsValue_toDigits (value : Nat) :
    digitsValue (Nat.toDigits 10 value) = value :=
  Nat.ofDigitChars_ten_toDigits

example : fromCharsDouble "62500.5e1 ".toList = some (.finite 625005, [' ']) := by decide +kernel

end CharConv

end QuantGateway.Foundation
