import QuantGateway.MarketData.Symbol
import Mathlib.Tactic.IntervalCases

/-!
Owns Deribit's canonical instrument names as a type of their own: a name is built
from a base currency, a calendar date of this century and a strike, none of which
can be invalid. `parse_symbol` reads back exactly what a name was built from.

Does not own the index, which has no canonical form, nor texts that are not
rendered names.
-/

namespace QuantGateway.MarketData

open QuantGateway.Foundation
open QuantGateway.Foundation.CharConv

/-- A base currency that cannot be confused with a separator. -/
structure BaseCurrency where
  text : Text
  nonempty : text ≠ []
  noDash : '-' ∉ text
  noUnderscore : '_' ∉ text

/-- A real calendar date from 2000-01-01 to 2099-12-31. -/
structure ListedDate where
  date : YearMonthDay
  valid : date.ok = true
  early : 2000 ≤ date.year
  late : date.year ≤ 2099

/-- A positive integer strike a `double` can hold. -/
structure ListedStrike where
  value : Nat
  positive : 0 < value
  exact : value ≤ 2 ^ 53

inductive CanonicalName where
  | future (base : BaseCurrency) (expiry : ListedDate)
  | option (base : BaseCurrency) (expiry : ListedDate) (strike : ListedStrike)
      (right : OptionRight)
  | perpetual (base : BaseCurrency)

/-! ## Rendering -/

def twoDigits (value : Nat) : Text :=
  [Nat.digitChar (value / 10), Nat.digitChar (value % 10)]

def monthName (month : Nat) : Text :=
  months.getD (month - 1) []

/-- The two digits of a year of this century. -/
def ListedDate.yearOfCentury (expiry : ListedDate) : Nat :=
  (expiry.date.year - 2000).toNat

/-- The day without a leading zero, the month and the year, as in `4SEP26`. -/
def ListedDate.text (expiry : ListedDate) : Text :=
  Nat.toDigits 10 expiry.date.day ++
    (monthName expiry.date.month ++ twoDigits expiry.yearOfCentury)

/-- 08:00 UTC of a date, in nanoseconds since the epoch. -/
def ListedDate.nanoseconds (expiry : ListedDate) : Int :=
  (expiry.date.sysDays * 24 + 8) * 3600 * 10 ^ 9

def OptionRight.text : OptionRight → Text
  | .call => "C".toList
  | .put => "P".toList

/-- The dash-separated parts of a name. -/
def CanonicalName.parts : CanonicalName → List Text
  | .future base expiry => [base.text, expiry.text]
  | .option base expiry strike right =>
      [base.text, expiry.text, Nat.toDigits 10 strike.value, right.text]
  | .perpetual base => [base.text, "PERPETUAL".toList]

def CanonicalName.render (name : CanonicalName) : Text :=
  ['-'].intercalate name.parts

/-- The identity a name denotes. -/
def CanonicalName.key (name : CanonicalName) : InstrumentKey :=
  match name with
  | .future base expiry =>
      { symbol := name.render
        baseCcy := base.text
        id := 0
        kind := .future
        expiry := Int64.ofInt expiry.nanoseconds
        strike := .nan }
  | .option base expiry strike right =>
      { symbol := name.render
        baseCcy := base.text
        id := 0
        kind := .option
        expiry := Int64.ofInt expiry.nanoseconds
        strike := .finite strike.value
        right := right }
  | .perpetual base =>
      { symbol := name.render
        baseCcy := base.text
        id := 0
        kind := .perpetual
        expiry := 0
        strike := .nan }

/-- What of a key tells instruments apart. -/
def InstrumentKey.terms (key : InstrumentKey) :
    InstrumentKind × Text × Nanos × Double × OptionRight :=
  (key.kind, key.baseCcy, key.expiry, key.strike, key.right)

/-! ## Dates -/

namespace ListedDate

variable (expiry : ListedDate)

theorem day_bounds : 1 ≤ expiry.date.day ∧ expiry.date.day ≤ 31 := by
  obtain ⟨-, positive, inMonth⟩ := YearMonthDay.ok_iff.mp expiry.valid
  exact ⟨positive, inMonth.trans (YearMonthDay.lastDay_le _ _)⟩

theorem month_bounds : 1 ≤ expiry.date.month ∧ expiry.date.month ≤ 12 :=
  (YearMonthDay.ok_iff.mp expiry.valid).1

theorem yearOfCentury_lt : expiry.yearOfCentury < 100 := by
  have late := expiry.late
  unfold yearOfCentury
  omega

theorem year_eq : (2000 : Int) + expiry.yearOfCentury = expiry.date.year := by
  have early := expiry.early
  unfold yearOfCentury
  omega

/-- The nanoseconds of a date of this century fit into an `int64`. -/
theorem nanoseconds_bounds : 0 ≤ expiry.nanoseconds ∧ expiry.nanoseconds < 2 ^ 63 := by
  obtain ⟨low, high⟩ := YearMonthDay.sysDays_bounds expiry.valid expiry.early expiry.late
  unfold nanoseconds
  omega

theorem toInt_nanoseconds : (Int64.ofInt expiry.nanoseconds).toInt = expiry.nanoseconds := by
  obtain ⟨low, high⟩ := expiry.nanoseconds_bounds
  apply Int64.toInt_ofInt_of_le
  · omega
  · omega

/-- The duration arithmetic of the code is exact. -/
theorem expiryOf_eq : expiryOf expiry.date = Int64.ofInt expiry.nanoseconds := by
  unfold nanoseconds
  rw [expiryOf_eq_ofInt, Int.mul_assoc]
  rfl

theorem nanoseconds_injective {first second : ListedDate}
    (same : first.nanoseconds = second.nanoseconds) : first = second := by
  have sameDays : first.date.sysDays = second.date.sysDays := by
    unfold nanoseconds at same
    omega
  have sameDate := YearMonthDay.sysDays_injective first.valid second.valid sameDays
  cases first
  cases second
  simpa using sameDate

theorem eq_of_ofInt_nanoseconds {first second : ListedDate}
    (same : Int64.ofInt first.nanoseconds = Int64.ofInt second.nanoseconds) : first = second := by
  have sameInt := congrArg Int64.toInt same
  rw [first.toInt_nanoseconds, second.toInt_nanoseconds] at sameInt
  exact nanoseconds_injective sameInt

end ListedDate

/-! ## Texts of the parts -/

theorem day_text {day : Nat} (positive : 1 ≤ day) (small : day ≤ 31) :
    (Nat.toDigits 10 day).length = 1 ∨ (Nat.toDigits 10 day).length = 2 := by
  have atLeast : 0 < (Nat.toDigits 10 day).length := Nat.length_toDigits_pos
  have atMost :=
    (Nat.length_toDigits_le_iff (n := day) (b := 10) (by decide) two_pos).mpr (by omega)
  omega

theorem monthFromName_monthName {month : Nat} (positive : 1 ≤ month) (small : month ≤ 12) :
    (monthName month).length = 3 ∧ monthFromName (monthName month) = some month ∧
      '-' ∉ monthName month ∧ '_' ∉ monthName month := by
  interval_cases month <;> decide

theorem digitChar_isDigit {digit : Nat} (small : digit < 10) :
    (Nat.digitChar digit).isDigit = true := by
  rw [Nat.isDigit_digitChar]
  exact decide_eq_true small

theorem twoDigits_isDigit {value : Nat} (small : value < 100) :
    ∀ letter ∈ twoDigits value, letter.isDigit = true := by
  intro letter member
  rcases List.mem_cons.mp member with rfl | last
  · exact digitChar_isDigit (by omega)
  · obtain rfl := List.mem_singleton.mp last
    exact digitChar_isDigit (by omega)

theorem digitsValue_twoDigits {value : Nat} (small : value < 100) :
    digitsValue (twoDigits value) = value := by
  unfold digitsValue twoDigits
  rw [Nat.ofDigitChars_cons_digitChar_of_lt_ten (by omega),
    Nat.ofDigitChars_cons_digitChar_of_lt_ten (by omega), Nat.ofDigitChars_nil]
  omega

/-- Texts of digits contain no separator. -/
theorem not_mem_of_isDigit {text : Text} (allDigits : ∀ letter ∈ text, letter.isDigit = true)
    {sep : Char} (notDigit : sep.isDigit = false) : sep ∉ text := by
  intro member
  rw [allDigits sep member] at notDigit
  cases notDigit

theorem parseNumber_unsigned {text : Text}
    (allDigits : ∀ letter ∈ text, letter.isDigit = true) (nonempty : text ≠ [])
    (small : digitsValue text < 2 ^ 32) :
    parseNumber fromCharsUnsigned text = some (digitsValue text) := by
  unfold parseNumber
  rw [fromCharsUnsigned_digits allDigits nonempty small]

theorem parseNumber_double {value : Nat} (small : value ≤ 2 ^ 53) :
    parseNumber fromCharsDouble (Nat.toDigits 10 value) = some (.finite value) := by
  have read := fromCharsDouble_digits (toDigits_isDigit value) Nat.toDigits_ne_nil
    (by simpa using small)
  unfold parseNumber
  rw [read, digitsValue_toDigits]

namespace ListedDate

theorem text_clean (expiry : ListedDate) {sep : Char} (isSep : sep = '-' ∨ sep = '_') :
    sep ∉ expiry.text := by
  obtain ⟨positive, small⟩ := expiry.month_bounds
  obtain ⟨-, -, noDash, noUnderscore⟩ := monthFromName_monthName positive small
  have notDigit : sep.isDigit = false := by rcases isSep with rfl | rfl <;> rfl
  have noMonth : sep ∉ monthName expiry.date.month := by
    rcases isSep with rfl | rfl
    · exact noDash
    · exact noUnderscore
  simp only [text, List.mem_append, not_or]
  exact ⟨not_mem_of_isDigit (toDigits_isDigit _) notDigit, noMonth,
    not_mem_of_isDigit (twoDigits_isDigit expiry.yearOfCentury_lt) notDigit⟩

theorem text_ne_perpetual (expiry : ListedDate) : expiry.text ≠ "PERPETUAL".toList := by
  intro same
  have lengths := congrArg List.length same
  obtain ⟨positive, small⟩ := expiry.day_bounds
  obtain ⟨monthPositive, monthSmall⟩ := expiry.month_bounds
  have day := day_text positive small
  have month := (monthFromName_monthName monthPositive monthSmall).1
  simp only [text, List.length_append, month] at lengths
  have nine : "PERPETUAL".toList.length = 9 := rfl
  have two : (twoDigits expiry.yearOfCentury).length = 2 := rfl
  omega

/-- `parse_expiry` reads back the date a text was written from. -/
theorem parseExpiry_text (expiry : ListedDate) :
    parseExpiry expiry.text = some (Int64.ofInt expiry.nanoseconds) := by
  obtain ⟨dayPositive, daySmall⟩ := expiry.day_bounds
  obtain ⟨monthPositive, monthSmall⟩ := expiry.month_bounds
  obtain ⟨monthLength, month, -, -⟩ := monthFromName_monthName monthPositive monthSmall
  have dayLength := day_text dayPositive daySmall
  have yearLength : (twoDigits expiry.yearOfCentury).length = 2 := rfl
  have length : expiry.text.length = (Nat.toDigits 10 expiry.date.day).length + 5 := by
    simp only [text, List.length_append, monthLength, yearLength]
  have dayDigits : expiry.text.length - 5 = (Nat.toDigits 10 expiry.date.day).length := by omega
  have dayPart : expiry.text.take (expiry.text.length - 5) =
      Nat.toDigits 10 expiry.date.day := by
    rw [dayDigits, text, List.take_left]
  have rest : expiry.text.drop (expiry.text.length - 5) =
      monthName expiry.date.month ++ twoDigits expiry.yearOfCentury := by
    rw [dayDigits, text, List.drop_left]
  have monthPart : (expiry.text.drop (expiry.text.length - 5)).take 3 =
      monthName expiry.date.month := by
    rw [rest, ← monthLength, List.take_left]
  have yearPart : expiry.text.drop (expiry.text.length - 5 + 3) =
      twoDigits expiry.yearOfCentury := by
    rw [← List.drop_drop, rest, ← monthLength, List.drop_left]
  have day : parseNumber fromCharsUnsigned (Nat.toDigits 10 expiry.date.day) =
      some expiry.date.day := by
    have small : digitsValue (Nat.toDigits 10 expiry.date.day) < 2 ^ 32 := by
      rw [digitsValue_toDigits]
      omega
    rw [parseNumber_unsigned (toDigits_isDigit _) Nat.toDigits_ne_nil small, digitsValue_toDigits]
  have year : parseNumber fromCharsUnsigned (twoDigits expiry.yearOfCentury) =
      some expiry.yearOfCentury := by
    have below := expiry.yearOfCentury_lt
    have small : digitsValue (twoDigits expiry.yearOfCentury) < 2 ^ 32 := by
      rw [digitsValue_twoDigits below]
      omega
    rw [parseNumber_unsigned (twoDigits_isDigit below) (List.cons_ne_nil _ _) small,
      digitsValue_twoDigits below]
  have inRange : ¬ (expiry.text.length < 6 || 7 < expiry.text.length) = true := by
    simp only [Bool.or_eq_true, decide_eq_true_eq]
    omega
  unfold parseExpiry
  simp only [if_neg inRange, dayPart, monthPart, yearPart, day, month, year, expiry.year_eq,
    expiry.valid, if_true, expiry.expiryOf_eq]

end ListedDate

/-! ## Names -/

theorem rightFromName_text (right : OptionRight) : rightFromName right.text = some right := by
  cases right <;> rfl

namespace CanonicalName

theorem parts_clean (name : CanonicalName) {sep : Char} (isSep : sep = '-' ∨ sep = '_') :
    ∀ part ∈ name.parts, sep ∉ part := by
  have notDigit : sep.isDigit = false := by rcases isSep with rfl | rfl <;> rfl
  have baseClean (base : BaseCurrency) : sep ∉ base.text := by
    rcases isSep with rfl | rfl
    · exact base.noDash
    · exact base.noUnderscore
  intro part member
  cases name with
  | future base expiry =>
      simp only [parts, List.mem_cons, List.not_mem_nil, or_false] at member
      rcases member with rfl | rfl
      · exact baseClean base
      · exact expiry.text_clean isSep
  | option base expiry strike right =>
      simp only [parts, List.mem_cons, List.not_mem_nil, or_false] at member
      rcases member with rfl | rfl | rfl | rfl
      · exact baseClean base
      · exact expiry.text_clean isSep
      · exact not_mem_of_isDigit (toDigits_isDigit _) notDigit
      · rcases isSep with rfl | rfl <;> cases right <;> decide
  | perpetual base =>
      simp only [parts, List.mem_cons, List.not_mem_nil, or_false] at member
      rcases member with rfl | rfl
      · exact baseClean base
      · rcases isSep with rfl | rfl <;> decide

theorem splitOn_render (name : CanonicalName) : name.render.splitOn '-' = name.parts := by
  apply List.splitOn_intercalate
  · exact name.parts_clean (.inl rfl)
  · cases name <;> exact List.cons_ne_nil _ _

theorem render_no_underscore (name : CanonicalName) : '_' ∉ name.render := by
  apply not_mem_intercalate
  · exact name.parts_clean (.inr rfl)
  · decide

theorem render_ne_nil (name : CanonicalName) : name.render ≠ [] := by
  intro empty
  have pieces := name.splitOn_render
  rw [empty] at pieces
  cases name with
  | future base expiry => simp [parts] at pieces
  | option base expiry strike right => simp [parts] at pieces
  | perpetual base => simp [parts] at pieces

/-- `parse_symbol` reads back the identity a name was rendered from. -/
theorem parseSymbol_render (name : CanonicalName) : parseSymbol name.render = some name.key := by
  rw [parseSymbol_of_no_underscore name.render_ne_nil name.render_no_underscore,
    name.splitOn_render]
  cases name with
  | future base expiry =>
      simp only [parts, if_neg base.nonempty, parsePair, if_neg expiry.text_ne_perpetual,
        expiry.parseExpiry_text, Option.map_some]
      rfl
  | option base expiry strike right =>
      simp only [parts, if_neg base.nonempty, parseOption, expiry.parseExpiry_text,
        parseNumber_double strike.exact, ExtendedRational.lt_zero_natCast strike.positive,
        rightFromName_text, Option.map_some]
      rfl
  | perpetual base =>
      simp only [parts, if_neg base.nonempty]
      unfold parsePair
      rw [if_pos rfl]
      rfl

/-- Names with the same terms are the same text. -/
theorem render_eq_of_terms {first second : CanonicalName}
    (same : first.key.terms = second.key.terms) : first.render = second.render := by
  unfold render
  cases first with
  | future base expiry =>
      cases second with
      | future base' expiry' =>
          simp only [InstrumentKey.terms, key, Prod.mk.injEq] at same
          obtain ⟨-, sameBase, sameNanos, -⟩ := same
          simp only [parts, sameBase, ListedDate.eq_of_ofInt_nanoseconds sameNanos]
      | option base' expiry' strike' right' => simp [InstrumentKey.terms, key] at same
      | perpetual base' => simp [InstrumentKey.terms, key] at same
  | option base expiry strike right =>
      cases second with
      | future base' expiry' => simp [InstrumentKey.terms, key] at same
      | option base' expiry' strike' right' =>
          simp only [InstrumentKey.terms, key, Prod.mk.injEq, ExtendedRational.finite.injEq,
            Nat.cast_inj] at same
          obtain ⟨-, sameBase, sameNanos, sameStrike, sameRight⟩ := same
          simp only [parts, sameBase, ListedDate.eq_of_ofInt_nanoseconds sameNanos, sameStrike,
            sameRight]
      | perpetual base' => simp [InstrumentKey.terms, key] at same
  | perpetual base =>
      cases second with
      | future base' expiry' => simp [InstrumentKey.terms, key] at same
      | option base' expiry' strike' right' => simp [InstrumentKey.terms, key] at same
      | perpetual base' =>
          simp only [InstrumentKey.terms, key, Prod.mk.injEq] at same
          obtain ⟨-, sameBase, -⟩ := same
          simp only [parts, sameBase]

/-- `parse_symbol` inverts Deribit's canonical naming: it reads back what a name
was rendered from, with the expiry exact in nanoseconds, so that different names
denote different instruments. -/
theorem parseSymbol_inverts_rendering :
    (∀ name : CanonicalName, parseSymbol name.render = some name.key) ∧
    (∀ expiry : ListedDate,
      (0 ≤ expiry.nanoseconds ∧ expiry.nanoseconds < 2 ^ 63) ∧
        (Int64.ofInt expiry.nanoseconds).toInt = expiry.nanoseconds) ∧
    (∀ first second : CanonicalName,
      (parseSymbol first.render).map InstrumentKey.terms =
        (parseSymbol second.render).map InstrumentKey.terms →
      first.render = second.render) := by
  refine ⟨parseSymbol_render, fun expiry => ⟨expiry.nanoseconds_bounds, expiry.toInt_nanoseconds⟩,
    fun first second same => ?_⟩
  rw [parseSymbol_render, parseSymbol_render] at same
  exact render_eq_of_terms (Option.some.inj same)

example :
    (CanonicalName.option ⟨"BTC".toList, by decide, by decide, by decide⟩
      ⟨⟨2026, 9, 4⟩, by decide, by decide, by decide⟩ ⟨62000, by decide, by decide⟩ .put).render =
      "BTC-4SEP26-62000-P".toList := by
  decide

end CanonicalName

end QuantGateway.MarketData
