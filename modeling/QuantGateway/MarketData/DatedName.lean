import QuantGateway.Foundation.ShortestDecimal
import QuantGateway.MarketData.CanonicalName

/-!
Owns the names of dated instruments with any strike a `double` can hold, and the
converse of reading them: which accepted futures and options are such a name, and
that two such symbols never denote one instrument.

The strike of a name is the plain text of the number its key holds, so that the name
can be written again from the key.
-/

namespace QuantGateway.MarketData

open QuantGateway.Foundation
open QuantGateway.Foundation.CharConv
open QuantGateway.Foundation.ExtendedRational

/-- A positive number a `double` holds, with its plain text. -/
structure PlainStrike where
  decimal : PlainDecimal
  value : ℚ
  positive : 0 < value
  writes : decimal.Writes value

inductive DatedName where
  | future (base : BaseCurrency) (expiry : ListedDate)
  | option (base : BaseCurrency) (expiry : ListedDate) (strike : PlainStrike)
      (right : OptionRight)

namespace DatedName

def parts : DatedName → List Text
  | .future base expiry => [base.text, expiry.text]
  | .option base expiry strike right =>
      [base.text, expiry.text, strike.decimal.text, right.text]

def render (name : DatedName) : Text :=
  ['-'].intercalate name.parts

/-- The identity a name denotes. -/
def key (name : DatedName) : InstrumentKey :=
  match name with
  | .future base expiry =>
      { symbol := name.render
        baseCcy := base.text
        id := 0
        kind := .future
        expiry := Int64.ofInt expiry.nanoseconds
        strike := .nan }
  | .option base expiry strike right =>
      { symbol := name.render
        baseCcy := base.text
        id := 0
        kind := .option
        expiry := Int64.ofInt expiry.nanoseconds
        strike := .finite strike.value
        right := right }

theorem parts_clean (name : DatedName) : ∀ part ∈ name.parts, '-' ∉ part := by
  intro part member
  cases name with
  | future base expiry =>
      simp only [parts, List.mem_cons, List.not_mem_nil, or_false] at member
      rcases member with rfl | rfl
      · exact base.noDash
      · exact expiry.text_clean (.inl rfl)
  | option base expiry strike right =>
      simp only [parts, List.mem_cons, List.not_mem_nil, or_false] at member
      rcases member with rfl | rfl | rfl | rfl
      · exact base.noDash
      · exact expiry.text_clean (.inl rfl)
      · intro dash
        exact absurd (strike.decimal.mem_text dash) (by decide)
      · cases right <;> decide

theorem splitOn_render (name : DatedName) : name.render.splitOn '-' = name.parts := by
  apply List.splitOn_intercalate
  · exact name.parts_clean
  · cases name <;> exact List.cons_ne_nil _ _

/-- The name can be written again from what it denotes. -/
theorem render_eq_of_terms {first second : DatedName}
    (same : first.key.terms = second.key.terms) : first.render = second.render := by
  unfold render
  cases first with
  | future base expiry =>
      cases second with
      | future base' expiry' =>
          simp only [InstrumentKey.terms, key, Prod.mk.injEq] at same
          obtain ⟨-, sameBase, sameNanos, -⟩ := same
          simp only [parts, sameBase, ListedDate.eq_of_ofInt_nanoseconds sameNanos]
      | option base' expiry' strike' right' => simp [InstrumentKey.terms, key] at same
  | option base expiry strike right =>
      cases second with
      | future base' expiry' => simp [InstrumentKey.terms, key] at same
      | option base' expiry' strike' right' =>
          simp only [InstrumentKey.terms, key, Prod.mk.injEq, ExtendedRational.finite.injEq] at same
          obtain ⟨-, sameBase, sameNanos, sameStrike, sameRight⟩ := same
          have sameText := strike.writes.unique (sameStrike ▸ strike'.writes)
          simp only [parts, sameBase, ListedDate.eq_of_ofInt_nanoseconds sameNanos, sameText,
            sameRight]

end DatedName

/-- The day has no leading zero, and the strike is a plain number: the shortest of those
that round to the same `double`. -/
structure WellWritten (symbol : Text) : Prop where
  day : ∀ expiry, (symbol.splitOn '-')[1]? = some expiry → expiry.head? ≠ some '0'
  strike : ∀ strike, (symbol.splitOn '-')[2]? = some strike →
    ∃ (decimal : PlainDecimal) (value : ℚ), decimal.text = strike ∧ decimal.Writes value

/-! ## Reading dates back -/

theorem parseNumber_unsigned_some {text : Text} {value : Nat}
    (read : parseNumber fromCharsUnsigned text = some value) :
    text ≠ [] ∧ (∀ letter ∈ text, letter.isDigit = true) ∧ digitsValue text = value := by
  rw [parseNumber_eq_some] at read
  unfold fromCharsUnsigned at read
  by_cases none : digits text = []
  · rw [if_pos none] at read
    cases read
  rw [if_neg none] at read
  by_cases small : digitsValue (digits text) < 2 ^ 32
  · rw [if_pos small, Option.some.injEq, Prod.mk.injEq] at read
    obtain ⟨isValue, atEnd⟩ := read
    have allDigits := List.dropWhile_eq_nil_iff.mp atEnd
    rw [digits_eq_self allDigits] at none isValue
    exact ⟨none, allDigits, isValue⟩
  · rw [if_neg small] at read
    cases read

theorem parseNumber_unsigned_lt {text : Text} {value places : Nat}
    (read : parseNumber fromCharsUnsigned text = some value) (short : text.length ≤ places) :
    value < 10 ^ places := by
  obtain ⟨-, allDigits, rfl⟩ := parseNumber_unsigned_some read
  have small := digitsValue_lt allDigits
  exact small.trans_le (Nat.pow_le_pow_right (by decide) short)

theorem monthFromName_some {name : Text} {month : Nat} (named : monthFromName name = some month) :
    name = monthName month := by
  obtain ⟨place, found, rfl⟩ := Option.map_eq_some_iff.mp named
  obtain ⟨inMonths, isName, -⟩ := List.idxOf?_eq_some_iff.mp found
  unfold monthName
  rw [Nat.add_sub_cancel, List.getD_eq_getElem?_getD, List.getElem?_eq_getElem inMonths, isName]
  rfl

theorem monthFromName_le {name : Text} {month : Nat} (named : monthFromName name = some month) :
    month ≤ 12 := by
  obtain ⟨place, found, rfl⟩ := Option.map_eq_some_iff.mp named
  obtain ⟨inMonths, -, -⟩ := List.idxOf?_eq_some_iff.mp found
  exact inMonths

/-- Everything a read expiry is made of. -/
theorem parseExpiry_some {text : Text} {nanos : Nanos} (read : parseExpiry text = some nanos) :
    (text.length = 6 ∨ text.length = 7) ∧ ∃ day month year,
      parseNumber fromCharsUnsigned (text.take (text.length - 5)) = some day ∧
      monthFromName ((text.drop (text.length - 5)).take 3) = some month ∧
      parseNumber fromCharsUnsigned (text.drop (text.length - 5 + 3)) = some year ∧
      (⟨2000 + year, month, day⟩ : YearMonthDay).ok = true ∧
      nanos = expiryOf ⟨2000 + year, month, day⟩ := by
  unfold parseExpiry at read
  split at read
  next => cases read
  next inRange =>
    simp only [Bool.or_eq_true, decide_eq_true_eq, not_or, not_lt] at inRange
    dsimp only at read
    split at read
    next day month year readDay readMonth readYear =>
      split at read
      next valid =>
        exact ⟨by omega, day, month, year, readDay, readMonth, readYear, valid,
          (Option.some.inj read).symm⟩
      next => cases read
    next => cases read

/-- An expiry is read as a date, and is its text but for a leading zero. -/
theorem exists_listedDate {text : Text} {nanos : Nanos} (read : parseExpiry text = some nanos) :
    ∃ expiry : ListedDate, Int64.ofInt expiry.nanoseconds = nanos ∧
      (text.head? ≠ some '0' → expiry.text = text) := by
  obtain ⟨lengths, day, month, year, readDay, readMonth, readYear, valid, rfl⟩ :=
    parseExpiry_some read
  have yearLength : (text.drop (text.length - 5 + 3)).length = 2 := by
    rw [List.length_drop]
    omega
  have yearSmall : year < 10 ^ 2 := parseNumber_unsigned_lt readYear yearLength.le
  have early : (2000 : Int) ≤ 2000 + year := by omega
  have late : (2000 : Int) + year ≤ 2099 := by omega
  refine ⟨⟨⟨2000 + year, month, day⟩, valid, early, late⟩, ?_, fun noLeadingZero => ?_⟩
  · rw [← ListedDate.expiryOf_eq]
  obtain ⟨someDay, dayDigits, isDay⟩ := parseNumber_unsigned_some readDay
  obtain ⟨-, yearDigits, isYear⟩ := parseNumber_unsigned_some readYear
  have dayPlain : PlainWhole (text.take (text.length - 5)) := by
    refine ⟨someDay, dayDigits, .inr ?_⟩
    rw [List.head?_take, if_neg (by omega)]
    exact noLeadingZero
  have dayText : Nat.toDigits 10 day = text.take (text.length - 5) := by
    apply (plainWhole_toDigits day).eq_of_digitsValue_eq dayPlain
    rw [digitsValue_toDigits, isDay]
  have yearText : twoDigits year = text.drop (text.length - 5 + 3) := by
    apply eq_of_digitsValue_eq (twoDigits_isDigit yearSmall) yearDigits
    · rw [yearLength]
      rfl
    · rw [digitsValue_twoDigits yearSmall, isYear]
  unfold ListedDate.text ListedDate.yearOfCentury
  have century : (2000 + (year : Int) - 2000).toNat = year := by omega
  rw [century, dayText, ← monthFromName_some readMonth, yearText, ← List.drop_drop,
    List.take_append_drop, List.take_append_drop]

theorem ListedDate.head?_text (expiry : ListedDate) : expiry.text.head? ≠ some '0' := by
  obtain ⟨positive, -⟩ := expiry.day_bounds
  unfold text
  rw [List.head?_append_of_ne_nil _ Nat.toDigits_ne_nil]
  exact head?_toDigits positive

/-! ## Reading names back -/

theorem rightFromName_eq_some {name : Text} {right : OptionRight}
    (named : rightFromName name = some right) : name = right.text := by
  rcases rightFromName_some named with rfl | rfl
  · obtain rfl : OptionRight.call = right := Option.some.inj named
    rfl
  · obtain rfl : OptionRight.put = right := Option.some.inj named
    rfl

theorem wellWritten_render (name : DatedName) : WellWritten name.render := by
  constructor
  · intro expiry second
    rw [name.splitOn_render] at second
    cases name with
    | future base date =>
        obtain rfl : date.text = expiry := Option.some.inj second
        exact date.head?_text
    | option base date strike right =>
        obtain rfl : date.text = expiry := Option.some.inj second
        exact date.head?_text
  · intro strike third
    rw [name.splitOn_render] at third
    cases name with
    | future base date => cases third
    | option base date number right =>
        exact ⟨number.decimal, number.value, Option.some.inj third, number.writes⟩

/-- The first part of a symbol without an underscore is a base currency. -/
theorem exists_baseCurrency {symbol base : Text} {rest : List Text}
    (parts : symbol.splitOn '-' = base :: rest) (absent : '_' ∉ symbol) (named : base ≠ []) :
    ∃ currency : BaseCurrency, currency.text = base := by
  have letters := mem_splitOn (parts ▸ List.mem_cons_self)
  refine ⟨⟨base, named, ?_, ?_⟩, rfl⟩
  · intro dash
    exact (letters '-' dash).2 rfl
  · intro underscore
    exact absent (letters '_' underscore).1

/-- What an accepted future or option consists of. -/
theorem dated_cases {symbol : Text} {key : InstrumentKey}
    (parsed : parseSymbol symbol = some key) (dated : key.kind = .future ∨ key.kind = .option) :
    (∃ (base : BaseCurrency) (expiry : Text) (date : ListedDate),
      symbol.splitOn '-' = [base.text, expiry] ∧
      (expiry.head? ≠ some '0' → date.text = expiry) ∧
      key =
        { symbol := symbol
          baseCcy := base.text
          id := 0
          kind := .future
          expiry := Int64.ofInt date.nanoseconds
          strike := .nan }) ∨
    ∃ (base : BaseCurrency) (expiry : Text) (date : ListedDate) (strike : Text) (number : Double)
      (right : OptionRight),
      symbol.splitOn '-' = [base.text, expiry, strike, right.text] ∧
      (expiry.head? ≠ some '0' → date.text = expiry) ∧
      fromCharsDouble strike = some (number, []) ∧
      ExtendedRational.lt (.finite 0) number = true ∧
      key =
        { symbol := symbol
          baseCcy := base.text
          id := 0
          kind := .option
          expiry := Int64.ofInt date.nanoseconds
          strike := number
          right := right } := by
  rcases parseSymbol_cases parsed with
    ⟨underscore, -, made⟩ | ⟨absent, base, last, parts, named, made⟩ |
    ⟨absent, base, expiryText, strikeText, rightText, parts, named, made⟩
  · obtain ⟨-, -, rfl⟩ := parseIndex_some made
    rcases dated with kind | kind
    · cases kind
    · cases kind
  · obtain ⟨currency, rfl⟩ := exists_baseCurrency parts absent named
    rcases parsePair_some made with ⟨-, rfl⟩ | ⟨nanos, read, rfl⟩
    · rcases dated with kind | kind
      · cases kind
      · cases kind
    · obtain ⟨date, rfl, isText⟩ := exists_listedDate read
      exact .inl ⟨currency, last, date, parts, isText, rfl⟩
  · obtain ⟨currency, rfl⟩ := exists_baseCurrency parts absent named
    obtain ⟨nanos, number, right, read, readStrike, positive, readRight, rfl⟩ :=
      parseOption_some made
    obtain ⟨date, rfl, isText⟩ := exists_listedDate read
    obtain rfl := rightFromName_eq_some readRight
    exact .inr ⟨currency, expiryText, date, strikeText, number, right, parts, isText,
      parseNumber_eq_some.mp readStrike, positive, rfl⟩

/-- A well-written dated symbol is the name of the instrument it is read as. -/
theorem exists_datedName {symbol : Text} {key : InstrumentKey}
    (parsed : parseSymbol symbol = some key) (dated : key.kind = .future ∨ key.kind = .option)
    (written : WellWritten symbol) :
    ∃ name : DatedName, name.render = symbol ∧ name.key = key := by
  have joined : ['-'].intercalate (symbol.splitOn '-') = symbol := List.intercalate_splitOn '-'
  rcases dated_cases parsed dated with
    ⟨base, expiry, date, parts, isText, rfl⟩ |
    ⟨base, expiry, date, strike, number, right, parts, isText, read, positive, rfl⟩
  · obtain rfl := isText (written.day expiry (by rw [parts]; rfl))
    have rendered : (DatedName.future base date).render = symbol := by
      rw [← joined, parts]
      rfl
    refine ⟨.future base date, rendered, ?_⟩
    unfold DatedName.key
    rw [rendered]
  · obtain rfl := isText (written.day expiry (by rw [parts]; rfl))
    obtain ⟨decimal, value, rfl, writes⟩ := written.strike strike (by rw [parts]; rfl)
    obtain rfl : .finite value = number := by
      rw [decimal.fromCharsDouble_text writes.rounds] at read
      split at read
      next => cases read
      next =>
        cases read
        rfl
    have strikePositive : 0 < value := by simpa [ExtendedRational.lt] using positive
    have rendered : (DatedName.option base date ⟨decimal, value, strikePositive, writes⟩
        right).render = symbol := by
      rw [← joined, parts]
      rfl
    refine ⟨.option base date ⟨decimal, value, strikePositive, writes⟩ right, rendered, ?_⟩
    unfold DatedName.key
    rw [rendered]

/-- Every instrument that is read has a name, unless its strike is infinite. -/
theorem exists_name {symbol : Text} {key : InstrumentKey}
    (parsed : parseSymbol symbol = some key) (dated : key.kind = .future ∨ key.kind = .option)
    (bounded : key.strike ≠ .infinite false) :
    ∃ name : DatedName, name.key.terms = key.terms := by
  rcases dated_cases parsed dated with
    ⟨base, expiry, date, parts, -, rfl⟩ |
    ⟨base, expiry, date, strike, number, right, parts, -, read, positive, rfl⟩
  · exact ⟨.future base date, rfl⟩
  · have unsigned : '-' ∉ strike := by
      have inParts : strike ∈ symbol.splitOn '-' := by simp [parts]
      exact fun dash => (mem_splitOn inParts '-' dash).2 rfl
    have magnitude : fromCharsMagnitude strike = some (number, []) := by
      unfold fromCharsDouble at read
      split at read
      next => simp at unsigned
      next => exact read
    cases number with
    | finite value =>
        obtain ⟨decimal, writes⟩ := PlainDecimal.exists_writes_of_read magnitude
        have strikePositive : 0 < value := by simpa [ExtendedRational.lt] using positive
        exact ⟨.option base date ⟨decimal, value, strikePositive, writes⟩ right, rfl⟩
    | infinite negative =>
        cases negative with
        | false => exact absurd rfl bounded
        | true => cases positive
    | nan => cases positive

/-- An accepted future or option is the canonical name of the key it is read as just
when it is well written, no other well-written symbol denotes the same instrument, and
unless the strike is infinite there is such a name. -/
theorem dated_symbol_canonical_iff {symbol : Text} {key : InstrumentKey}
    (parsed : parseSymbol symbol = some key) (dated : key.kind = .future ∨ key.kind = .option) :
    ((∃ name : DatedName, name.render = symbol ∧ name.key = key) ↔ WellWritten symbol) ∧
    (∀ (other : Text) (key' : InstrumentKey), parseSymbol other = some key' →
      WellWritten symbol → WellWritten other → key.terms = key'.terms → symbol = other) ∧
    (key.strike ≠ .infinite false → ∃ name : DatedName, name.key.terms = key.terms) := by
  refine ⟨?_, ?_, exists_name parsed dated⟩
  · constructor
    · rintro ⟨name, rfl, -⟩
      exact wellWritten_render name
    · exact exists_datedName parsed dated
  · intro other key' parsed' written written' same
    have sameKind : key.kind = key'.kind := congrArg Prod.fst same
    obtain ⟨name, rfl, rfl⟩ := exists_datedName parsed dated written
    obtain ⟨name', rfl, rfl⟩ := exists_datedName parsed' (sameKind ▸ dated) written'
    exact DatedName.render_eq_of_terms same

/-- A day with a leading zero makes a second symbol for one instrument. -/
theorem leading_zero_not_canonical :
    parseSymbol "BTC-04SEP26".toList =
        some
          { symbol := "BTC-04SEP26".toList
            baseCcy := "BTC".toList
            kind := .future
            expiry := 1788508800000000000 } ∧
      (parseSymbol "BTC-04SEP26".toList).map InstrumentKey.terms =
        (parseSymbol "BTC-4SEP26".toList).map InstrumentKey.terms ∧
      ¬ ∃ name : DatedName, name.render = "BTC-04SEP26".toList := by
  refine ⟨?_, ?_, ?_⟩
  · rw [parseSymbol_of_no_underscore (by decide) (by decide)]
    decide +kernel
  · rw [parseSymbol_of_no_underscore (by decide) (by decide),
      parseSymbol_of_no_underscore (by decide) (by decide)]
    decide +kernel
  · rintro ⟨name, rendered⟩
    have written := wellWritten_render name
    rw [rendered] at written
    exact written.day "04SEP26".toList rfl rfl

/-- `1.1`. -/
def elevenTenths : PlainDecimal where
  whole := ['1']
  fraction := ['1']
  plain := ⟨List.cons_ne_nil _ _, List.forall_mem_singleton.mpr rfl, .inr (by decide)⟩
  fractionDigits := List.forall_mem_singleton.mpr rfl
  noIdleZero := by decide

/-- A strike that no `double` holds exactly is canonical all the same. -/
theorem rounded_strike_canonical :
    ∃ name : DatedName, name.render = "BTC-26JUN26-1.1-C".toList ∧
      name.key.strike = .finite (2476979795053773 / 2251799813685248) := by
  have parsed : parseSymbol "BTC-26JUN26-1.1-C".toList =
      some
        { symbol := "BTC-26JUN26-1.1-C".toList
          baseCcy := "BTC".toList
          kind := .option
          expiry := 1782460800000000000
          strike := .finite (2476979795053773 / 2251799813685248)
          right := .call } := by
    rw [parseSymbol_of_no_underscore (by decide) (by decide)]
    decide +kernel
  have writes : elevenTenths.Writes (2476979795053773 / 2251799813685248) :=
    PlainDecimal.writes_of_length (by decide) (by decide +kernel) (by norm_num)
  have written : WellWritten "BTC-26JUN26-1.1-C".toList := by
    constructor
    · intro expiry second
      obtain rfl : "26JUN26".toList = expiry := Option.some.inj second
      decide
    · intro strike third
      exact ⟨elevenTenths, _, Option.some.inj third, writes⟩
  obtain ⟨name, rendered, isKey⟩ := (dated_symbol_canonical_iff parsed (.inr rfl)).1.mpr written
  exact ⟨name, rendered, congrArg InstrumentKey.strike isKey⟩

end QuantGateway.MarketData
