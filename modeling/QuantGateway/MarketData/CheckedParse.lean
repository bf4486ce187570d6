import QuantGateway.MarketData.DatedName
import QuantGateway.MarketData.SplitLoop

/-!
Owns `parse_symbol` with everything that could go wrong in it: the positions of its
`substr` calls, the indices of `parts`, the conversions on the way from two numbers
and a month to a date, and the durations from a date to an expiry. None of it goes
wrong for any text.

Does not own memory: a vector or a string that finds none throws.
-/

namespace QuantGateway.MarketData

open QuantGateway.Foundation
open QuantGateway.Foundation.CharConv

/-- The `year_month_day` of `parse_expiry`; the sum is one of `unsigned` values. -/
def dateChecked (year month day : Nat) : Checked YearMonthDay := do
  let year ← toInt ((2000 + year) % 2 ^ 32)
  let year ← chronoYear year
  let month ← chronoMonth month
  let day ← chronoDay day
  .ok ⟨year, month, day⟩

/-- `Nanos{sys_days{date} + kDeribitExpiryHourUtc}`: the days in hours, eight hours
more, and these in nanoseconds. -/
def expiryChecked (date : YearMonthDay) : Checked Nanos := do
  let days ← durationCount date.sysDays
  let hours ← durationCount (days * 24)
  let expiry ← durationCount (hours + 8)
  let nanos ← durationCount (expiry * 3600000000000)
  .ok (Int64.ofInt nanos)

def parseExpiryChecked (text : Text) : Checked (Option Nanos) :=
  if text.length < 6 || 7 < text.length then .ok none
  else do
    let dayDigits ← sizeDifference text.length 5
    let dayText ← substr text 0 dayDigits
    let monthText ← substr text dayDigits 3
    let yearText ← substrFrom text (dayDigits + 3)
    match parseNumber fromCharsUnsigned dayText, monthFromName monthText,
        parseNumber fromCharsUnsigned yearText with
    | some day, some month, some year => do
        let date ← dateChecked year month day
        if date.ok then do
          let expiry ← expiryChecked date
          .ok (some expiry)
        else .ok none
    | _, _, _ => .ok none

/-- The branch for a symbol with an underscore. -/
def parseIndexChecked (symbol : Text) (underscore : Nat) : Checked (Option InstrumentKey) :=
  if underscore = 0 || underscore + 1 = symbol.length then .ok none
  else do
    let base ← substr symbol 0 underscore
    .ok (some
      { symbol := symbol
        baseCcy := toUpper base
        kind := .index })

/-- The branch for two parts. -/
def parsePairChecked (symbol base : Text) (parts : List Text) : Checked (Option InstrumentKey) := do
  let last ← element parts 1
  if last = "PERPETUAL".toList then
    .ok (some { symbol := symbol, baseCcy := base, kind := .perpetual })
  else do
    let last ← element parts 1
    let expiry ← parseExpiryChecked last
    match expiry with
    | none => .ok none
    | some expiry =>
        .ok (some { symbol := symbol, baseCcy := base, kind := .future, expiry := expiry })

/-- The branch for four parts. -/
def parseOptionChecked (symbol base : Text) (parts : List Text) :
    Checked (Option InstrumentKey) := do
  let expiryText ← element parts 1
  let expiry ← parseExpiryChecked expiryText
  let strikeText ← element parts 2
  match expiry, parseNumber fromCharsDouble strikeText with
  | some expiry, some strike =>
      if !(ExtendedRational.lt (.finite 0) strike) then .ok none
      else do
        let key (right : OptionRight) : InstrumentKey :=
          { symbol := symbol
            baseCcy := base
            kind := .option
            expiry := expiry
            strike := strike
            right := right }
        let right ← element parts 3
        if right = "C".toList then .ok (some (key .call))
        else do
          let right ← element parts 3
          if right = "P".toList then .ok (some (key .put)) else .ok none
  | _, _ => .ok none

/-- `parse_symbol`, its loop in `split` given up after so many passes. -/
def parseSymbolChecked (passes : Nat) (symbol : Text) : Checked (Option InstrumentKey) :=
  if symbol = [] then .ok none
  else
    match find symbol '_' 0 with
    | some underscore => parseIndexChecked symbol underscore
    | none => do
        let parts ← splitLoop passes symbol '-'
        if parts.length ≠ 2 && parts.length ≠ 4 then .ok none
        else do
          let base ← element parts 0
          if base = [] then .ok none
          else if parts.length = 2 then parsePairChecked symbol base parts
          else parseOptionChecked symbol base parts

/-! ## Dates and expiries -/

theorem dateChecked_of_lt {year month day : Nat} (century : year < 100) (inYear : month ≤ 12)
    (twoDigits : day < 100) : dateChecked year month day = .ok ⟨2000 + year, month, day⟩ := by
  have noWrap : (2000 + year) % 2 ^ 32 = 2000 + year := Nat.mod_eq_of_lt (by omega)
  unfold dateChecked
  rw [noWrap, toInt_of_lt (by omega), checked_ok_bind, chronoYear_of_le (by omega) (by omega),
    checked_ok_bind, chronoMonth_of_le (by omega), checked_ok_bind, chronoDay_of_le (by omega),
    checked_ok_bind]
  rfl

/-- The durations on the way from a date of this century to its expiry fit. -/
theorem expiryChecked_of_century {date : YearMonthDay} (valid : date.ok = true)
    (early : 2000 ≤ date.year) (late : date.year ≤ 2099) :
    expiryChecked date = .ok (expiryOf date) := by
  obtain ⟨low, high⟩ := YearMonthDay.sysDays_bounds valid early late
  unfold expiryChecked
  rw [durationCount_of_fits (by omega) (by omega), checked_ok_bind,
    durationCount_of_fits (by omega) (by omega), checked_ok_bind,
    durationCount_of_fits (by omega) (by omega), checked_ok_bind,
    durationCount_of_fits (by omega) (by omega), checked_ok_bind, expiryOf_eq_ofInt]

/-- The year has two digits and the day at most two, whatever the text holds. -/
theorem parseExpiryChecked_eq (text : Text) :
    parseExpiryChecked text = .ok (parseExpiry text) := by
  unfold parseExpiryChecked parseExpiry
  by_cases wrongLength : (text.length < 6 || 7 < text.length) = true
  · rw [if_pos wrongLength, if_pos wrongLength]
  rw [if_neg wrongLength, if_neg wrongLength]
  simp only [Bool.or_eq_true, decide_eq_true_eq, not_or, not_lt] at wrongLength
  obtain ⟨long, short⟩ := wrongLength
  rw [sizeDifference_of_le (by omega), checked_ok_bind, substr_of_le (Nat.zero_le _),
    checked_ok_bind, substr_of_le (by omega), checked_ok_bind, substrFrom_of_le (by omega),
    checked_ok_bind, List.drop_zero]
  dsimp only
  cases readDay : parseNumber fromCharsUnsigned (text.take (text.length - 5)) with
  | none => rfl
  | some day =>
  cases readMonth : monthFromName ((text.drop (text.length - 5)).take 3) with
  | none => rfl
  | some month =>
  cases readYear : parseNumber fromCharsUnsigned (text.drop (text.length - 5 + 3)) with
  | none => rfl
  | some year =>
      have twoDigits : day < 10 ^ 2 := by
        apply parseNumber_unsigned_lt readDay
        rw [List.length_take]
        omega
      have century : year < 10 ^ 2 := by
        apply parseNumber_unsigned_lt readYear
        rw [List.length_drop]
        omega
      simp only
      rw [dateChecked_of_lt century (monthFromName_le readMonth) twoDigits, checked_ok_bind]
      by_cases valid : (⟨2000 + year, month, day⟩ : YearMonthDay).ok = true
      · rw [if_pos valid, if_pos valid, expiryChecked_of_century valid (by simp) (by simp; omega),
          checked_ok_bind]
      · rw [if_neg valid, if_neg valid]

/-! ## The branches -/

theorem parseIndexChecked_eq (symbol : Text) (underscore : Nat) :
    parseIndexChecked symbol underscore = .ok (parseIndex symbol underscore) := by
  unfold parseIndexChecked parseIndex
  rw [substr_of_le (Nat.zero_le _), checked_ok_bind, List.drop_zero, apply_ite Except.ok]

theorem parsePairChecked_eq (symbol base last : Text) :
    parsePairChecked symbol base [base, last] = .ok (parsePair symbol base last) := by
  unfold parsePairChecked parsePair
  rw [show element [base, last] 1 = .ok last from rfl, checked_ok_bind]
  by_cases perpetual : last = "PERPETUAL".toList
  · rw [if_pos perpetual, if_pos perpetual]
  · rw [if_neg perpetual, if_neg perpetual, checked_ok_bind, parseExpiryChecked_eq,
      checked_ok_bind]
    cases parseExpiry last with
    | none => rfl
    | some expiry => rfl

theorem parseOptionChecked_eq (symbol base expiry strike right : Text) :
    parseOptionChecked symbol base [base, expiry, strike, right] =
      .ok (parseOption symbol base expiry strike right) := by
  unfold parseOptionChecked parseOption rightFromName
  rw [show element [base, expiry, strike, right] 1 = .ok expiry from rfl, checked_ok_bind,
    parseExpiryChecked_eq, checked_ok_bind,
    show element [base, expiry, strike, right] 2 = .ok strike from rfl, checked_ok_bind,
    show element [base, expiry, strike, right] 3 = .ok right from rfl]
  cases parseExpiry expiry with
  | none => rfl
  | some nanos =>
  cases parseNumber fromCharsDouble strike with
  | none => rfl
  | some number =>
      simp only [checked_ok_bind]
      by_cases notPositive : (!ExtendedRational.lt (.finite 0) number) = true
      · rw [if_pos notPositive, if_pos notPositive]
      rw [if_neg notPositive, if_neg notPositive]
      by_cases isCall : right = "C".toList
      · rw [if_pos isCall, if_pos isCall]
        rfl
      rw [if_neg isCall, if_neg isCall]
      by_cases isPut : right = "P".toList
      · rw [if_pos isPut, if_pos isPut]
        rfl
      · rw [if_neg isPut, if_neg isPut]
        rfl

/-! ## The whole of `parse_symbol` -/

/-- For every text `parse_symbol` ends, without a fault, with its key or without one. -/
theorem parseSymbolChecked_eq_ok {passes : Nat} {symbol : Text}
    (enough : symbol.count '-' < passes) :
    parseSymbolChecked passes symbol = .ok (parseSymbol symbol) := by
  unfold parseSymbolChecked parseSymbol
  by_cases empty : symbol = []
  · rw [if_pos empty, if_pos empty]
  rw [if_neg empty, if_neg empty]
  cases find symbol '_' 0 with
  | some underscore => exact parseIndexChecked_eq symbol underscore
  | none =>
      simp only
      rw [splitLoop_eq_ok enough, checked_ok_bind]
      match split symbol '-' with
      | [] => rfl
      | [_] => rfl
      | [base, last] =>
          change (if base = [] then .ok none else parsePairChecked symbol base [base, last]) =
            Except.ok (if base = [] then none else parsePair symbol base last)
          rw [parsePairChecked_eq, apply_ite Except.ok]
      | [_, _, _] => rfl
      | [base, expiry, strike, right] =>
          change (if base = [] then .ok none
              else parseOptionChecked symbol base [base, expiry, strike, right]) =
            Except.ok (if base = [] then none else parseOption symbol base expiry strike right)
          rw [parseOptionChecked_eq, apply_ite Except.ok]
      | _ :: _ :: _ :: _ :: _ :: more =>
          rw [if_pos (by simp)]

/-- A date that does not exist, between numbers as large as the digits allow. -/
theorem parseSymbolChecked_of_no_date :
    parseSymbolChecked 4 "BTC-99FEB99-1e308-C".toList = .ok none := by
  rw [parseSymbolChecked_eq_ok (by decide), parseSymbol_of_no_underscore (by decide) (by decide)]
  decide +kernel

end QuantGateway.MarketData
