import QuantGateway.Foundation.CivilDate
import QuantGateway.MarketData.Model
import QuantGateway.MarketData.Split

/-!
Owns `parse_symbol` and the functions of `model.cpp` it is made of.

Does not own the database's view of a symbol (`MarketData.Repository`).
-/

namespace QuantGateway.MarketData

open QuantGateway.Foundation
open QuantGateway.Foundation.CharConv

/-- `kMonths`. -/
def months : List Text :=
  ["JAN".toList, "FEB".toList, "MAR".toList, "APR".toList, "MAY".toList, "JUN".toList,
    "JUL".toList, "AUG".toList, "SEP".toList, "OCT".toList, "NOV".toList, "DEC".toList]

/-- `to_upper` in the C locale: only the letters a to z change. -/
def toUpper (text : Text) : Text :=
  text.map Char.toUpper

/-- `parse_number<T>` over the `from_chars` of its type: the whole text is read. -/
def parseNumber {T : Type} (fromChars : Text → Option (T × Text)) (text : Text) : Option T :=
  match fromChars text with
  | some (value, []) => some value
  | _ => none

def monthFromName (name : Text) : Option Nat :=
  (months.idxOf? name).map (· + 1)

/-- `Nanos{sys_days{date} + kDeribitExpiryHourUtc}`, in the `int64` of the durations. -/
def expiryOf (date : YearMonthDay) : Nanos :=
  (Int64.ofInt date.sysDays * 24 + 8) * 3600000000000

/-- Computed in `int64` or without a bound, the nanoseconds end in the same 64 bits. -/
theorem expiryOf_eq_ofInt (date : YearMonthDay) :
    expiryOf date = Int64.ofInt ((date.sysDays * 24 + 8) * 3600000000000) := by
  unfold expiryOf
  rw [Int64.ofInt_mul, Int64.ofInt_add, Int64.ofInt_mul]
  rfl

def parseExpiry (text : Text) : Option Nanos :=
  if text.length < 6 || 7 < text.length then none
  else
    let dayDigits := text.length - 5
    match parseNumber fromCharsUnsigned (text.take dayDigits),
        monthFromName ((text.drop dayDigits).take 3),
        parseNumber fromCharsUnsigned (text.drop (dayDigits + 3)) with
    | some day, some month, some year =>
        let date : YearMonthDay := ⟨2000 + year, month, day⟩
        if date.ok then some (expiryOf date) else none
    | _, _, _ => none

/-- The branch for a symbol with an underscore. -/
def parseIndex (symbol : Text) (underscore : Nat) : Option InstrumentKey :=
  if underscore = 0 || underscore + 1 = symbol.length then none
  else
    some
      { symbol := symbol
        baseCcy := toUpper (symbol.take underscore)
        kind := .index }

/-- The branch for two parts. -/
def parsePair (symbol base last : Text) : Option InstrumentKey :=
  if last = "PERPETUAL".toList then
    some { symbol := symbol, baseCcy := base, kind := .perpetual }
  else
    (parseExpiry last).map fun expiry =>
      { symbol := symbol, baseCcy := base, kind := .future, expiry := expiry }

/-- The right an option's last part names. -/
def rightFromName (name : Text) : Option OptionRight :=
  if name = "C".toList then some .call
  else if name = "P".toList then some .put
  else none

/-- The branch for four parts. -/
def parseOption (symbol base expiry strike right : Text) : Option InstrumentKey :=
  match parseExpiry expiry, parseNumber fromCharsDouble strike with
  | some expiry, some strike =>
      if !(ExtendedRational.lt (.finite 0) strike) then none
      else
        (rightFromName right).map fun right =>
          { symbol := symbol
            baseCcy := base
            kind := .option
            expiry := expiry
            strike := strike
            right := right }
  | _, _ => none

def parseSymbol (symbol : Text) : Option InstrumentKey :=
  if symbol = [] then none
  else
    match find symbol '_' 0 with
    | some underscore => parseIndex symbol underscore
    | none =>
        match split symbol '-' with
        | [base, last] => if base = [] then none else parsePair symbol base last
        | [base, expiry, strike, right] =>
            if base = [] then none else parseOption symbol base expiry strike right
        | _ => none

/-- The kind `parse_symbol` classifies a symbol as. -/
def parsedKind (symbol : Text) : Option InstrumentKind :=
  (parseSymbol symbol).map InstrumentKey.kind

/-- The symbol takes the underscore branch of `parse_symbol` and passes it. -/
def IndexShaped (symbol : Text) : Prop :=
  ∃ underscore, find symbol '_' 0 = some underscore ∧ underscore ≠ 0 ∧
    underscore + 1 ≠ symbol.length

/-! ## Which branch a symbol takes -/

theorem find_zero (text : Text) (sep : Char) : find text sep 0 = text.idxOf? sep := by
  simp [find]

/-- A symbol without an underscore is classified by its dash-separated parts. -/
theorem parseSymbol_of_no_underscore {symbol : Text} (nonempty : symbol ≠ [])
    (absent : '_' ∉ symbol) :
    parseSymbol symbol =
      match symbol.splitOn '-' with
      | [base, last] => if base = [] then none else parsePair symbol base last
      | [base, expiry, strike, right] =>
          if base = [] then none else parseOption symbol base expiry strike right
      | _ => none := by
  have missing : find symbol '_' 0 = none := by
    rw [find_zero, List.idxOf?_eq_none_iff]
    exact absent
  unfold parseSymbol
  rw [if_neg nonempty, missing, split_eq_splitOn]
  rfl

/-- Everything `parse_symbol` can answer. -/
theorem parseSymbol_cases {symbol : Text} {key : InstrumentKey}
    (parsed : parseSymbol symbol = some key) :
    (∃ underscore, find symbol '_' 0 = some underscore ∧
      parseIndex symbol underscore = some key) ∨
    ('_' ∉ symbol ∧ ∃ base last, symbol.splitOn '-' = [base, last] ∧ base ≠ [] ∧
      parsePair symbol base last = some key) ∨
    ('_' ∉ symbol ∧ ∃ base expiry strike right,
      symbol.splitOn '-' = [base, expiry, strike, right] ∧ base ≠ [] ∧
      parseOption symbol base expiry strike right = some key) := by
  by_cases nonempty : symbol = []
  · simp [parseSymbol, nonempty] at parsed
  by_cases present : '_' ∈ symbol
  · left
    cases found : find symbol '_' 0 with
    | none =>
        rw [find_zero, List.idxOf?_eq_none_iff] at found
        exact absurd present found
    | some underscore =>
        unfold parseSymbol at parsed
        rw [if_neg nonempty, found] at parsed
        exact ⟨underscore, rfl, parsed⟩
  · right
    rw [parseSymbol_of_no_underscore nonempty present] at parsed
    split at parsed
    next base last parts =>
      split at parsed
      next => cases parsed
      next named => exact .inl ⟨present, base, last, parts, named, parsed⟩
    next base expiry strike right parts =>
      split at parsed
      next => cases parsed
      next named => exact .inr ⟨present, base, expiry, strike, right, parts, named, parsed⟩
    next => cases parsed

theorem parseNumber_eq_some {T : Type} {fromChars : Text → Option (T × Text)} {text : Text}
    {value : T} : parseNumber fromChars text = some value ↔ fromChars text = some (value, []) := by
  unfold parseNumber
  constructor
  · intro read
    split at read
    next number whole =>
      cases read
      exact whole
    next => cases read
  · intro whole
    rw [whole]

theorem rightFromName_some {name : Text} {right : OptionRight}
    (named : rightFromName name = some right) : name = "C".toList ∨ name = "P".toList := by
  unfold rightFromName at named
  split at named
  next isCall => exact .inl isCall
  next =>
    split at named
    next isPut => exact .inr isPut
    next => cases named

theorem parseIndex_some {symbol : Text} {underscore : Nat} {key : InstrumentKey}
    (parsed : parseIndex symbol underscore = some key) :
    underscore ≠ 0 ∧ underscore + 1 ≠ symbol.length ∧
      key = { symbol := symbol, baseCcy := toUpper (symbol.take underscore), kind := .index } := by
  unfold parseIndex at parsed
  split at parsed
  next => cases parsed
  next inside =>
    cases parsed
    simpa using inside

theorem parsePair_some {symbol base last : Text} {key : InstrumentKey}
    (parsed : parsePair symbol base last = some key) :
    (last = "PERPETUAL".toList ∧
      key = { symbol := symbol, baseCcy := base, kind := .perpetual }) ∨
    ∃ expiry, parseExpiry last = some expiry ∧
      key = { symbol := symbol, baseCcy := base, kind := .future, expiry := expiry } := by
  unfold parsePair at parsed
  by_cases perpetual : last = "PERPETUAL".toList
  · rw [if_pos perpetual] at parsed
    exact .inl ⟨perpetual, (Option.some.inj parsed).symm⟩
  · rw [if_neg perpetual] at parsed
    obtain ⟨expiry, read, made⟩ := Option.map_eq_some_iff.mp parsed
    exact .inr ⟨expiry, read, made.symm⟩

theorem parseOption_some {symbol base expiry strike right : Text} {key : InstrumentKey}
    (parsed : parseOption symbol base expiry strike right = some key) :
    ∃ nanos number side, parseExpiry expiry = some nanos ∧
      parseNumber fromCharsDouble strike = some number ∧
      ExtendedRational.lt (.finite 0) number = true ∧ rightFromName right = some side ∧
      key =
        { symbol := symbol
          baseCcy := base
          kind := .option
          expiry := nanos
          strike := number
          right := side } := by
  unfold parseOption at parsed
  split at parsed
  next nanos number readExpiry readStrike =>
    split at parsed
    next => cases parsed
    next positive =>
      obtain ⟨side, readRight, made⟩ := Option.map_eq_some_iff.mp parsed
      exact ⟨nanos, number, side, readExpiry, readStrike, by simpa using positive, readRight,
        made.symm⟩
  next => cases parsed

/-- The parsed key carries the symbol itself and no identity. -/
theorem parseSymbol_symbol {symbol : Text} {key : InstrumentKey}
    (parsed : parseSymbol symbol = some key) : key.symbol = symbol ∧ key.id = 0 := by
  rcases parseSymbol_cases parsed with
    ⟨underscore, -, made⟩ | ⟨-, base, last, -, -, made⟩ |
    ⟨-, base, expiry, strike, right, -, -, made⟩
  · obtain ⟨-, -, rfl⟩ := parseIndex_some made
    exact ⟨rfl, rfl⟩
  · rcases parsePair_some made with ⟨-, rfl⟩ | ⟨nanos, -, rfl⟩
    · exact ⟨rfl, rfl⟩
    · exact ⟨rfl, rfl⟩
  · obtain ⟨nanos, number, side, -, -, -, -, rfl⟩ := parseOption_some made
    exact ⟨rfl, rfl⟩

theorem parseSymbol_of_indexShaped {symbol : Text} (shaped : IndexShaped symbol) :
    ∃ key, parseSymbol symbol = some key ∧ key.kind = .index := by
  obtain ⟨underscore, found, notFirst, notLast⟩ := shaped
  have nonempty : symbol ≠ [] := by
    rintro rfl
    simp [find] at found
  have inside : ¬ (underscore = 0 || underscore + 1 = symbol.length) = true := by
    simp [notFirst, notLast]
  refine ⟨{ symbol := symbol, baseCcy := toUpper (symbol.take underscore), kind := .index },
    ?_, rfl⟩
  unfold parseSymbol
  rw [if_neg nonempty, found]
  simp only [parseIndex, if_neg inside]

end QuantGateway.MarketData
