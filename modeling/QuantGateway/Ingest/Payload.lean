import QuantGateway.Foundation.Program
import QuantGateway.SecurityMaster.Schema

/-!
Owns the payloads of `public/get_instruments` and their parsing into
`OptionContract` and `FutureContract`, with every exception the parsing raises.

A member of a payload is absent, null or a value of the type Deribit documents
for it. Does not own members of other JSON types, nor the field `raw`, which
nothing reads.
-/

namespace QuantGateway.Ingest

open QuantGateway.Foundation
open QuantGateway.Foundation.ExtendedRational
open QuantGateway.SecurityMaster

/-- Everything that can make an ingest run raise. -/
inductive Failure where
  /-- `httpx.HTTPStatusError` -/
  | httpStatus
  /-- `DeribitAPIError` -/
  | deribitApi
  | keyError (member : Text)
  /-- `decimal.InvalidOperation`: `Decimal("None")` -/
  | invalidDecimal
  | timestampOutOfRange
  | perpetualNotIngested (symbol : Option Text)
  | nonIntegralContractSize (value : Numeric)
  | nanContractSize
  | infiniteContractSize
  | unknownVenue (code : Text)
  | notNullViolation (column : Text)
  | checkViolation (column : Text)
  | uniqueViolation (table : Text)
  | foreignKeyViolation (table : Text)
  | numericValueOutOfRange (column : Text)
deriving DecidableEq, Repr

/-! ## Members of a payload -/

/-- A member of a JSON object. -/
inductive Member (A : Type) where
  | absent
  | null
  | value (content : A)
deriving DecidableEq, Repr

variable {A : Type}

/-- `payload[name]`. -/
def Member.required (name : Text) : Member A → Except Failure (Option A)
  | .absent => .error (.keyError name)
  | .null => .ok none
  | .value content => .ok (some content)

/-- `payload.get(name)`. -/
def Member.get : Member A → Option A
  | .absent => none
  | .null => none
  | .value content => some content

/-- A JSON number: an `int`, or a `float` by the decimal number `str` shows. -/
inductive JsonNumber where
  | integer (value : Int)
  | float (shown : ExtendedRational)
deriving DecidableEq, Repr

/-- `Decimal(str(value))`. -/
def JsonNumber.decimal : JsonNumber → Numeric
  | .integer value => .finite value
  | .float shown => shown

/-- `value / 1000`, a division in binary64. -/
def JsonNumber.perThousand : JsonNumber → Double
  | .integer value => ofRat (value / 1000)
  | .float shown =>
      match shown.toDouble with
      | .finite value => ofRat (value / 1000)
      | other => other

/-- `_decimal`. -/
def decimal : Option JsonNumber → Except Failure Numeric
  | none => .error .invalidDecimal
  | some number => .ok number.decimal

/-- `_decimal_or_none`. -/
def decimalOrNone (number : Option JsonNumber) : Option Numeric :=
  number.map JsonNumber.decimal

/-- The microseconds of a fraction of a second, rounded half to even. -/
def microsecondsOf (fraction : ℚ) : Int :=
  match ofRat (fraction * 10 ^ 6) with
  | .finite microseconds => roundHalfEven microseconds
  | _ => 0

/-- `datetime.fromtimestamp(seconds, tz=UTC)` for the years 1 to 9999. -/
def fromTimestamp : Double → Except Failure Timestamp
  | .finite seconds =>
      let whole := truncate seconds
      let microseconds := whole * 10 ^ 6 + microsecondsOf (seconds - whole)
      if -62135596800 * 10 ^ 6 ≤ microseconds ∧ microseconds < 253402300800 * 10 ^ 6 then
        .ok (.instant microseconds)
      else .error .timestampOutOfRange
  | _ => .error .timestampOutOfRange

/-- `_ms_to_datetime`. -/
def msToDatetime : Option JsonNumber → Except Failure (Option Timestamp)
  | none => .ok none
  | some number => (fromTimestamp number.perThousand).map some

/-! ## Options -/

structure OptionPayload where
  instrumentName : Member Text
  instrumentId : Member Int
  baseCurrency : Member Text
  quoteCurrency : Member Text
  counterCurrency : Member Text
  settlementCurrency : Member Text
  priceIndex : Member Text
  tickSize : Member JsonNumber
  contractSize : Member JsonNumber
  minTradeAmount : Member JsonNumber
  expirationTimestamp : Member JsonNumber
  creationTimestamp : Member JsonNumber
  isActive : Member Bool
  optionType : Member Text
  strike : Member JsonNumber
deriving DecidableEq, Repr

/-- `OptionContract`; a null in a member it requires is kept as `none`. -/
structure OptionContract where
  venueSymbol : Option Text
  venueInstrumentId : Option Int
  baseCurrency : Option Text
  quoteCurrency : Option Text
  counterCurrency : Option Text
  settlementCurrency : Option Text
  priceIndex : Option Text
  tickSize : Numeric
  contractSize : Option Numeric
  minTradeAmount : Option Numeric
  expirationTimestamp : Option Timestamp
  creationTimestamp : Option Timestamp
  isActive : Option Bool
  optionType : Option Text
  strike : Numeric
deriving DecidableEq, Repr

/-- `OptionContract.from_api`, in the order of its keyword arguments. -/
def OptionContract.fromApi (payload : OptionPayload) : Except Failure OptionContract := do
  let venueSymbol ← payload.instrumentName.required "instrument_name".toList
  let venueInstrumentId ← payload.instrumentId.required "instrument_id".toList
  let baseCurrency ← payload.baseCurrency.required "base_currency".toList
  let quoteCurrency ← payload.quoteCurrency.required "quote_currency".toList
  let settlementCurrency ← payload.settlementCurrency.required "settlement_currency".toList
  let tickSize ← decimal (← payload.tickSize.required "tick_size".toList)
  let expirationTimestamp ← msToDatetime payload.expirationTimestamp.get
  let creationTimestamp ← msToDatetime payload.creationTimestamp.get
  let isActive ← payload.isActive.required "is_active".toList
  let optionType ← payload.optionType.required "option_type".toList
  let strike ← decimal (← payload.strike.required "strike".toList)
  return {
    venueSymbol := venueSymbol
    venueInstrumentId := venueInstrumentId
    baseCurrency := baseCurrency
    quoteCurrency := quoteCurrency
    counterCurrency := payload.counterCurrency.get
    settlementCurrency := settlementCurrency
    priceIndex := payload.priceIndex.get
    tickSize := tickSize
    contractSize := decimalOrNone payload.contractSize.get
    minTradeAmount := decimalOrNone payload.minTradeAmount.get
    expirationTimestamp := expirationTimestamp
    creationTimestamp := creationTimestamp
    isActive := isActive
    optionType := optionType
    strike := strike }

/-! ## Futures -/

structure FuturePayload where
  instrumentName : Member Text
  instrumentId : Member Int
  baseCurrency : Member Text
  quoteCurrency : Member Text
  counterCurrency : Member Text
  settlementCurrency : Member Text
  priceIndex : Member Text
  tickSize : Member JsonNumber
  contractSize : Member JsonNumber
  minTradeAmount : Member JsonNumber
  settlementPeriod : Member Text
  expirationTimestamp : Member JsonNumber
  creationTimestamp : Member JsonNumber
  isActive : Member Bool
deriving DecidableEq, Repr

structure FutureContract where
  venueSymbol : Option Text
  venueInstrumentId : Option Int
  baseCurrency : Option Text
  quoteCurrency : Option Text
  counterCurrency : Option Text
  settlementCurrency : Option Text
  priceIndex : Option Text
  tickSize : Numeric
  contractSize : Option Numeric
  minTradeAmount : Option Numeric
  settlementPeriod : Option Text
  expirationTimestamp : Option Timestamp
  creationTimestamp : Option Timestamp
  isActive : Option Bool
deriving DecidableEq, Repr

/-- `FutureContract.from_api`, in the order of its keyword arguments. -/
def FutureContract.fromApi (payload : FuturePayload) : Except Failure FutureContract := do
  let venueSymbol ← payload.instrumentName.required "instrument_name".toList
  let venueInstrumentId ← payload.instrumentId.required "instrument_id".toList
  let baseCurrency ← payload.baseCurrency.required "base_currency".toList
  let quoteCurrency ← payload.quoteCurrency.required "quote_currency".toList
  let settlementCurrency ← payload.settlementCurrency.required "settlement_currency".toList
  let tickSize ← decimal (← payload.tickSize.required "tick_size".toList)
  let settlementPeriod ← payload.settlementPeriod.required "settlement_period".toList
  let expirationTimestamp ← msToDatetime payload.expirationTimestamp.get
  let creationTimestamp ← msToDatetime payload.creationTimestamp.get
  let isActive ← payload.isActive.required "is_active".toList
  return {
    venueSymbol := venueSymbol
    venueInstrumentId := venueInstrumentId
    baseCurrency := baseCurrency
    quoteCurrency := quoteCurrency
    counterCurrency := payload.counterCurrency.get
    settlementCurrency := settlementCurrency
    priceIndex := payload.priceIndex.get
    tickSize := tickSize
    contractSize := decimalOrNone payload.contractSize.get
    minTradeAmount := decimalOrNone payload.minTradeAmount.get
    settlementPeriod := settlementPeriod
    expirationTimestamp := expirationTimestamp
    creationTimestamp := creationTimestamp
    isActive := isActive }

/-- `FutureContract.is_perpetual`. -/
def FutureContract.isPerpetual (contract : FutureContract) : Bool :=
  contract.settlementPeriod = some perpetualPeriod

/-! ## What parsing keeps -/

/-- A member that was required is the contract's, with null as `none`. -/
theorem Member.required_ok {member : Member A} {name : Text} {value : Option A}
    (read : member.required name = .ok value) : value = member.get := by
  cases member with
  | absent => cases read
  | null =>
      cases read
      rfl
  | value content =>
      cases read
      rfl

theorem OptionContract.fromApi_venueSymbol {payload : OptionPayload} {contract : OptionContract}
    (parsed : fromApi payload = .ok contract) :
    contract.venueSymbol = payload.instrumentName.get := by
  unfold fromApi at parsed
  obtain ⟨venueSymbol, read, parsed⟩ := except_bind_ok parsed
  repeat
    obtain ⟨_, _, parsed⟩ := except_bind_ok parsed
  cases parsed
  exact Member.required_ok read

theorem FutureContract.fromApi_fields {payload : FuturePayload} {contract : FutureContract}
    (parsed : fromApi payload = .ok contract) :
    contract.venueSymbol = payload.instrumentName.get ∧
      contract.settlementPeriod = payload.settlementPeriod.get := by
  unfold fromApi at parsed
  obtain ⟨venueSymbol, read, parsed⟩ := except_bind_ok parsed
  obtain ⟨_, _, parsed⟩ := except_bind_ok parsed
  obtain ⟨_, _, parsed⟩ := except_bind_ok parsed
  obtain ⟨_, _, parsed⟩ := except_bind_ok parsed
  obtain ⟨_, _, parsed⟩ := except_bind_ok parsed
  obtain ⟨_, _, parsed⟩ := except_bind_ok parsed
  obtain ⟨_, _, parsed⟩ := except_bind_ok parsed
  obtain ⟨settlementPeriod, periodRead, parsed⟩ := except_bind_ok parsed
  repeat
    obtain ⟨_, _, parsed⟩ := except_bind_ok parsed
  cases parsed
  exact ⟨Member.required_ok read, Member.required_ok periodRead⟩

end QuantGateway.Ingest
