import QuantGateway.Foundation.CharConv

/-!
Owns the types of the gateway: `OptionRight`, `InstrumentKind`, `InstrumentKey`
and `Tick`.

Does not own how a `Tick` lies in memory.
-/

namespace QuantGateway.MarketData

open QuantGateway.Foundation

/-- `security_master.instrument.instrument_id`; nothing computes with it. -/
abbrev InstrumentId := Int

/-- Nanoseconds since the epoch, in the `int64` of `std::chrono::nanoseconds`. -/
abbrev Nanos := Int64

/-- `kNoValue`. -/
abbrev noValue : Double := .nan

inductive OptionRight where
  | call
  | put
deriving DecidableEq, Repr

inductive InstrumentKind where
  | option
  | future
  | index
  | perpetual
  | unknown
deriving DecidableEq, Repr

/-- `InstrumentKey` with its member initialisers. -/
structure InstrumentKey where
  symbol : Text
  baseCcy : Text
  id : InstrumentId := 0
  kind : InstrumentKind := .unknown
  expiry : Nanos := 0
  strike : Double := noValue
  right : OptionRight := .call
deriving DecidableEq, Repr

/-- One price update, whatever the instrument. -/
structure Tick where
  id : InstrumentId := 0
  exchangeTs : Nanos := 0
  recvTs : Nanos := 0
  price : Double := noValue
deriving DecidableEq, Repr

end QuantGateway.MarketData
