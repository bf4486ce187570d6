import QuantGateway.Ingest.ReferenceIngest

/-!
Owns the abstract chain: the instruments of the venue in the order they were first
listed, without ids, and the updates a run makes of it. An update sets the tick size
and the terms of one symbol; only a new symbol gets the type.

Which updates a run makes, and how it fails, is a function of the responses of the
exchange alone. Does not own how the tables store the chain
(`Ingest.ChainRefinement`).
-/

namespace QuantGateway.Ingest

open QuantGateway.Foundation
open QuantGateway.SecurityMaster

/-- A row of `option` without its id. -/
structure OptionTerms where
  optionType : Text
  strike : Numeric
  expirationTimestamp : Option Timestamp
  contractSize : Option Int
  creationTimestamp : Option Timestamp
deriving DecidableEq, Repr

/-- A row of `future` without its id. -/
structure FutureTerms where
  settlementPeriod : Text
  expirationTimestamp : Option Timestamp
  contractSize : Option Int
  creationTimestamp : Option Timestamp
deriving DecidableEq, Repr

/-- What a row of a subtype table says of its instrument. -/
inductive Terms where
  | option (terms : OptionTerms)
  | future (terms : FutureTerms)
  | currency
deriving DecidableEq, Repr

def Terms.table : Terms → SubtypeTable
  | .option _ => .option
  | .future _ => .future
  | .currency => .currencies

/-- One instrument of the chain. -/
structure ChainEntry where
  symbol : Text
  instrumentType : Text
  tickSize : Numeric
  option : Option OptionTerms
  future : Option FutureTerms
  currency : Bool
deriving DecidableEq, Repr

def ChainEntry.attach (entry : ChainEntry) : Terms → ChainEntry
  | .option terms => { entry with option := some terms }
  | .future terms => { entry with future := some terms }
  | .currency => { entry with currency := true }

abbrev Chain := List ChainEntry

/-- What one upsert writes. -/
structure Update where
  symbol : Text
  tickSize : Numeric
  terms : Terms
deriving DecidableEq, Repr

namespace Chain

/-- Set the tick size of a symbol, or list it. -/
def place (chain : Chain) (symbol : Text) (tickSize : Numeric) (instrumentType : Text) : Chain :=
  if ∃ entry ∈ chain, entry.symbol = symbol then
    chain.map fun entry =>
      if entry.symbol = symbol then { entry with tickSize := tickSize } else entry
  else chain ++ [⟨symbol, instrumentType, tickSize, none, none, false⟩]

/-- Set the terms of a symbol. -/
def attach (chain : Chain) (symbol : Text) (terms : Terms) : Chain :=
  chain.map fun entry => if entry.symbol = symbol then entry.attach terms else entry

def apply (chain : Chain) (update : Update) : Chain :=
  (chain.place update.symbol update.tickSize update.terms.table.instrumentType).attach
    update.symbol update.terms

end Chain

/-! ## The updates of a run -/

/-- The terms an option statement writes. -/
def OptionContract.terms (contract : OptionContract) (contractSize : Option Int) :
    Except Failure OptionTerms := do
  let strike ← numericColumn "strike".toList contract.strike
  let contractSize ← intColumn "contract_size".toList contractSize
  let optionType ← checkedColumn "option_type".toList optionTypes.contains contract.optionType
  return ⟨optionType, strike, contract.expirationTimestamp, contractSize,
    contract.creationTimestamp⟩

/-- The terms a future statement writes. -/
def FutureContract.terms (contract : FutureContract) (contractSize : Option Int) :
    Except Failure FutureTerms := do
  let contractSize ← intColumn "contract_size".toList contractSize
  let settlementPeriod ←
    checkedColumn "settlement_period".toList (· ≠ perpetualPeriod) contract.settlementPeriod
  return ⟨settlementPeriod, contract.expirationTimestamp, contractSize,
    contract.creationTimestamp⟩

/-- The update of a contract, whose columns are checked in the order of the
statements. -/
def contractUpdate (symbol : Option Text) (tickSize : Numeric) (table : SubtypeTable)
    (contractSize : Option Numeric) (terms : Option Int → Except Failure Terms) :
    Except Failure Update := do
  let (name, size) ← instrumentColumns symbol tickSize table.instrumentType
  let narrowed ← asInt contractSize
  let written ← terms narrowed
  return ⟨name, size, written⟩

def OptionContract.update (contract : OptionContract) : Except Failure Update :=
  contractUpdate contract.venueSymbol contract.tickSize .option contract.contractSize
    fun contractSize => (contract.terms contractSize).map Terms.option

def FutureContract.update (contract : FutureContract) : Except Failure Update :=
  if contract.isPerpetual then .error (.perpetualNotIngested contract.venueSymbol)
  else
    contractUpdate contract.venueSymbol contract.tickSize .future contract.contractSize
      fun contractSize => (contract.terms contractSize).map Terms.future

/-- `btc_usd` with its placeholder tick size. -/
def currencyUpdate : Update := ⟨btcUsdSymbol, btcUsdPlaceholderTickSize, .currency⟩

/-- The updates of a run: those of the options, the dated futures and the index, or
the first failure on the way. -/
def Responses.updates (responses : Responses) : Except Failure (List Update) := do
  let rawOptions ← responses.options.get
  let contracts ← rawOptions.mapM OptionContract.fromApi
  let options ← contracts.mapM OptionContract.update
  let rawFutures ← responses.futures.get
  let allFutures ← rawFutures.mapM FutureContract.fromApi
  let futures ← (allFutures.filter fun future => !future.isPerpetual).mapM FutureContract.update
  return options ++ futures ++ [currencyUpdate]

/-- How a run ends and the chain it leaves; a failed run leaves it as it was. -/
def Chain.ingest (responses : Responses) (chain : Chain) : Except Failure Unit × Chain :=
  match responses.updates with
  | .ok updates => (.ok (), updates.foldl Chain.apply chain)
  | .error failure => (.error failure, chain)

end QuantGateway.Ingest
