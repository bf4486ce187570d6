import QuantGateway.Queue.Accounting
import QuantGateway.Queue.Wakeup
import QuantGateway.Sink.QueueSink
import QuantGateway.Foundation.CharConv
import QuantGateway.Foundation.CivilDate
import QuantGateway.Core.Settings
import QuantGateway.MarketData.DatedName
import QuantGateway.MarketData.CheckedParse
import QuantGateway.MarketData.Perpetual
import QuantGateway.MarketData.IndexName
import QuantGateway.MarketData.TickerCodec
import QuantGateway.SecurityMaster.Fidelity
import QuantGateway.Ingest.Atomicity
import QuantGateway.Ingest.Inheritance
import QuantGateway.Ingest.Stability
import QuantGateway.Core.Conninfo
import QuantGateway.Core.PostgresHost
import QuantGateway.Queue.Shutdown
import QuantGateway.MarketData.AppendOnly
import QuantGateway.MarketData.Subscription
import QuantGateway.MarketData.Reconciliation
import QuantGateway.Core.MissingVariables
import QuantGateway.Core.Secrets
import QuantGateway.Ingest.Rejection
import QuantGateway.Ingest.Idempotence
import QuantGateway.Foundation.Updates
import QuantGateway.Ingest.ChainTables
import QuantGateway.Ingest.ChainRefinement
import QuantGateway.Ingest.ChainHistory
import QuantGateway.Ingest.ChainRegistry
import QuantGateway.Ingest.Restart
import QuantGateway.Ingest.ListedTerms
import QuantGateway.Queue.Drops
import QuantGateway.Sink.Lifecycle
import QuantGateway.Sink.Feed
import QuantGateway.Sink.Rest
import QuantGateway.Core.SharedEnvironment
import QuantGateway.Core.Log
import QuantGateway.Gateway.Deployment
import QuantGateway.Ingest.ListingOrder
import QuantGateway.MarketData.CallHistory
