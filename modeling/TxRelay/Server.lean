import TxRelay.Api.Answer
import TxRelay.Metrics.Exposition

/-!
# Servers

The program listens at two places: one for callers, and one where the metrics
can be read. A place that cannot be had is a fault of the settings.

The metrics have one page, which can only be read.

## Main definitions

* `Server.metricsUnbound`, `Server.apiUnbound`: A place that cannot be had.
* `Server.metricsPage`: What is answered where the metrics can be read.
-/

namespace TxRelay

namespace Server

/-- Why a place cannot be had that somebody else has. -/
def inUse : String := "Address already in use (os error 98)"

/-- The place for the metrics cannot be had. -/
def metricsUnbound (reason : String) : Failure :=
  .config ("Cannot bind metrics port: " ++ reason)

/-- The place for callers cannot be had. -/
def apiUnbound (address reason : String) : Failure :=
  .config ("Cannot bind API address " ++ address ++ ": " ++ reason)

/-- What is answered where the metrics can be read: a status, and a text where
    there is one. -/
def metricsPage (method path : String) (m : Metrics) : Nat × Option String :=
  let bare := path.toList.takeWhile fun c => c != '?' && c != '#'
  if String.ofList bare = "/metrics" then
    if method = "GET" then (200, some m.exposition)
    else if method = "HEAD" then (200, none)
    else (405, none)
  else (404, none)

end Server

end TxRelay
