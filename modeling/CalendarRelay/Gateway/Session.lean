import CalendarRelay.Gateway.Serve
import CalendarRelay.Gateway.Feed

namespace CalendarRelay.Gateway

/-- What can happen to a server. A request comes with an identifier that no other one has. -/
inductive Event
  | reload (document : Json)
  | request (fresh : String) (request : Request)

/-- What comes of an event. -/
inductive Outcome
  | reloaded (report : Report)
  | refused (fault : Definition.Fault)
  | responded (response : Response)

namespace Server

/-- The server after an event, and what came of it. -/
def handle (server : Server) : Event → Journaled (Server × Outcome)
  | .reload document => do
    match ← server.store.reload document with
    | .ok (store, report) => return ({ server with store }, .reloaded report)
    | .error fault => return (server, .refused fault)
  | .request fresh request => do return (server, .responded (← answer server fresh request))

/-- The server after events in their order, and what came of each. -/
def run (server : Server) : List Event → Journaled (Server × List Outcome)
  | [] => pure (server, [])
  | event :: rest => do
    let (server, outcome) ← server.handle event
    let (server, others) ← server.run rest
    return (server, outcome :: others)

end Server

end CalendarRelay.Gateway
