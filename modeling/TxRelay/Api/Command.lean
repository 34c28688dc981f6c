import TxRelay.Api.Service
import TxRelay.Queue.Command

/-!
# What Happens to a Service

A service takes requests, and whatever happens to a queue happens to the queue
behind it. A list of commands is a whole run of the service.

## Main definitions

* `Api.Command`: One thing that is done.
* `Api.Service.perform`: Does it.
* `Api.Service.run`: Does several things in order.
-/

namespace TxRelay

namespace Api

/-- One thing that is done to a service. -/
inductive Command where
  /-- A request comes in. -/
  | request (r : Request)
  /-- The chains are asked whether they can be reached. -/
  | probe
  /-- Something happens to the queue. -/
  | queue (c : Queue.Command)

namespace Service

variable {σ : Type}

/-- Does one thing, and lets everything happen that can happen then. -/
def perform (c : Setup σ) (command : Command) (s : Service σ) : Service σ :=
  match command with
  | .request r => (s.handle c r).2
  | .probe => (s.probe c).2
  | .queue command => { s with queue := s.queue.perform c.queue command }

/-- Does several things in order. -/
def run (c : Setup σ) (commands : List Command) (s : Service σ) : Service σ :=
  commands.foldl (fun t command => t.perform c command) s

end Service

end Api

end TxRelay
