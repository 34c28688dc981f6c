import TxRelay.Api.Service
import TxRelay.Settings.Load

/-!
# The Program

Before anything is served, the settings are loaded, all chains are set up and
the queue is made. If one of these cannot be done the program ends with a text
that says why, and with a status that says that it failed. A program that came
up serves until it is told to stop, and then ends well.

## Main definitions

* `Program.Fault`: Why the program does not come up.
* `Program.Fault.line`: The first line of what it says then.
* `Program.start`: Loads the settings and sets up the chains.
* `Program.setup`: The service that settings ask for.
-/

namespace TxRelay

namespace Program

/-- Why the program does not come up. -/
inductive Fault where
  /-- The settings cannot be used. -/
  | settings (f : SettingsFault)
  /-- The chains cannot be set up. -/
  | chains (f : Failure)
  /-- The queue cannot be made, which takes the program down. -/
  | queue (text : String)

namespace Fault

/-- The text that the program ends with. What is wrong with the chains is left
    out. A program that is taken down begins it with an empty line. -/
def text : Fault → String
  | .settings f => "Error: " ++ f.message
  | .chains _ => "Error: Failed to initialize chains"
  | .queue text => "\n" ++ text

/-- The first line of the text. -/
def line (f : Fault) : String :=
  let first := f.text.toList.takeWhile (· != '\n')
  String.ofList (if first.getLast? == some '\r' then first.dropLast else first)

/-- The status of the program. -/
def status : Fault → UInt8
  | .settings _ | .chains _ => 1
  | .queue _ => 101

end Fault

/-- The status of a program that ended well. -/
def success : UInt8 := 0

/-- Loads the settings and sets up the chains, with a queue that can be made. -/
def start (read : String → Option ByteArray) (environment : String → Option String) :
    Except Fault (Settings × Fleet) :=
  match Settings.load read environment with
  | .error f => .error (.settings f)
  | .ok s =>
    match Fleet.ofSettings s with
    | .error f => .error (.chains f)
    | .ok fleet =>
      match Queue.refusal? s.queue.capacity with
      | some text => .error (.queue text)
      | none => .ok (s, fleet)

/-- The service that settings ask for. -/
def setup {σ : Type} (endpoints : Provider.Endpoints σ) (startedAt : String)
    (idOf : Nat → SubmissionId) (s : Settings) : Api.Setup σ :=
  { endpoints := endpoints
    capacity := s.queue.capacity
    plan := s.queue.plan
    policy := s.sender.policy
    startedAt := startedAt
    idOf := idOf }

end Program

end TxRelay
