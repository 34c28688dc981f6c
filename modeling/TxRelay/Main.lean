import TxRelay.Api.Command
import TxRelay.Json.Parser
import TxRelay.Program

/-!
# The Command Line

The program as it is run. It takes no arguments; what it needs to know stands
in its settings. Requests come in on standard input, one to a line, and are
answered on standard output, one to a line; the end of the input tells the
program to stop. Time stands still between requests except for submissions,
which are answered when the queue answers them. There is no way out to the
chains from here, so every endpoint is out of reach.

## Main definitions

* `TxRelay.Main.requestOf?`, `TxRelay.Main.textOf`: A request and an answer as
  lines.
* `main`: The program.
-/

namespace TxRelay

namespace Main

/-- The text in a field. -/
def textField? (name : String) (v : Json.Value) : Option String :=
  match v.field? name with
  | some (.str s) => some s
  | _ => none

/-- The request on a line. -/
def requestOf? (line : String) : Option Api.Request := do
  let v ← Json.Value.parse? line
  let method ← textField? "method" v
  let path ← textField? "path" v
  let body := (textField? "body" v).getD ""
  pure ⟨method, path, if body.isEmpty then none else some "application/json", body⟩

/-- The line of an answer. -/
def textOf (a : Api.Answer) : String :=
  (Json.Value.obj [("status", .nat a.status), ("body", a.body.getD .null)]).render

/-- No endpoint can be reached. -/
def outOfReach : Provider.Endpoints Unit := fun _ _ u => (.unreadable, u)

/-- The identifier of a submission: its number. -/
def idOf (ticket : Nat) : SubmissionId :=
  .ofListPadded 16 ((List.range 16).reverse.map fun k => (ticket / Nat.pow 256 k % 256).toUInt8)

/-- How long a submission is waited for, in milliseconds. -/
def patience : Nat := 1000000000

/-- Takes the request on a line, and gives the line that answers it. -/
def respond (c : Api.Setup Unit) (line : String) (s : Api.Service Unit) : String × Api.Service Unit :=
  match requestOf? line with
  | none => (textOf (.bare 400), s)
  | some r =>
    match s.handle c r with
    | (.now a, t) => (textOf a, t)
    | (.crash _, t) => (textOf (.bare 500), t)
    | (.later ticket, t) =>
      let answered (u : Queue.State (Network Unit)) : Bool :=
        (Api.Service.told? ticket u.events).isSome
      let queue := t.queue.runUntil c.queue answered (t.queue.now + patience)
      let t := { t with queue := queue }
      match t.answer? c ticket with
      | some a => (textOf a.2, t)
      | none => (textOf (.bare 504), t)

/-- Answers lines until there are no more. -/
partial def serve (c : Api.Setup Unit) (input output : IO.FS.Stream) (s : Api.Service Unit) :
    IO Unit := do
  let line ← input.getLine
  if line.isEmpty then return
  let r := respond c line s
  output.putStrLn r.1
  output.flush
  serve c input output r.2

/-- The content of a file, if it can be read. -/
def contentOf? (path : String) : IO (Option ByteArray) := do
  try
    let content ← IO.FS.readBinFile path
    pure (some content)
  catch _ => pure none

end Main

end TxRelay

section

open TxRelay

/-- The program. -/
def main : IO UInt32 := do
  let place ← IO.getEnv Settings.pathVariable
  let path := place.getD Settings.usualPath
  let content ← Main.contentOf? path
  let names := match content.bind fun b => String.fromUTF8? b with
    | some text => variablesOf text
    | none => []
  let values ← names.mapM fun name => do pure (name, ← IO.getEnv name)
  let environment (name : String) : Option String :=
    if name = Settings.pathVariable then place
    else (values.find? fun v => v.1 == name).bind (·.2)
  match Program.start (fun p => if p = path then content else none) environment with
  | .error f =>
    IO.eprintln f.text
    pure f.status.toUInt32
  | .ok (settings, fleet) =>
    let c := Program.setup Main.outOfReach "" Main.idOf settings
    let s := (Api.Service.fresh fleet () []).perform c (.queue .start)
    Main.serve c (← IO.getStdin) (← IO.getStdout) s
    pure Program.success.toUInt32

end
