import TxRelay.Provider

/-!
# Scripted Endpoints

Endpoints whose replies are written down beforehand, for each procedure a list
that is used up from the front; the last reply repeats. A procedure nothing is
written down for gets nothing that can be read, and so does every call to an
endpoint that is not there.

## Main definitions

* `ScriptedEndpoint`: An endpoint and its replies.
* `ScriptedEndpoint.ask`: A call to one of several.
-/

namespace TxRelay

/-- An endpoint and its replies. -/
structure ScriptedEndpoint where
  /-- Where it is. -/
  url : Url
  /-- Its replies, by procedure. -/
  replies : List (String × List Rpc.Reply)

namespace ScriptedEndpoint

/-- Uses up the next reply for a procedure. -/
def next (method : String) :
    List (String × List Rpc.Reply) → Rpc.Reply × List (String × List Rpc.Reply)
  | [] => (.unreadable, [])
  | (name, script) :: rest =>
    if name = method then
      match script with
      | [] => (.unreadable, (name, []) :: rest)
      | [r] => (r, (name, [r]) :: rest)
      | r :: more => (r, (name, more) :: rest)
    else
      let r := next method rest
      (r.1, (name, script) :: r.2)

/-- A call to the endpoint at a URL. -/
def ask : Provider.Endpoints (List ScriptedEndpoint) := fun url request endpoints =>
  go url request endpoints
where
  /-- Looks for the endpoint. -/
  go (url : Url) (request : Rpc.Request) :
      List ScriptedEndpoint → Rpc.Reply × List ScriptedEndpoint
    | [] => (.unreadable, [])
    | e :: rest =>
      if e.url = url then
        let r := next request.method e.replies
        (r.1, { e with replies := r.2 } :: rest)
      else
        let r := go url request rest
        (r.1, e :: r.2)

end ScriptedEndpoint

end TxRelay
