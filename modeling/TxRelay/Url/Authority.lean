import TxRelay.Url.Host
import TxRelay.Url.Scheme

/-!
# Authorities

Between two slashes and the path stand a host and, where they are needed,
credentials before it and a port behind it. The last commercial at ends the
credentials. A port that the scheme implies is left out. Credentials and ports
belong to a host, so there are none where the host is empty.

## Main definitions

* `Url.Authority`: The credentials, the host and the port.
* `Url.Authority.parse?`: Reads them.
* `Url.Authority.render`: Writes them.
-/

namespace TxRelay

namespace Url

/-- The credentials, the host and the port. -/
structure Authority where
  /-- The name to present. -/
  user : List Char
  /-- The password to present. -/
  password : List Char
  /-- The host. -/
  host : Host
  /-- The port, unless the scheme implies it. -/
  port : Option Nat
  deriving DecidableEq

namespace Authority

/-- The place of a host without credentials and port. -/
def ofHost (host : Host) : Authority :=
  ⟨[], [], host, none⟩

/-- The host at the front of a text, up to a colon outside of brackets, and
    what follows it. -/
def cutHost (inside : Bool) : List Char → List Char × List Char
  | [] => ([], [])
  | c :: rest =>
    if c == ':' && !inside then ([], c :: rest)
    else
      let more := cutHost (c == '[' || (inside && c != ']')) rest
      (c :: more.1, more.2)

/-- The port behind a host, and what follows it: nothing, or a text that a
    backslash separates. -/
def port? (kind : Kind) : List Char → Option (Option Nat × List Char)
  | [] => some (none, [])
  | _ :: text =>
    let digits := text.takeWhile Char.isDigit
    let rest := text.dropWhile Char.isDigit
    if !(rest.isEmpty || rest.head? == some '\\') then none
    else if digits.isEmpty then some (none, rest)
    else
      match numberIn? 10 digits with
      | some n =>
        if 65535 < n then none
        else some (if kind.usualPort? == some n then none else some n, rest)
      | none => none

/-- Reads credentials, host and port. What follows them is left, and `isLast`
    says whether the URL ends behind the given text. -/
def parse? (kind : Kind) (text : List Char) (isLast : Bool) : Option (Authority × List Char) := do
  let (credentials, place) := cutAtLast '@' text
  -- A lone commercial at is passed over at the very end of a URL only.
  if credentials == some [] && place.isEmpty && !isLast then none
  else
    let (user, password) := cutAt ':' (credentials.getD [])
    let user := encodeWith inUserInfo user
    let password := encodeWith inUserInfo (password.getD [])
    let (hostText, portText) := cutHost false place
    let host ← if kind = .other then Host.parseOpaque? hostText else Host.parseWeb? hostText
    let (port, rest) ← port? kind portText
    if hostText.isEmpty && !(user.isEmpty && password.isEmpty && portText.isEmpty) then none
    else pure (⟨user, password, host, port⟩, rest)

/-- Writes credentials, host and port. -/
def render (a : Authority) : List Char :=
  let password := if a.password.isEmpty then [] else ':' :: a.password
  let credentials := if a.user.isEmpty && a.password.isEmpty then [] else a.user ++ password ++ ['@']
  credentials ++ a.host.render ++ a.port.elim [] fun n => ':' :: Nat.toDigits 10 n

end Authority

end Url

end TxRelay
