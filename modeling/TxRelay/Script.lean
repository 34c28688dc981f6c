import TxRelay.Surroundings

/-!
# Scripted Chains

Chains whose answers are written down beforehand. A script is a list of
replies that are used one after another; the last one repeats. Accounts and
hashes may have scripts of their own and otherwise share a common one. Such
chains are as general as a single run needs: whatever chains answer in a run
can be written down as a script.

## Main definitions

* `Script.next`: The next reply of a script.
* `ScriptBook`: A common script and scripts for some keys.
* `ScriptedChains`: Scripts for all operations.
-/

namespace TxRelay

/-- Replies to be used one after another. -/
abbrev Script (α : Type) := List (Reply α)

namespace Script

/-- The next reply, and what is left. The last reply repeats; a script without
    replies fails. -/
def next {α : Type} : Script α → Reply α × Script α
  | [] => (.after 0 (.failure (.internal "no reply scripted")), [])
  | [r] => (r, [r])
  | r :: rest => (r, rest)

end Script

/-- A common script and scripts for some keys. -/
structure ScriptBook (κ α : Type) where
  /-- The script for keys without one of their own. -/
  common : Script α
  /-- The scripts of some keys. -/
  own : List (κ × Script α)

namespace ScriptBook

variable {κ α : Type} [DecidableEq κ]

/-- Uses up a reply of a key's own script, if it has one. -/
def nextOwn (key : κ) : List (κ × Script α) → Option (Reply α × List (κ × Script α))
  | [] => none
  | (k, script) :: rest =>
    if k = key then some (script.next.1, (k, script.next.2) :: rest)
    else (nextOwn key rest).map fun r => (r.1, (k, script) :: r.2)

/-- The next reply for a key. -/
def next (key : κ) (b : ScriptBook κ α) : Reply α × ScriptBook κ α :=
  match nextOwn key b.own with
  | some r => (r.1, { b with own := r.2 })
  | none => (b.common.next.1, { b with common := b.common.next.2 })

end ScriptBook

/-- Scripts for all operations on chains. -/
structure ScriptedChains where
  /-- Nonces, by account. -/
  nonces : ScriptBook Address UInt64
  /-- Lookups, by hash. -/
  lookups : ScriptBook Hash Bool
  /-- Broadcasts. -/
  broadcasts : Script Hash

namespace ScriptedChains

/-- Asks for a nonce. -/
def nonceSource : NonceSource ScriptedChains := fun account s =>
  let r := s.nonces.next account
  (r.1, { s with nonces := r.2 })

/-- Looks a transaction up. -/
def lookup : Lookup ScriptedChains := fun _ hash s =>
  let r := s.lookups.next hash
  (r.1, { s with lookups := r.2 })

/-- Hands over a transaction. -/
def broadcast : Broadcaster ScriptedChains := fun _ _ s =>
  let r := s.broadcasts.next
  (r.1, { s with broadcasts := r.2 })

end ScriptedChains

end TxRelay
