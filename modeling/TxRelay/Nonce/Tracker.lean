import TxRelay.Nonce.Table

/-!
# The Nonce Tracker

Many callers share one nonce table behind one lock. The lock is given in the
order of asking and covers the whole table, also while the chain is asked for
the first nonce of an account. Callers who ask for the same new account at the
same time therefore cause one query; callers for other accounts wait as well.

The tracker moves in steps. A step either serves the call that is first in
line, if nobody holds the lock, or ends the query of the caller who does, when
the chain's answer arrives. A caller may leave at any time: one that waits
leaves no trace, one in the middle of its query gives the lock back.

## Main definitions

* `Tracker`: The table, the lock and those who wait for it.
* `Tracker.ask`, `Tracker.withdraw`: A call is made, or given up.
* `Tracker.step?`: The next step up to an instant.
* `Tracker.advanceTo`, `Tracker.awaitUntil`: Runs on the clock.
* `Tracker.Command`, `Tracker.run`: What is done to a tracker, in order.

## Theorems

* `Tracker.step?_falls`: Every step leaves less to do.
-/

namespace TxRelay

namespace Nonce

/-- The caller who holds the lock while the chain is asked. -/
structure Holder where
  /-- Its call. -/
  ticket : Nat
  /-- The account whose nonce the chain is asked for. -/
  account : Address
  /-- The chain's answer. -/
  answer : Answer UInt64

/-- The table, the lock and those who wait for it. -/
structure Tracker (σ : Type) where
  /-- The clock. -/
  now : Nat
  /-- How many calls were made. -/
  asked : Nat
  /-- The last nonce of each account. -/
  table : Table
  /-- Who holds the lock across a query. -/
  holder : Option Holder
  /-- Who waits for the lock, the first in line first. -/
  waiting : List (Nat × Call)
  /-- The calls that ended, the latest first. -/
  results : List (Nat × Nat × Result)
  /-- Chains, metrics and record. -/
  outside : Surroundings σ

namespace Tracker

variable {σ : Type}

/-- A tracker of which nothing was asked yet. -/
def fresh (world : σ) : Tracker σ :=
  { now := 0, asked := 0, table := [], holder := none, waiting := [], results := []
    outside := .fresh world }

/-- Ends a call. -/
def finish (ticket : Nat) (r : Result) (t : Tracker σ) : Tracker σ :=
  { t with results := (t.now, ticket, r) :: t.results }

/-- Serves a call that was given the lock. A call for a new account keeps the
    lock and asks the chain; every other call ends at once. -/
def serve (source : NonceSource σ) (ticket : Nat) (call : Call) (t : Tracker σ) : Tracker σ :=
  match call with
  | .allocate account =>
    match t.table.get? account with
    | some n =>
      let r := t.table.advance account n
      finish ticket r.1
        { t with
          table := r.2
          outside := t.outside.measure fun m => r.1.record .cache m }
    | none =>
      -- The lock is kept until the answer arrives.
      let r := t.outside.call t.now (.query account) (source account)
      { t with holder := some ⟨ticket, account, r.1⟩, outside := r.2 }
  | .reset account =>
    finish ticket (.removed (t.table.get? account).isSome)
      { t with table := t.table.erase account }
  | .count => finish ticket (.tracked t.table.length) t

/-- Ends the query of the caller who holds the lock, and gives the lock back. -/
def release (h : Holder) (answer : Outcome UInt64) (t : Tracker σ) : Tracker σ :=
  let r := t.table.seed h.account answer
  finish h.ticket r.1
    { t with
      holder := none
      table := r.2
      outside := t.outside.measure fun m => r.1.record .chain m }

/-- The next thing that happens not later than an instant, if anything does. -/
def step? (source : NonceSource σ) (limit : Nat) (t : Tracker σ) : Option (Tracker σ) :=
  match t.holder with
  | some h =>
    match h.answer with
    | .arriving instant answer =>
      if instant ≤ limit then some (release h answer { t with now := max t.now instant }) else none
    | .never => none
  | none =>
    match t.waiting with
    | [] => none
    | (ticket, call) :: rest => some (serve source ticket call { t with waiting := rest })

/-- What is left to do: two steps for each caller in line, one for the caller
    who holds the lock. -/
def backlog (t : Tracker σ) : Nat :=
  2 * t.waiting.length + t.holder.elim 0 fun _ => 1

/-- Serving a call needs at most the lock. -/
theorem backlog_serve (source : NonceSource σ) (ticket : Nat) (call : Call) (t : Tracker σ)
    (free : t.holder = none) : (serve source ticket call t).backlog ≤ 2 * t.waiting.length + 1 := by
  cases call with
  | allocate account =>
    simp only [serve]
    split
    · simp only [backlog, finish, free, Option.elim_none]
      omega
    · simp only [backlog, Option.elim_some]
      omega
  | reset account =>
    simp only [serve, backlog, finish, free, Option.elim_none]
    omega
  | count =>
    simp only [serve, backlog, finish, free, Option.elim_none]
    omega

/-- Every step leaves less to do. -/
theorem step?_falls (source : NonceSource σ) (limit : Nat) (t u : Tracker σ)
    (h : step? source limit t = some u) : u.backlog < t.backlog := by
  unfold step? at h
  split at h
  · rename_i held hheld
    split at h
    · split at h
      · rw [← Option.some.inj h]
        simp only [backlog, release, finish, hheld, Option.elim_none, Option.elim_some]
        omega
      · exact absurd h (by simp only [reduceCtorEq, not_false_eq_true])
    · exact absurd h (by simp only [reduceCtorEq, not_false_eq_true])
  · rename_i hfree
    split at h
    · exact absurd h (by simp only [reduceCtorEq, not_false_eq_true])
    · rename_i ticket call rest hwait
      rw [← Option.some.inj h]
      refine Nat.lt_of_le_of_lt (backlog_serve source ticket call _ hfree) ?_
      simp only [backlog, hwait, List.length_cons, hfree, Option.elim_none]
      omega

/-- Runs until nothing is left to do up to an instant. -/
def runTo (source : NonceSource σ) (limit : Nat) (t : Tracker σ) : Tracker σ :=
  iterate (step? source limit) backlog (step?_falls source limit) t

/-- Runs up to an instant and moves the clock there. -/
def advanceTo (source : NonceSource σ) (limit : Nat) (t : Tracker σ) : Tracker σ :=
  let r := t.runTo source limit
  { r with now := max r.now limit }

/-- Lets everything happen that can happen now. -/
def settle (source : NonceSource σ) (t : Tracker σ) : Tracker σ :=
  t.runTo source t.now

/-- Makes a call. Its ticket is the number of calls made before. -/
def ask (source : NonceSource σ) (call : Call) (t : Tracker σ) : Tracker σ :=
  settle source { t with asked := t.asked + 1, waiting := t.waiting ++ [(t.asked, call)] }

/-- Gives a call up. -/
def withdraw (source : NonceSource σ) (ticket : Nat) (t : Tracker σ) : Tracker σ :=
  -- Dropping the holder drops its query, and the table is as it was.
  let holder := t.holder.filter fun h => h.ticket != ticket
  let waiting := t.waiting.filter fun w => w.1 != ticket
  settle source { t with holder := holder, waiting := waiting }

/-- The result of a call that ended, and when. -/
def result? (ticket : Nat) (t : Tracker σ) : Option (Nat × Result) :=
  (t.results.find? fun r => r.2.1 == ticket).map fun r => (r.1, r.2.2)

/-- Whether a call still waits or holds the lock. -/
def isOpen (ticket : Nat) (t : Tracker σ) : Bool :=
  t.holder.any (fun h => h.ticket == ticket) || t.waiting.any fun w => w.1 == ticket

/-- The next step up to an instant, unless the call has ended. -/
def stepUnlessDone? (source : NonceSource σ) (ticket : Nat) (limit : Nat) (t : Tracker σ) :
    Option (Tracker σ) :=
  if t.isOpen ticket then t.step? source limit else none

/-- Runs until a call has ended, and on to the end of that instant. A call
    that has not ended at the given instant is given up. -/
def awaitUntil (source : NonceSource σ) (ticket : Nat) (limit : Nat) (t : Tracker σ) :
    Tracker σ :=
  let r := iterate (stepUnlessDone? source ticket limit) backlog
    (fun a b h => by
      unfold stepUnlessDone? at h
      split at h
      · exact step?_falls source limit a b h
      · exact absurd h (by simp only [reduceCtorEq, not_false_eq_true])) t
  if r.isOpen ticket then withdraw source ticket { r with now := max r.now limit }
  else r.settle source

/-- One thing that is done to a tracker. -/
inductive Command where
  /-- A call is made. -/
  | ask (call : Call)
  /-- A call is given up. -/
  | withdraw (ticket : Nat)
  /-- Time passes. -/
  | advance (span : Nat)

/-- Does one thing, and lets everything happen that can happen then. -/
def perform (source : NonceSource σ) (c : Command) (t : Tracker σ) : Tracker σ :=
  match c with
  | .ask call => t.ask source call
  | .withdraw ticket => t.withdraw source ticket
  | .advance span => t.advanceTo source (t.now + span)

/-- Does several things in order. Such a list is a whole run, with any number
    of callers who come and go at any times. -/
def run (source : NonceSource σ) (commands : List Command) (t : Tracker σ) : Tracker σ :=
  commands.foldl (fun u c => u.perform source c) t

end Tracker

end Nonce

end TxRelay
