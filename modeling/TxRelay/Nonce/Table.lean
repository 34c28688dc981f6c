import TxRelay.Surroundings

/-!
# The Nonce Table

The last nonce handed out for each account. The first nonce of an account is
the one the chain names; every later one is one more than the last, and the
chain is not asked. Nonces have 64 bits: past the largest one an allocation
crashes and the table keeps what it had.

`Table.serve` is one call on the table alone, with the chain's answer given.
It is what the calls of many callers have to come down to, one after another.

## Main definitions

* `Table`: The last nonce of each account.
* `Call`, `Result`: What can be asked of the table and what it gives.
* `Table.serve`: One call, given what the chain would answer.

## Theorems

* `Table.get?_set_self`, `Table.get?_set_other`: What a change leaves alone.
* `Table.get?_erase_self`, `Table.get?_erase_other`: What a removal leaves alone.
-/

namespace TxRelay

namespace Nonce

/-- The last nonce handed out for each account. -/
abbrev Table := List (Address × UInt64)

/-- What a caller asks for. -/
inductive Call where
  /-- The next nonce of an account. -/
  | allocate (account : Address)
  /-- That the account be forgotten. -/
  | reset (account : Address)
  /-- The number of accounts with a nonce. -/
  | count
  deriving DecidableEq

/-- What a caller is given. -/
inductive Result where
  /-- A nonce. -/
  | nonce (n : UInt64)
  /-- A failure of the chain. -/
  | failed (f : Failure)
  /-- Whether the account was in the table. -/
  | removed (present : Bool)
  /-- The number of accounts. -/
  | tracked (n : Nat)
  /-- The call took its task down. -/
  | crashed (text : String)
  deriving DecidableEq

/-- The largest nonce. -/
def last : UInt64 := 18446744073709551615

/-- The wording of the crash past the largest nonce. -/
def overflowText : String := "attempt to add with overflow"

namespace Table

/-- The last nonce of an account. -/
def get? (account : Address) (t : Table) : Option UInt64 :=
  List.lookup account t

/-- Notes the last nonce of an account. -/
def set (account : Address) (n : UInt64) : Table → Table
  | [] => [(account, n)]
  | (a, m) :: rest => if account = a then (a, n) :: rest else (a, m) :: set account n rest

/-- Forgets an account. -/
def erase (account : Address) : Table → Table
  | [] => []
  | (a, m) :: rest => if account = a then erase account rest else (a, m) :: erase account rest

/-- The nonce after the last one, and the table with it. -/
def advance (account : Address) (n : UInt64) (t : Table) : Result × Table :=
  if n = last then (.crashed overflowText, t) else (.nonce (n + 1), t.set account (n + 1))

/-- What the chain's answer makes of an account that is not in the table. -/
def seed (account : Address) (t : Table) : Outcome UInt64 → Result × Table
  | .value n => (.nonce n, t.set account n)
  | .failure f => (.failed f, t)
  | .crash text => (.crashed text, t)

/-- One call on the table alone. `answer` is what the chain says if it has to
    be asked. -/
def serve (call : Call) (answer : Outcome UInt64) (t : Table) : Result × Table :=
  match call with
  | .allocate account =>
    match t.get? account with
    | some n => t.advance account n
    | none => t.seed account answer
  | .reset account => (.removed (t.get? account).isSome, t.erase account)
  | .count => (.tracked t.length, t)

/-- The nonce noted for an account is the one found. -/
theorem get?_set_self (account : Address) (n : UInt64) (t : Table) :
    (t.set account n).get? account = some n := by
  induction t with
  | nil => exact List.lookup_cons_self
  | cons entry rest ih =>
    obtain ⟨a, m⟩ := entry
    by_cases h : account = a
    · simp only [set, h, if_true, get?, List.lookup_cons_self]
    · have hb : (account == a) = false := beq_false_of_ne h
      simp only [set, if_neg h, get?, List.lookup_cons, hb]
      exact ih

/-- Noting a nonce leaves the other accounts alone. -/
theorem get?_set_other {account other : Address} (h : other ≠ account) (n : UInt64) (t : Table) :
    (t.set account n).get? other = t.get? other := by
  induction t with
  | nil =>
    have hb : (other == account) = false := beq_false_of_ne h
    simp only [set, get?, List.lookup_cons, hb]
  | cons entry rest ih =>
    obtain ⟨a, m⟩ := entry
    by_cases ha : account = a
    · subst ha
      have hb : (other == account) = false := beq_false_of_ne h
      simp only [set, if_true, get?, List.lookup_cons, hb]
    · simp only [set, if_neg ha, get?, List.lookup_cons]
      by_cases ho : other = a
      · simp only [ho, beq_self_eq_true]
      · have hb : (other == a) = false := beq_false_of_ne ho
        simp only [hb]
        exact ih

/-- A forgotten account is not found. -/
theorem get?_erase_self (account : Address) (t : Table) :
    (t.erase account).get? account = none := by
  induction t with
  | nil => rfl
  | cons entry rest ih =>
    obtain ⟨a, m⟩ := entry
    by_cases h : account = a
    · simp only [erase, h, if_true]
      rw [h] at ih
      exact ih
    · have hb : (account == a) = false := beq_false_of_ne h
      simp only [erase, if_neg h, get?, List.lookup_cons, hb]
      exact ih

/-- Forgetting an account leaves the others alone. -/
theorem get?_erase_other {account other : Address} (h : other ≠ account) (t : Table) :
    (t.erase account).get? other = t.get? other := by
  induction t with
  | nil => rfl
  | cons entry rest ih =>
    obtain ⟨a, m⟩ := entry
    by_cases ha : account = a
    · subst ha
      have hb : (other == account) = false := beq_false_of_ne h
      simp only [erase, if_true, get?, List.lookup_cons, hb]
      exact ih
    · simp only [erase, if_neg ha, get?, List.lookup_cons]
      by_cases ho : other = a
      · simp only [ho, beq_self_eq_true]
      · have hb : (other == a) = false := beq_false_of_ne ho
        simp only [hb]
        exact ih

end Table

/-- What a result leaves behind in the metrics. -/
def Result.record (origin : NonceOrigin) (m : Metrics) : Result → Metrics
  | .nonce _ => m.recordAllocated origin.label
  | .failed _ => m.recordQueryFailure
  | _ => m

end Nonce

end TxRelay
