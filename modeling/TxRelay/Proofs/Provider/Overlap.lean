import TxRelay.Provider

/-!
# Calls That Overlap

The calls of a provider share its active endpoint. Between a request and its
reply other calls go on, and each failure that one of them hears makes the next
endpoint active for all. A `Mix` is a provider with all calls under way, and it
keeps for each call which endpoints failed it and whether anything but the call
itself moved the active endpoint meanwhile.

A call that gives up heard as many failures as there are endpoints. If nothing
else moved the active endpoint, they came from all of them, and so it is for a
call alone. If something did, a call can be led back to an endpoint that failed
it before: two calls on two endpoints are enough to make one of them give up
without having tried the endpoint that serves the other.

## Main definitions

* `Provider.Caller`, `Provider.Mix`: A call under way, and all of them.
* `Provider.Mix.turn`, `play`: What happens to a provider that calls share.
* `Provider.Fair`, `Provider.Spent`: What holds of a call under way, and of one
  that gave up.

## Theorems

* `Provider.Mix.Sound.play`: It holds of every call in every mix.
* `Provider.Mix.exhausted_tries`: Whom a call heard that gave up.
* `Provider.Mix.overlap_misses`: An endpoint can be left out.
-/

namespace TxRelay

namespace Provider

/-- A call under way, with what happened to it. -/
structure Caller where
  /-- The call. -/
  call : Call
  /-- The endpoints that failed it, in order. -/
  failures : List Nat
  /-- Whether anything else moved the active endpoint meanwhile. -/
  pushed : Bool

/-- Something that happens to a provider that calls share. -/
inductive Turn (α : Type) where
  /-- A caller begins a call, unless it has one under way. -/
  | begin (caller : Nat)
  /-- The call of a caller hears from its endpoint. -/
  | hear (caller : Nat) (v : Verdict α)
  /-- The next endpoint is made active. -/
  | failover

/-- A provider that calls share. -/
structure Mix (α : Type) where
  /-- The provider. -/
  provider : Provider
  /-- The calls under way. -/
  callers : Nat → Option Caller
  /-- The calls that ended, and how. -/
  ended : List (Ending α × Caller)

namespace Mix

variable {α : Type}

/-- A provider without calls. -/
def fresh (p : Provider) : Mix α :=
  ⟨p, fun _ => none, []⟩

/-- What becomes of the other callers when the active endpoint moves. -/
def push (callers : Nat → Option Caller) (n : Nat) : Option Caller :=
  (callers n).map fun c => { c with pushed := true }

/-- What happens next. -/
def turn (t : Turn α) (m : Mix α) : Mix α :=
  match t with
  | .begin n =>
    match m.callers n with
    | some _ => m
    | none =>
      { m with
        callers := fun k =>
          if k = n then some ⟨m.provider.begin, [], false⟩ else m.callers k }
  | .hear n v =>
    match m.callers n with
    | none => m
    | some c =>
      let failures :=
        match v with
        | .failed => c.failures ++ [c.call.target]
        | _ => c.failures
      match Provider.hear v c.call m.provider with
      | (.inl ending, p) =>
        ⟨p, fun k => if k = n then none else m.callers k, (ending, { c with failures }) :: m.ended⟩
      | (.inr next, p) =>
        { m with
          provider := p
          callers := fun k =>
            if k = n then some { c with call := next, failures } else push m.callers k }
  | .failover => { m with provider := m.provider.failover, callers := push m.callers }

/-- Several things happen in order. -/
def play (ts : List (Turn α)) (m : Mix α) : Mix α :=
  ts.foldl (fun k t => k.turn t) m

end Mix

/-- The endpoint that comes so many places after another, in a circle. -/
def around (n first i : Nat) : Nat := (first + i) % n

-- A whole circle leaves out nobody.
theorem mem_circle {n first i : Nat} (start : first < n) (here : i < n) :
    i ∈ (List.range n).map (around n first) := by
  rw [List.mem_map]
  by_cases before : first ≤ i
  · refine ⟨i - first, List.mem_range.mpr (by omega), ?_⟩
    rw [around, show first + (i - first) = i by omega, Nat.mod_eq_of_lt here]
  · refine ⟨i + n - first, List.mem_range.mpr (by omega), ?_⟩
    rw [around, show first + (i + n - first) = i + n by omega, Nat.add_mod_right,
      Nat.mod_eq_of_lt here]

/-- A call under way on so many endpoints, one of which is active. -/
structure Fair (n active : Nat) (c : Caller) : Prop where
  /-- Failures and tries add up to one try for each endpoint. -/
  tries : c.failures.length + c.call.left + 1 = n
  /-- A call that nobody pushed goes around the circle. -/
  course : c.pushed = false → c.call.target = active ∧
    ∃ first, first < n ∧ active = around n first c.failures.length ∧
      c.failures = (List.range c.failures.length).map (around n first)

/-- A call that gave up on so many endpoints. -/
structure Spent (n : Nat) (c : Caller) : Prop where
  /-- It heard as many failures as there are endpoints. -/
  tries : c.failures.length = n
  /-- If nobody pushed it, all endpoints failed it. -/
  complete : c.pushed = false → ∀ i, i < n → i ∈ c.failures

namespace Fair

variable {n active : Nat} {c : Caller}

-- A call begins at the active endpoint.
theorem begin (p : Provider) : Fair p.urls.length p.active ⟨p.begin, [], false⟩ := by
  have some := p.active_lt
  refine ⟨?_, fun _ => ⟨rfl, p.active, some, ?_, rfl⟩⟩
  · show 0 + (p.urls.length - 1) + 1 = p.urls.length
    omega
  · exact (Nat.mod_eq_of_lt some).symm

-- Whatever becomes of the active endpoint, tries are counted.
theorem push (fair : Fair n active c) (other : Nat) : Fair n other { c with pushed := true } :=
  ⟨fair.tries, fun calm => absurd calm (Bool.noConfusion)⟩

-- A call that hears of a failure goes on to the next endpoint.
theorem next (fair : Fair n active c) {left : Nat} (more : c.call.left = left + 1) :
    Fair n ((active + 1) % n)
      { c with
        call := ⟨(active + 1) % n, left⟩
        failures := c.failures ++ [c.call.target] } := by
  have tries := fair.tries
  refine ⟨?_, fun calm => ⟨rfl, ?_⟩⟩
  · rw [List.length_append, List.length_singleton]
    show c.failures.length + 1 + left + 1 = n
    omega
  · rcases fair.course calm with ⟨target, first, start, place, circle⟩
    refine ⟨first, start, ?_, ?_⟩
    · rw [List.length_append, List.length_singleton, place, around, around, Nat.mod_add_mod,
        Nat.add_assoc]
    · rw [List.length_append, List.length_singleton, List.range_succ, List.map_append, ← circle,
        List.map_singleton, ← place, target]

-- A call gives up after its last try.
theorem spent (fair : Fair n active c) (last : c.call.left = 0) :
    Spent n { c with failures := c.failures ++ [c.call.target] } := by
  have tries := fair.tries
  have length : (c.failures ++ [c.call.target]).length = n := by
    rw [List.length_append, List.length_singleton]
    omega
  refine ⟨length, fun calm i here => ?_⟩
  rcases fair.course calm with ⟨target, first, start, place, circle⟩
  have all : n = c.failures.length + 1 := by omega
  have whole : (List.range n).map (around n first) = c.failures ++ [c.call.target] := by
    have parts := congrArg (fun k => (List.range k).map (around n first)) all
    rw [parts, List.range_succ, List.map_append, ← circle, List.map_singleton, ← place, target]
  show i ∈ c.failures ++ [c.call.target]
  rw [← whole]
  exact mem_circle start here

end Fair

namespace Mix

variable {α : Type} {m : Mix α}

/-- All calls of a mix are as they should be. -/
structure Sound (n : Nat) (m : Mix α) : Prop where
  /-- The endpoints stay. -/
  urls : m.provider.urls.length = n
  /-- Calls under way. -/
  callers : ∀ k c, m.callers k = some c → Fair n m.provider.active c
  /-- Calls that gave up. -/
  ended : ∀ c, (Ending.exhausted, c) ∈ m.ended → Spent n c

namespace Sound

variable {n : Nat} {m : Mix α}

-- A provider without calls.
theorem fresh (p : Provider) : Sound p.urls.length (fresh p : Mix α) :=
  ⟨rfl, fun _ _ none => (nomatch none), fun _ none => (nomatch none)⟩

-- Callers that were pushed on.
theorem pushed (sound : Sound n m) {other k : Nat} {c : Caller}
    (here : push m.callers k = some c) : Fair n other c := by
  rw [push, Option.map_eq_some_iff] at here
  rcases here with ⟨b, held, rfl⟩
  exact (sound.callers k b held).push other

-- A caller begins.
theorem begin (sound : Sound n m) (k : Nat) : Sound n (m.turn (.begin k)) := by
  rw [turn]
  split
  · exact sound
  · refine ⟨sound.urls, fun j c here => ?_, sound.ended⟩
    dsimp only at here ⊢
    split at here
    · cases here
      exact sound.urls ▸ Fair.begin m.provider
    · exact sound.callers j c here

-- A call hears of anything but a failure, or of its last failure.
theorem leave (sound : Sound n m) {k : Nat} {ending : Ending α} {c : Caller}
    (gone : ending = .exhausted → Spent n c) :
    Sound n ⟨m.provider, fun j => if j = k then none else m.callers j,
      (ending, c) :: m.ended⟩ := by
  refine ⟨sound.urls, fun j b here => ?_, fun b here => ?_⟩
  · dsimp only at here ⊢
    split at here
    · cases here
    · exact sound.callers j b here
  · rcases List.mem_cons.mp here with new | old
    · cases new
      exact gone rfl
    · exact sound.ended b old

-- A call hears from its endpoint.
theorem hear (sound : Sound n m) (k : Nat) (v : Verdict α) : Sound n (m.turn (.hear k v)) := by
  rw [turn]
  split
  · exact sound
  · rename_i c held
    have fair := sound.callers k c held
    cases v with
    | value a => exact sound.leave (fun no => nomatch no)
    | refused r => exact sound.leave (fun no => nomatch no)
    | failed =>
      rcases left : c.call.left with _ | left
      · simp only [Provider.hear, left]
        exact sound.leave (fun _ => fair.spent left)
      · simp only [Provider.hear, left]
        refine ⟨sound.urls, fun j b here => ?_, sound.ended⟩
        dsimp only at here ⊢
        split at here
        · cases here
          rw [failover_active, sound.urls]
          exact fair.next left
        · exact sound.pushed here

-- Whatever happens next.
theorem turn (sound : Sound n m) (t : Turn α) : Sound n (m.turn t) := by
  cases t with
  | begin k => exact sound.begin k
  | hear k v => exact sound.hear k v
  | failover => exact ⟨sound.urls, fun _ _ here => sound.pushed here, sound.ended⟩

end Sound

-- Whatever happens, in order.
theorem Sound.play {n : Nat} (ts : List (Turn α)) :
    ∀ m : Mix α, Sound n m → Sound n (m.play ts) := by
  induction ts with
  | nil => exact fun _ sound => sound
  | cons t ts ih => exact fun m sound => ih (m.turn t) (sound.turn t)

/-- A call that gives up heard as many failures as there are endpoints, whatever
    else happened meanwhile. If nothing else moved the active endpoint, all
    endpoints failed it. -/
theorem exhausted_tries (p : Provider) (ts : List (Turn α)) (c : Caller)
    (gone : (Ending.exhausted, c) ∈ ((fresh p).play ts).ended) :
    c.failures.length = p.urls.length ∧
      (c.pushed = false → ∀ i, i < p.urls.length → i ∈ c.failures) := by
  have spent := (Sound.play ts (fresh p) (Sound.fresh p)).ended c gone
  exact ⟨spent.tries, spent.complete⟩

/-- Two calls on two endpoints, the active one of which is down while the other
    one is up. The first call is moved on twice, once by the failure that the
    second call heard and once by its own, and so it is back at the endpoint
    that is down when it makes its last try. -/
def missing (a : α) : List (Turn α) :=
  [.begin 0, .begin 1, .hear 1 .failed, .hear 1 (.value a), .hear 0 .failed, .hear 0 .failed]

/-- A call can give up without having tried an endpoint that serves another
    call meanwhile. -/
theorem overlap_misses (p : Provider) (two : p.urls.length = 2) (a : α) :
    ((fresh p).play (missing a)).ended =
      [(.exhausted, ⟨⟨p.active, 0⟩, [p.active, p.active], true⟩),
        (.value a, ⟨⟨(p.active + 1) % 2, 0⟩, [p.active], false⟩)] := by
  have back : ((p.active + 1) % 2 + 1) % 2 = p.active := by
    have here := two ▸ p.active_lt
    omega
  simp [missing, play, turn, fresh, push, Provider.begin, Provider.hear, failover, two, back]

end Mix

end Provider

end TxRelay
