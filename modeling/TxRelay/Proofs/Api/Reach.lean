import TxRelay.Proofs.Api.Move
import TxRelay.Proofs.Fleet.Routing
import TxRelay.Proofs.Queue.Touch

/-!
# What Reaches the Chains

A service reaches its chains only by the operations of their providers: it looks
transactions up and hands them over for the queue, asks for nonces and probes for its
callers. So a run of a service is, as far as its chains are concerned, a list of deeds,
and what every deed keeps is kept by every run.

## Main definitions

* `Network.Used`: Deeds were done with a network, and nothing else.

## Theorems

* `Network.used_on`: A call is a deed.
* `Api.used_step`: What a step of the queue does to the chains.
* `Api.Service.used_play`: What a run does to the chains.
-/

namespace TxRelay

namespace Network

open Provider

variable {σ : Type} (endpoints : Endpoints σ) {n m k : Network σ}

/-- One network is what several deeds leave of another. -/
def Used (n m : Network σ) : Prop :=
  ∃ deeds, m = n.play endpoints deeds

variable {endpoints}

theorem Used.refl (n : Network σ) : Used endpoints n n :=
  ⟨[], rfl⟩

theorem Used.trans (first : Used endpoints n m) (second : Used endpoints m k) :
    Used endpoints n k := by
  obtain ⟨deeds, rfl⟩ := first
  obtain ⟨more, rfl⟩ := second
  exact ⟨deeds ++ more, (play_append endpoints deeds more n).symm⟩

/-- A call of an operation is a deed, whatever is made of its result. -/
theorem used_on {α : Type} (chain : ChainId) (deed : Deed σ) {call : Session σ → α × Session σ}
    (same : ∀ s, (call s).2 = s.perform endpoints deed) (n : Network σ) :
    Used endpoints n (n.on chain call).2 := by
  refine ⟨[(chain, deed)], ?_⟩
  show _ = (n.on chain fun s => ((), s.perform endpoints deed)).2
  unfold Network.on
  cases n.fleet.provider? chain with
  | none => rfl
  | some p => simp only [same]

variable (endpoints)

theorem used_transaction (chain : ChainId) (hash : Hash) (n : Network σ) :
    Used endpoints n (n.transaction endpoints chain hash).2 := by
  rw [snd_transaction]
  exact used_on chain (.transaction hash) (fun _ => rfl) n

theorem used_sendRaw (chain : ChainId) (raw : Bytes) (n : Network σ) :
    Used endpoints n (n.sendRaw endpoints chain raw).2 := by
  rw [snd_sendRaw]
  exact used_on chain (.sendRaw raw) (fun _ => rfl) n

theorem used_pendingCount (chain : ChainId) (account : Address) (n : Network σ) :
    Used endpoints n (n.pendingCount endpoints chain account).2 := by
  rw [snd_pendingCount]
  exact used_on chain (.pendingCount account) (fun _ => rfl) n

theorem used_probeAll (chains : List ChainId) (s : Surroundings (Network σ)) :
    Used endpoints s.world (probeAll endpoints chains s).2.world := by
  induction chains generalizing s with
  | nil => exact .refl _
  | cons chain rest ih => exact (used_on chain .healthy (fun _ => rfl) _).trans (ih _)

end Network

namespace Api

variable {σ : Type} {c : Setup σ} {pace : Pace σ} {s : Service σ}

-- A step of the queue makes a call at most.
theorem used_step {t u : Queue.State (Network σ)} {h : List (Nat × Queue.Happening)}
    (step : Queue.Step (c.paced pace) t h u) :
    Network.Used c.endpoints t.outside.world u.outside.world := by
  cases step.touch with
  | none world acts continues => exact world ▸ .refl _
  | @lookup chain hash world acts continues =>
    exact world ▸ Network.used_transaction c.endpoints chain hash _
  | @attempt n i deadline left run whose world acts stage =>
    exact world ▸ Network.used_sendRaw c.endpoints run.chain run.raw _

namespace Service

theorem used_probe (s : Service σ) :
    Network.Used c.endpoints s.queue.outside.world (s.probe c).2.queue.outside.world :=
  Network.used_probeAll c.endpoints _ _

theorem used_allocate (chain : ChainId) (account : Address) (t : Nonce.Table) (s : Service σ) :
    Network.Used c.endpoints s.queue.outside.world
      (s.allocate c chain account t).2.queue.outside.world := by
  unfold allocate
  dsimp only
  cases t.get? account with
  | some n => exact .refl _
  | none => exact Network.used_pendingCount c.endpoints chain account _

/-- What a move does to the chains. -/
theorem used_move (c : Setup σ) (pace : Pace σ) (m : Move) (s : Service σ) :
    Network.Used c.endpoints s.queue.outside.world (s.move c pace m).queue.outside.world := by
  cases m with
  | probe => exact s.used_probe
  | queue m =>
    unfold move
    by_cases served : m.served = true
    · simp only [served, if_true]
      rcases Queue.Step.of_move (c.paced pace) m s.queue with ⟨same, -⟩ | step
      · rw [same]
        exact .refl _
      · exact used_step step
    · simp only [served]
      exact .refl _
  | request r =>
    unfold move
    cases submits : r.submission? s.fleet with
    | none =>
      rcases take_cases (c := c) submits with same | same | ⟨chain, account, t, same⟩
      · exact same ▸ .refl _
      · exact same ▸ s.used_probe
      · exact same ▸ s.used_allocate chain account t
    | some x =>
      obtain ⟨chain, raw⟩ := x
      simp only [take, submits]
      rw [(Queue.State.frame_enqueue _ _ s.queue).2.2.2.2]
      exact .refl _

/-- What a run does to the chains. -/
theorem used_play (c : Setup σ) (pace : Pace σ) (moves : List Move) (s : Service σ) :
    Network.Used c.endpoints s.queue.outside.world (s.play c pace moves).queue.outside.world := by
  induction moves generalizing s with
  | nil => exact .refl _
  | cons m moves ih => exact (s.used_move c pace m).trans (ih _)

end Service

end Api

end TxRelay
