import EdgeFleet.Proofs.Accounting
/-!
# Steps and the environments beside

A step on the tunnel of one environment leaves all others as they are. Two boards `AgreeBut` for an
environment when they differ at most in the tunnel and the port of that one; every call about an
environment leads to a board that agrees so with the one before.
-/

namespace EdgeFleet

namespace TunnelBoard

variable {b b' b'' : TunnelBoard} {id : EnvironmentId} {t : Tunnel} {port : UInt16}

/-- Whether two boards differ at most in what they keep for one environment, and in how often tunnels
were activated. -/
structure AgreeBut (id : EnvironmentId) (b b' : TunnelBoard) : Prop where
  range : b'.pool.range = b.pool.range
  keepAlive : b'.keepAlive = b.keepAlive
  tunnel : ∀ {i}, i ≠ id → b'.tunnel? i = b.tunnel? i
  port : ∀ {i}, i ≠ id → b'.pool.port? i = b.pool.port? i

namespace AgreeBut

theorem refl (id : EnvironmentId) (b : TunnelBoard) : AgreeBut id b b := ⟨rfl, rfl, fun _ => rfl, fun _ => rfl⟩

theorem trans (h : AgreeBut id b b') (h' : AgreeBut id b' b'') : AgreeBut id b b'' :=
  ⟨h'.range.trans h.range, h'.keepAlive.trans h.keepAlive, fun hi => (h'.tunnel hi).trans (h.tunnel hi),
    fun hi => (h'.port hi).trans (h.port hi)⟩

/-! ## Writes for one environment -/

theorem keep (b : TunnelBoard) (id : EnvironmentId) (t : Tunnel) : AgreeBut id b (b.keep id t) :=
  ⟨rfl, rfl, fun hi => (b.tunnel?_keep id _ t).trans (if_neg hi), fun _ => rfl⟩

theorem reserve (hr : b.reserve? id t = some (port, b')) : AgreeBut id b b' := by
  cases reserved hr with
  | held | lent => exact refl id b
  | lends => exact ⟨rfl, rfl, fun _ => rfl, fun hi => Table.get?_insert_of_ne b.pool.lent port hi⟩

theorem close (b : TunnelBoard) (id : EnvironmentId) : AgreeBut id b (b.close id) := by
  refine ⟨b.range_close id, ?_, fun hi => ?_, fun hi => ?_⟩
  · unfold TunnelBoard.close
    cases b.tunnel? id <;> rfl
  · rw [tunnel?_close, if_neg hi]
  · rw [port?_close, if_neg (fun h => hi h.1)]

theorem drop (b : TunnelBoard) (id : EnvironmentId) : AgreeBut id b (b.drop id) := by
  refine ⟨b.range_drop id, ?_, fun hi => ?_, fun hi => ?_⟩
  · unfold TunnelBoard.drop
    cases b.tunnel? id <;> rfl
  · rw [tunnel?_drop, if_neg hi]
  · rw [port?_drop, if_neg (fun h => hi h.1)]

theorem count (id : EnvironmentId) (b : TunnelBoard) (n : Nat) : AgreeBut id b { b with activations := n } :=
  ⟨rfl, rfl, fun _ => rfl, fun _ => rfl⟩

/-! ## The environment taken away -/

/-- What two boards do not agree on is gone once the environment gives its port back. -/
theorem takeBack_eq (h : AgreeBut id b b') : b'.pool.takeBack id = b.pool.takeBack id := by
  refine PortPool.ext_port? h.range (fun i => ?_)
  rw [PortPool.port?_takeBack, PortPool.port?_takeBack]
  split
  · rfl
  · exact h.port ‹_›

/-- What two boards do not agree on is gone once the tunnel is dropped. -/
theorem tunnels_drop (h : AgreeBut id b b') (hnone : b.tunnel? id = none) : (b'.drop id).tunnels = b.tunnels := by
  refine Table.ext_get? (fun i => (b'.tunnel?_drop id i).trans ?_)
  split
  · rename_i hi
    rw [hi]
    exact hnone.symm
  · exact h.tunnel ‹_›

end AgreeBut

/-- The board without what is kept for an environment, be it a tunnel or a port that is lent to it. -/
def without (b : TunnelBoard) (id : EnvironmentId) : TunnelBoard :=
  { b with tunnels := b.tunnels.erase id, pool := b.pool.takeBack id }

/-- Dropping a tunnel that was kept with a port leaves neither of them. -/
theorem drop_keep (hp : t.port = some port) : (b.keep id t).drop id = b.without id := by
  have hk : (b.keep id t).tunnel? id = some t := b.tunnel?_keep_self id t
  simp only [drop, hk, poolWithout, hp, Option.isSome_some, if_true]
  simp only [keep, without, Table.erase_insert]

end TunnelBoard

namespace Coordinator

open Attempt
open TunnelBoard (AgreeBut)

variable {issuer : Issuer} {now : Instant} {id : EnvironmentId} {s : Coordinator}

/-! ## Calls about one environment -/

theorem agreeBut_require (issuer : Issuer) (now : Instant) (id : EnvironmentId) (s : Coordinator) :
    AgreeBut id s.board ((require issuer now id).run s).2.board := by
  have hr := requiring issuer now id s
  generalize (require issuer now id).run s = r at hr
  cases hr with
  | unknown | unread | standing => exact .refl id s.board
  | exhausted => exact .keep s.board id _
  | cutOff _ _ _ hr => exact (AgreeBut.reserve hr).trans (.keep _ id _)
  | forgotten _ _ _ hr => exact ((AgreeBut.reserve hr).trans (.keep _ id _)).trans (.drop _ id)
  | asked _ _ _ hr => exact (AgreeBut.reserve hr).trans (.keep _ id _)

theorem agreeBut_activate (now : Instant) (id : EnvironmentId) (s : Coordinator) :
    AgreeBut id s.board ((activate now id).run s).2.board := by
  have hr := activating now id s
  generalize (activate now id).run s = r at hr
  cases hr with
  | unknown | unread => exact .refl id s.board
  | exhausted => exact .keep s.board id _
  | forgotten _ _ _ hr => exact ((AgreeBut.reserve hr).trans (.keep _ id _)).trans (.drop _ id)
  | opened _ _ _ hr => exact ((AgreeBut.reserve hr).trans (.keep _ id _)).trans (.count id _ _)

theorem agreeBut_keepAlive (now : Instant) (id : EnvironmentId) (seconds : Nat) (s : Coordinator) :
    AgreeBut id s.board ((keepAlive now id seconds).run s).2.board := by
  have hr := extending now id seconds s
  generalize (keepAlive now id seconds).run s = r at hr
  cases hr with
  | unknown | inactive | unread => exact .refl id s.board
  | extended => exact .keep s.board id _

/-- A call about one environment leaves all others as they are. -/
theorem agreeBut_step {call : Call} (h : call.subject? = some id) :
    AgreeBut id s.board ((call.step issuer now).run s).2.board := by
  have hacting := acting issuer now call s
  generalize ((call.step issuer now).run s).2.board = b at hacting
  cases hacting with
  | rests => exact .refl id s.board
  | requires =>
    cases h
    exact agreeBut_require issuer now id s
  | awaits =>
    cases h
    exact agreeBut_require issuer now id (s.looked id)
  | activates =>
    cases h
    exact agreeBut_activate now id s
  | prolongs _ seconds =>
    cases h
    exact agreeBut_keepAlive now id seconds s
  | stops =>
    cases h
    exact .close s.board id
  | drops =>
    cases h
    exact .drop s.board id
  | sweeps hcall => cases hcall.symm.trans h
  | sets => cases h

end Coordinator

end EdgeFleet
