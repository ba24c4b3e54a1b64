import EdgeFleet.Proofs.Holdings
import EdgeFleet.Proofs.Lending
import EdgeFleet.Proofs.Separation
/-!
# Tunnels that open again

An idle tunnel remembers the port that it held last, through whatever leaves it idle, and asks for it first when it
leaves idleness. So a tunnel that opens again gets its old port wherever that is free (`reopened_of_run`), whatever
other ports are free too. Only a port that was stranded for its environment meanwhile comes before that one
(`stranded_before_previous`).
-/

namespace EdgeFleet

namespace PortPool

variable {p : PortPool} {id : EnvironmentId} {port : UInt16}

/-- An environment that asks for a free port gets it, unless it has one. -/
theorem fst_of_lend_wanted {r : UInt16 × PortPool} (hf : p.isFree port = true) (h : p.lend id (some port) = some r) :
    r.1 = (p.port? id).getD port := by
  cases hp : p.port? id with
  | some q =>
    rw [lend_of_port? hp] at h
    cases h
    rfl
  | none =>
    rw [lend_of_none hp, choose, Option.filter_some, if_pos hf] at h
    cases h
    rfl

end PortPool

/-- The port that a tunnel holds, or the one that it held last. -/
def Tunnel.lastPort? (t : Tunnel) : Option UInt16 := t.port <|> t.previousPort

theorem Tunnel.lastPort?_of_port {t : Tunnel} {port : UInt16} (h : t.port = some port) : t.lastPort? = some port := by
  rw [lastPort?, h]
  rfl

theorem Tunnel.lastPort?_of_none {t : Tunnel} (h : t.port = none) : t.lastPort? = t.previousPort := by
  rw [lastPort?, h]
  rfl

/-- Closing a tunnel does not change the port that it remembers. -/
@[simp] theorem Tunnel.lastPort?_closed (t : Tunnel) : t.closed.lastPort? = t.lastPort? := rfl

/-- A tunnel without a port is lent the one that it remembers, if that is free and its environment has no other. -/
theorem TunnelBoard.fst_of_reserve?_lastPort? {b b' : TunnelBoard} {id : EnvironmentId} {t : Tunnel} {port q : UInt16}
    (hn : t.port = none) (hlast : t.lastPort? = some port) (hf : b.pool.isFree port = true)
    (hr : b.reserve? id t = some (q, b')) : q = (b.pool.port? id).getD port := by
  rw [Tunnel.lastPort?_of_none hn] at hlast
  rw [reserve?, hn, hlast] at hr
  obtain ⟨r, hl, he⟩ := Option.map_eq_some_iff.1 hr
  cases he
  exact PortPool.fst_of_lend_wanted hf hl

theorem Tunnel.Sound.port_eq_none {t : Tunnel} (h : t.Sound) (hidle : t.phase = .idle) : t.port = none := by
  rw [← Option.not_isSome_iff_eq_none, h.port]
  exact fun hne => hne hidle

namespace Coordinator

open Attempt

variable {issuer : Issuer} {now : Instant} {id : EnvironmentId} {call : Call} {s u : Coordinator} {t v : Tunnel}
  {port : UInt16}

/-! ## While a tunnel is idle -/

/-- A tunnel that is idle after a call remembers the same port as before. -/
theorem lastPort?_step (ht : s.board.tunnel? id = some t)
    (hv : ((call.step issuer now).run s).2.board.tunnel? id = some v) (hidle : v.phase = .idle) :
    v.lastPort? = t.lastPort? := by
  have hfate := fate_step ht issuer now call
  rw [hv] at hfate
  cases hfate with
  | stays => rfl
  | closed => exact t.lastPort?_closed
  | used | asked | opened => cases hidle

/-- Only a call about an environment strands a port for it. -/
theorem stranded_step (hcall : call.subject? = some id → ¬ call.Strands issuer now s)
    (h : ((call.step issuer now).run s).2.board.Stranded id) : s.board.Stranded id := by
  cases hi : call.subject? with
  | some i =>
    by_cases hid : id = i
    · subst hid
      exact (changes_step issuer now call s).stranded (hcall hi) h
    · exact ((agreeBut_step hi).stranded_iff hid).1 h
  | none =>
    refine (changes_step issuer now call s).stranded ?_ h
    rintro ⟨i, hasks, -⟩
    cases hi.symm.trans (Call.subject?_of_asks? hasks)

/-- Whether a call leaves the tunnel of an environment idle without dropping it, and strands no port for it. -/
structure Rests (issuer : Issuer) (id : EnvironmentId) (s : Coordinator) (now : Instant) (call : Call) : Prop where
  idle : ((call.step issuer now).run s).2.board.status id = .idle
  kept : (((call.step issuer now).run s).2.board.tunnel? id).isSome = true
  unstranded : call.subject? = some id → ¬ call.Strands issuer now s

/-- However long a tunnel rests, it remembers its port, and none is stranded for its environment. -/
theorem lastPort?_of_rests (ht : s.board.tunnel? id = some t) (hs : ¬ s.board.Stranded id)
    {rest : List (Instant × Call)} (h : Run (Call.step issuer) (Rests issuer id) s rest u) :
    (∃ v, u.board.tunnel? id = some v ∧ v.lastPort? = t.lastPort?) ∧ ¬ u.board.Stranded id := by
  induction h with
  | nil => exact ⟨⟨t, ht, rfl⟩, hs⟩
  | snoc now call _ hrests ih =>
    obtain ⟨⟨v, hv, hlast⟩, hs⟩ := ih
    obtain ⟨w, hw⟩ := Option.isSome_iff_exists.1 hrests.kept
    have hidle := (TunnelBoard.status_eq_idle_iff hw).1 hrests.idle
    exact ⟨⟨w, hw, (lastPort?_step hv hw hidle).trans hlast⟩, fun hw => hs (stranded_step hrests.unstranded hw)⟩

/-! ## When it opens again -/

/-- An idle tunnel that a call takes out of idleness gets a port that was stranded for its environment, else the one
that it remembers, if that is free. -/
theorem port_of_reopened (hsound : t.Sound) (ht : s.board.tunnel? id = some t) (hidle : s.board.status id = .idle)
    (hlast : t.lastPort? = some port) (hfree : s.board.pool.isFree port = true)
    (hopens : ((call.step issuer now).run s).2.board.status id ≠ .idle) :
    (((call.step issuer now).run s).2.board.tunnel? id).bind Tunnel.port =
      some ((s.board.pool.port? id).getD port) := by
  have hphase := (TunnelBoard.status_eq_idle_iff ht).1 hidle
  have hnone := hsound.port_eq_none hphase
  obtain ⟨v, hv, hvphase⟩ := TunnelBoard.status_ne_idle_iff.1 hopens
  have hfate := fate_step ht issuer now call
  rw [hv] at hfate ⊢
  cases hfate with
  | stays => exact absurd hphase hvphase
  | closed => exact absurd rfl hvphase
  | used _ hp => rw [hphase] at hp; cases hp
  | asked _ _ hr => exact congrArg some (TunnelBoard.fst_of_reserve?_lastPort? hnone hlast hfree hr)
  | opened _ hr => exact congrArg some (TunnelBoard.fst_of_reserve?_lastPort? hnone hlast hfree hr)

/-- In every run from a coordinator without tunnels: once the tunnel of an environment that held a port has become
idle, and as long as calls leave it idle, neither drop it nor strand another port for it, the call that takes it out
of idleness gives it that port back wherever it is free. -/
theorem reopened_of_run (range : PortRange) (keepAlive : Nat) (census : Census) (jobs : JobBoard)
    {calls rest : List (Instant × Call)}
    (h : Run (Call.step issuer) (fun _ _ _ => True) ⟨census, .empty range keepAlive, jobs⟩ calls s)
    (hport : (s.board.tunnel? id).bind Tunnel.port = some port)
    (hrest : Run (Call.step issuer) (Rests issuer id) s rest u) (hidle : u.board.status id = .idle)
    (hfree : u.board.pool.isFree port = true)
    (hopens : ((call.step issuer now).run u).2.board.status id ≠ .idle) :
    (((call.step issuer now).run u).2.board.tunnel? id).bind Tunnel.port = some port ∧
      ((call.step issuer now).run u).2.board.pool.port? id = some port := by
  have hissued := issued_after hrest (issued_after h (TunnelBoard.issued_empty issuer range keepAlive))
  have hbacked := backed_after hrest (backed_after h (TunnelBoard.backed_empty range keepAlive))
  obtain ⟨t, ht, htport⟩ := Option.bind_eq_some_iff.1 hport
  -- Whatever was stranded before is not so while the tunnel holds a port.
  have hstranded : ¬ s.board.Stranded id := fun hstranded => by
    rw [hstranded.1] at hport
    cases hport
  obtain ⟨⟨v, hv, hlast⟩, hstranded⟩ := lastPort?_of_rests ht hstranded hrest
  rw [Tunnel.lastPort?_of_port htport] at hlast
  have hnext := port_of_reopened (hissued.tunnel hv) hv hidle hlast hfree hopens
  have hnone : u.board.pool.port? id = none := by
    by_contra hsome
    refine hstranded ⟨?_, Option.isSome_iff_ne_none.2 hsome⟩
    rw [hv]
    exact (hissued.tunnel hv).port_eq_none ((TunnelBoard.status_eq_idle_iff hv).1 hidle)
  rw [hnone] at hnext
  exact ⟨hnext, (hbacked.changes (changes_step issuer now call u)).lent hnext⟩

/-- A tunnel gets back the port that it was opened with while another environment held its preferred one, though that
one is free by now. -/
theorem reopened_beside_preferred : ∃ s u,
    Run (Call.step hourly) (fun _ _ _ => True) (sharing ⟨9000, 9009, by decide⟩)
      [(.ofSeconds 10, .activate ⟨17⟩), (.ofSeconds 20, .activate ⟨7⟩)] s ∧
    (s.board.tunnel? ⟨7⟩).bind Tunnel.port = some 9000 ∧
    Run (Call.step hourly) (Rests hourly ⟨7⟩) s
      [(.ofSeconds 30, .stop ⟨7⟩), (.ofSeconds 40, .stop ⟨17⟩), (.ofSeconds 50, .keepAlive ⟨7⟩ 600)] u ∧
    u.board.pool.isFree (u.board.pool.preferred ⟨7⟩) = true ∧ u.board.pool.preferred ⟨7⟩ = 9007 ∧
    ((((Call.require ⟨7⟩).step hourly (.ofSeconds 60)).run u).2.board.tunnel? ⟨7⟩).bind Tunnel.port = some 9000 := by
  have hrun : Run (Call.step hourly) (fun _ _ _ => True) (sharing ⟨9000, 9009, by decide⟩)
      [(.ofSeconds 10, .activate ⟨17⟩), (.ofSeconds 20, .activate ⟨7⟩)] _ := (Run.nil.snoc _ _ trivial).snoc _ _ trivial
  have hissues : ∀ now ∈ [Instant.ofSeconds 30, .ofSeconds 40, .ofSeconds 50], hourly.IssuesAt now := by decide
  have hrest : Run (Call.step hourly) (Rests hourly ⟨7⟩)
      (after (Call.step hourly) (sharing ⟨9000, 9009, by decide⟩)
        [(.ofSeconds 10, .activate ⟨17⟩), (.ofSeconds 20, .activate ⟨7⟩)])
      [(.ofSeconds 30, .stop ⟨7⟩), (.ofSeconds 40, .stop ⟨17⟩), (.ofSeconds 50, .keepAlive ⟨7⟩ 600)] _ :=
    ((Run.nil.snoc
      _ _ ⟨by decide +kernel, by decide +kernel, fun _ => Call.not_strands (hissues _ (by decide)) _ _⟩).snoc
      _ _ ⟨by decide +kernel, by decide +kernel, fun _ => Call.not_strands (hissues _ (by decide)) _ _⟩).snoc
      _ _ ⟨by decide +kernel, by decide +kernel, fun _ => Call.not_strands (hissues _ (by decide)) _ _⟩
  refine ⟨_, _, hrun, by decide +kernel, hrest, by decide +kernel, by decide +kernel, ?_⟩
  exact (reopened_of_run _ _ _ _ hrun (by decide +kernel) hrest (by decide +kernel) (by decide +kernel)
    (by decide +kernel)).1

/-- A port that was stranded while the clock stood before the epoch comes back instead of the one that the tunnel held
last, which is free. -/
theorem stranded_before_previous : ∃ s u,
    Run (Call.step hourly) (fun _ now _ => (now.plus? hourly.validity).isSome = true) (sharing ⟨9000, 9009, by decide⟩)
      [(.ofSeconds 10, .activate ⟨7⟩)] s ∧
    (s.board.tunnel? ⟨7⟩).bind Tunnel.port = some 9007 ∧
    Run (Call.step hourly)
      (fun s now call => (now.plus? hourly.validity).isSome = true ∧
        ((call.step hourly now).run s).2.board.status ⟨7⟩ = .idle ∧
        (((call.step hourly now).run s).2.board.tunnel? ⟨7⟩).isSome = true) s
      [(.ofSeconds 20, .stop ⟨7⟩), (.ofSeconds 30, .activate ⟨17⟩), (.ofSeconds (-1), .require ⟨7⟩),
        (.ofSeconds 40, .stop ⟨17⟩)] u ∧
    u.board.pool.isFree 9007 = true ∧
    ((((Call.require ⟨7⟩).step hourly (.ofSeconds 50)).run u).2.board.tunnel? ⟨7⟩).bind Tunnel.port = some 9000 :=
  ⟨_, _, Run.nil.snoc _ _ (by decide), by decide +kernel,
    (((Run.nil.snoc _ _ (by decide +kernel)).snoc _ _ (by decide +kernel)).snoc _ _ (by decide +kernel)).snoc _ _
      (by decide +kernel), by decide +kernel, by decide +kernel⟩

end Coordinator

end EdgeFleet
