import EdgeFleet.Proofs.Holdings
import EdgeFleet.Proofs.Lending
import EdgeFleet.Proofs.Requests
/-!
# When ports run out

While every port is accounted for, a tunnel is refused a port exactly if it is idle and as many tunnels are open as
there are ports (`answers_of_run`). A tunnel that ends gives its port back, so the next one finds a port then. A port
that was stranded is missing to all others, as many as are open (`refused_past_stranded_port`).
-/

namespace EdgeFleet

namespace TunnelBoard

variable {b b' : TunnelBoard} {id : EnvironmentId} {t : Tunnel} {now : Instant} {port : UInt16}

/-- Whether as many tunnels are open as there are ports. -/
def IsFull (b : TunnelBoard) : Prop := b.openTunnels.size = b.pool.range.size

instance (b : TunnelBoard) : Decidable b.IsFull := inferInstanceAs (Decidable (_ = _))

theorem Accounted.isFull_iff (h : b.Accounted) : b.IsFull ↔ b.pool.free = [] := by
  have hcount := h.free_add_open
  rw [IsFull, ← List.length_eq_zero_iff]
  omega

/-- The tunnel that a step takes up holds what the pool lends, and shows the status of its environment. -/
theorem Accounted.refers (h : b.Accounted) (ht : b.Refers now id t) :
    t.Sound ∧ b.pool.port? id = t.port ∧ b.status id = t.phase.status := by
  rcases ht with ht | ⟨hn, -, rfl⟩
  · exact ⟨h.tunnel ht, h.port?_eq ht, status_of_tunnel? ht⟩
  · exact ⟨Tunnel.sound_fresh now, by rw [h.held, hn]; rfl, status_of_none hn⟩

/-- There is no port for a tunnel exactly if it is idle and every port is taken by one that is not. -/
theorem Accounted.reserve?_eq_none_iff (h : b.Accounted) (ht : b.Refers now id t) :
    b.reserve? id t = none ↔ b.status id = .idle ∧ b.IsFull := by
  obtain ⟨hsound, hport, hstatus⟩ := h.refers ht
  cases hp : t.port with
  | some port =>
    have hphase := hsound.port.1 (by rw [hp]; rfl)
    rw [reserve?_of_port hp, hstatus]
    refine iff_of_false nofun (fun hi => ?_)
    cases hph : t.phase with
    | idle => exact hphase hph
    | _ => rw [hph] at hi; cases hi.1
  | none =>
    have hphase : t.phase = .idle := by
      by_contra hne
      have hsome := hsound.port.2 hne
      rw [hp] at hsome
      cases hsome
    rw [reserve?, hp, Option.map_eq_none_iff, PortPool.lend_eq_none_iff, h.isFull_iff, hport, hstatus, hphase]
    exact and_congr_left (fun _ => iff_of_true hp rfl)

end TunnelBoard

namespace Coordinator

open Attempt

variable {issuer : Issuer} {now : Instant} {id i : EnvironmentId} {call : Call} {s : Coordinator} {port : UInt16}

/-! ## How requests are answered -/

/-- Whether both look-ups of a call find its environment. -/
structure Finds (s : Coordinator) (id : EnvironmentId) : Prop where
  first : s.sees id = true
  second : (s.looked id).sees id = true

/-- How an environment that asks for its tunnel, or opens it, is to be answered: it is refused if its tunnel is idle
and every port is taken by one that is not. -/
def due (s : Coordinator) (id : EnvironmentId) : Outcome TunnelError Unit :=
  if s.board.status id = .idle ∧ s.board.IsFull then .refused (.noFreePort s.board.pool.range) else .done ()

theorem due_of_none {t : Tunnel} (h : s.board.Accounted) (ht : s.board.Refers now id t)
    (hr : s.board.reserve? id t = none) : s.due id = .refused (.noFreePort s.board.pool.range) :=
  if_pos ((h.reserve?_eq_none_iff ht).1 hr)

theorem due_of_some {t : Tunnel} {r : UInt16 × TunnelBoard} (h : s.board.Accounted) (ht : s.board.Refers now id t)
    (hr : s.board.reserve? id t = some r) : s.due id = .done () := by
  refine if_neg (fun hfull => ?_)
  rw [(h.reserve?_eq_none_iff ht).2 hfull] at hr
  cases hr

theorem fst_run_require (h : s.board.Accounted) (hf : s.Finds id) (hc : ((require issuer now id).run s).1 ≠ .crashed) :
    ((require issuer now id).run s).1 = s.due id := by
  have hr := requiring issuer now id s
  generalize (require issuer now id).run s = r at hr hc
  cases hr with
  | unknown hs => exact absurd (hs.symm.trans hf.first) nofun
  | unread => exact absurd rfl hc
  | standing _ ht hp =>
    refine (if_neg (fun hidle => ?_)).symm
    rw [TunnelBoard.status_of_tunnel? ht, hp] at hidle
    cases hidle.1
  | exhausted _ ht _ hr => exact (due_of_none h ht hr).symm
  | cutOff => exact absurd rfl hc
  | forgotten _ _ _ _ _ hs => exact absurd (hs.symm.trans hf.second) nofun
  | asked _ ht _ hr => exact (due_of_some h ht hr).symm

theorem fst_run_activate (h : s.board.Accounted) (hf : s.Finds id) (hc : ((activate now id).run s).1 ≠ .crashed) :
    ((activate now id).run s).1 = s.due id := by
  have hr := activating now id s
  generalize (activate now id).run s = r at hr hc
  cases hr with
  | unknown hs => exact absurd (hs.symm.trans hf.first) nofun
  | unread => exact absurd rfl hc
  | exhausted _ _ ht hr => exact (due_of_none h ht hr).symm
  | forgotten _ _ _ _ hs => exact absurd (hs.symm.trans hf.second) nofun
  | opened _ _ ht hr => exact (due_of_some h ht hr).symm

theorem activate_ne_crashed (s : Coordinator) (id : EnvironmentId) (hc : now.isReadable = true) :
    ((activate now id).run s).1 ≠ .crashed := by
  have hr := activating now id s
  generalize (activate now id).run s = r at hr
  cases hr with
  | unread _ hc' => exact absurd (hc'.symm.trans hc) nofun
  | _ => exact nofun

/-- How requests of an environment, and openings of its tunnel, are answered at a clock. -/
structure Answers (issuer : Issuer) (s : Coordinator) (id : EnvironmentId) (now : Instant) : Prop where
  require : ((require issuer now id).run s).1 ≠ .crashed → ((require issuer now id).run s).1 = s.due id
  activate : ((activate now id).run s).1 ≠ .crashed → ((activate now id).run s).1 = s.due id
  /-- A request is cut off only where the clock cannot be read or the calendar ends before the validity of the
  credentials. -/
  requires : now.isReadable = true → (now.plus? issuer.validity).isSome = true →
    ((Coordinator.require issuer now id).run s).1 ≠ .crashed
  activates : now.isReadable = true → ((Coordinator.activate now id).run s).1 ≠ .crashed

theorem answers_of_finds (h : s.board.Accounted) (hf : s.Finds id) (now : Instant) : Answers issuer s id now where
  require := fst_run_require h hf
  activate := fst_run_activate h hf
  requires := require_ne_crashed issuer now s id
  activates := activate_ne_crashed s id

/-! ## Tunnels that end -/

/-- Whether a call ends the tunnel of an environment: it was asked for or open, and is so no more. -/
structure Ends (issuer : Issuer) (s : Coordinator) (now : Instant) (call : Call) (id : EnvironmentId) : Prop where
  before : s.board.status id ≠ .idle
  after : ((call.step issuer now).run s).2.board.status id = .idle

/-- A call that ends a tunnel is about its environment, or about none. -/
theorem Ends.subject (h : Ends issuer s now call id) (hi : call.subject? = some i) : i = id := by
  by_contra hne
  have hagree : TunnelBoard.AgreeBut i s.board ((call.step issuer now).run s).2.board := agreeBut_step hi
  apply h.before
  rw [← h.after]
  unfold TunnelBoard.status
  rw [hagree.tunnel (Ne.symm hne)]

theorem Ends.exists_port (h : Ends issuer s now call id) (hacc : s.board.Accounted) :
    ∃ port, (s.board.tunnel? id).bind Tunnel.port = some port := by
  obtain ⟨t, ht, hphase⟩ := TunnelBoard.status_ne_idle_iff.1 h.before
  rw [ht]
  exact Option.isSome_iff_exists.1 ((hacc.tunnel ht).port.2 hphase)

/-- Only an idle tunnel has its port stranded, so a call that ends one strands none. -/
theorem Ends.not_strands (h : Ends issuer s now call id) (hacc : s.board.Accounted) : ¬ call.Strands issuer now s := by
  rintro ⟨i, hasks, hnone, -⟩
  obtain ⟨port, hport⟩ := h.exists_port hacc
  rw [h.subject (Call.subject?_of_asks? hasks), hport] at hnone
  cases hnone

/-- A call about no environment lends nobody a port. -/
theorem port?_of_subject?_eq_none (h : call.subject? = none)
    (hp : ((call.step issuer now).run s).2.board.pool.port? i = some port) : s.board.pool.port? i = some port := by
  have hacting := acting issuer now call s
  generalize ((call.step issuer now).run s).2.board = b at hacting hp
  cases hacting with
  | rests | sets => exact hp
  | sweeps =>
    rw [TunnelBoard.port?_sweep] at hp
    split at hp
    · cases hp
    · exact hp
  | _ => cases h

/-- The port of a tunnel that ends can be lent again. -/
theorem Ends.isFree (h : Ends issuer s now call id) (hacc : s.board.Accounted)
    (hport : (s.board.tunnel? id).bind Tunnel.port = some port) :
    ((call.step issuer now).run s).2.board.pool.isFree port = true := by
  have hchanges := changes_step issuer now call s
  have hacc' := hacc.changes (h.not_strands hacc) hchanges
  have hlent : s.board.pool.port? id = some port := (hacc.held id).trans hport
  refine PortPool.isFree_iff.2 ⟨?_, fun i hi => ?_⟩
  · rw [hchanges.range]
    exact hacc.pool.inRange hlent
  · by_cases hid : i = id
    · -- An idle tunnel holds no port.
      subst hid
      rw [hacc'.held] at hi
      obtain ⟨u, hu, hup⟩ := Option.bind_eq_some_iff.1 hi
      have hphase := (hacc'.tunnel hu).port.1 (by rw [hup]; rfl)
      exact TunnelBoard.status_ne_idle_iff.2 ⟨u, hu, hphase⟩ h.after
    · -- No other environment is lent a port by the call, and none held this one before.
      have hbefore : s.board.pool.port? i = some port := by
        cases hsubject : call.subject? with
        | none => exact port?_of_subject?_eq_none hsubject hi
        | some j =>
          obtain rfl := h.subject hsubject
          rwa [(agreeBut_step hsubject).port hid] at hi
      exact hid (hacc.pool.injective hbefore hlent)

theorem Ends.due_eq (h : Ends issuer s now call id) (hacc : s.board.Accounted) (i : EnvironmentId) :
    ((call.step issuer now).run s).2.due i = .done () := by
  have hacc' := hacc.changes (h.not_strands hacc) (changes_step issuer now call s)
  obtain ⟨port, hport⟩ := h.exists_port hacc
  refine if_neg (fun hfull => ?_)
  have hnil := hacc'.isFull_iff.1 hfull.2
  obtain ⟨i, hi⟩ := PortPool.free_eq_nil_iff.1 hnil port (PortPool.isFree_iff.1 (h.isFree hacc hport)).1
  exact (PortPool.isFree_iff.1 (h.isFree hacc hport)).2 i hi

/-- In every run that strands no port, from a coordinator without tunnels: an environment that is known all through
its request, or the opening of its tunnel, is refused a port exactly if its tunnel is idle and as many tunnels are
open as there are ports; else it is answered, unless the call is cut off at a clock that cannot be read or before
the end of the calendar. After a call that ends a tunnel its port is free, and nobody is refused. -/
theorem answers_of_run (range : PortRange) (keepAlive : Nat) (census : Census) (jobs : JobBoard)
    {calls : List (Instant × Call)}
    (h : Run (Call.step issuer) (fun s now call => ¬ call.Strands issuer now s)
      ⟨census, .empty range keepAlive, jobs⟩ calls s) :
    s.board.pool.range = range ∧ (∀ id now, s.Finds id → Answers issuer s id now) ∧
    ∀ now call id, Ends issuer s now call id →
      (∃ port, (s.board.tunnel? id).bind Tunnel.port = some port ∧
        ((call.step issuer now).run s).2.board.pool.isFree port = true) ∧
      (∀ i, ((call.step issuer now).run s).2.due i = .done ()) ∧
      ∀ i later, ((call.step issuer now).run s).2.Finds i →
        Answers issuer ((call.step issuer now).run s).2 i later := by
  have hacc := accounted_after h (TunnelBoard.accounted_empty range keepAlive)
  refine ⟨range_after h, fun id now hf => answers_of_finds hacc hf now, fun now call id hends => ?_⟩
  obtain ⟨port, hport⟩ := hends.exists_port hacc
  refine ⟨⟨port, hport, hends.isFree hacc hport⟩, hends.due_eq hacc, fun i later hf => answers_of_finds ?_ hf later⟩
  exact hacc.changes (hends.not_strands hacc) (changes_step issuer now call s)

/-- Who asks for a tunnel while the only port is taken is refused, and answered once that port is given back. -/
theorem answers_of_stopped : ∃ s s',
    Run (Call.step hourly) (fun s now call => ¬ call.Strands hourly now s) (sharing ⟨9000, 9000, by decide⟩)
      [(.ofSeconds 10, .activate ⟨17⟩)] s ∧
    ((require hourly (.ofSeconds 20) ⟨7⟩).run s).1 = .refused (.noFreePort ⟨9000, 9000, by decide⟩) ∧
    ((stop ⟨17⟩).run s).2 = s' ∧ ((require hourly (.ofSeconds 40) ⟨7⟩).run s').1 = .done () := by
  have hactivate : ¬ (Call.activate ⟨17⟩).Strands hourly (.ofSeconds 10) (sharing ⟨9000, 9000, by decide⟩) := by
    rintro ⟨id, hid, -⟩
    cases hid
  have hrun : Run (Call.step hourly) (fun s now call => ¬ call.Strands hourly now s) (sharing ⟨9000, 9000, by decide⟩)
      [(.ofSeconds 10, .activate ⟨17⟩)] _ := Run.nil.snoc _ _ hactivate
  obtain ⟨-, hanswers, hends⟩ := answers_of_run _ _ _ _ hrun
  refine ⟨_, _, hrun, ?_, rfl, ?_⟩
  · rw [(hanswers ⟨7⟩ (.ofSeconds 20) ⟨by decide +kernel, by decide +kernel⟩).require (by decide +kernel)]
    decide +kernel
  · obtain ⟨-, hdue, hlater⟩ := hends (.ofSeconds 30) (.stop ⟨17⟩) ⟨17⟩ ⟨by decide +kernel, by decide +kernel⟩
    have hanswer := hlater ⟨7⟩ (.ofSeconds 40) ⟨by decide +kernel, by decide +kernel⟩
    exact (hanswer.require (hanswer.requires (by decide) (by decide))).trans (hdue ⟨7⟩)

/-- A port that was stranded while the clock stood before the epoch is missing to another environment: no tunnel is
open, and still it is refused. -/
theorem refused_past_stranded_port : ∃ s,
    Run (Call.step hourly) (fun _ now _ => (now.plus? hourly.validity).isSome = true) (sharing ⟨9000, 9000, by decide⟩)
      [(.ofSeconds 10, .activate ⟨7⟩), (.ofSeconds 20, .stop ⟨7⟩), (.ofSeconds (-1), .require ⟨7⟩)] s ∧
    s.board.openTunnels.size = 0 ∧ s.Finds ⟨17⟩ ∧
    ((require hourly (.ofSeconds 30) ⟨17⟩).run s).1 = .refused (.noFreePort ⟨9000, 9000, by decide⟩) :=
  ⟨_, ((Run.nil.snoc _ _ (by decide)).snoc _ _ (by decide)).snoc _ _ (by decide), by decide +kernel,
    ⟨by decide +kernel, by decide +kernel⟩, by decide +kernel⟩

end Coordinator

end EdgeFleet
