import EdgeFleet.Proofs.Expiry
/-!
# What open tunnels hold

A call either leaves a tunnel that is kept, or it uses it, closes it, drops it, asks for it or opens it
(`Fate`). A tunnel holds the port that it got when it left idleness until it is idle again, whatever is called
meanwhile; its credentials are made anew only by a request for it while it is open, and only if they are missing
or expired by then (`held_of_run`).
-/

namespace EdgeFleet

namespace Tunnel

variable {issuer : Issuer} {now : Instant} {id : EnvironmentId} {t : Tunnel} {c : Credentials}

/-- The credentials with which a tunnel is asked for are those that it holds, or new ones if those are missing or
expired. -/
theorem held_or_new_of_credentialsAt? (h : t.credentialsAt? issuer now id = some c) :
    t.credentials = some c ∨
      (∀ d, t.credentials = some d → d.isExpiredAt now = true) ∧ issuer.issue? now id = some c := by
  unfold credentialsAt? at h
  cases hr : now.isReadable with
  | false =>
    rw [hr, if_neg nofun] at h
    cases h
  | true =>
    rw [hr, if_pos rfl] at h
    cases hf : t.hasFreshCredentials now with
    | true =>
      rw [hf, if_pos rfl] at h
      exact .inl h
    | false =>
      rw [hf, if_neg nofun] at h
      refine .inr ⟨fun d hd => ?_, h⟩
      simpa [hasFreshCredentials, hd] using hf

end Tunnel

/-- A tunnel that is not idle is kept. -/
theorem TunnelBoard.status_ne_idle_iff {b : TunnelBoard} {id : EnvironmentId} :
    b.status id ≠ .idle ↔ ∃ t, b.tunnel? id = some t ∧ t.phase ≠ .idle := by
  unfold status
  cases b.tunnel? id with
  | none => simp
  | some t => cases hp : t.phase <;> simp [hp, Phase.status]

theorem TunnelBoard.status_eq_idle_iff {b : TunnelBoard} {id : EnvironmentId} {t : Tunnel}
    (ht : b.tunnel? id = some t) : b.status id = .idle ↔ t.phase = .idle := by
  rw [status_of_tunnel? ht]
  cases t.phase <;> simp [Phase.status]

namespace Coordinator

open Attempt

variable {issuer : Issuer} {now : Instant} {id : EnvironmentId} {call : Call} {s s' : Coordinator} {t : Tunnel}

/-! ## What becomes of a tunnel -/

/-- What becomes of the tunnel `t` of an environment in a call: it is gone, or another one is kept. -/
inductive Fate (issuer : Issuer) (now : Instant) (call : Call) (id : EnvironmentId) (b : TunnelBoard) (t : Tunnel) :
    Option Tunnel → Prop
  | dropped : Fate issuer now call id b t none
  | stays : Fate issuer now call id b t (some t)
  | closed : Fate issuer now call id b t (some t.closed)
  | used {deadline : Instant} (seconds : Nat) (hp : t.phase = .active deadline) :
      Fate issuer now call id b t (some (t.used deadline now seconds))
  /-- Only an idle tunnel is asked for by one who begins to wait for it. -/
  | asked {port : UInt16} {b' : TunnelBoard} {c : Credentials} (hcall : call = .require id ∨ t.phase = .idle)
      (hp : t.phase ≠ .required) (hr : b.reserve? id t = some (port, b'))
      (hc : t.credentialsAt? issuer now id = some c) : Fate issuer now call id b t (some (t.asked port c))
  | opened {port : UInt16} {b' : TunnelBoard} (seconds : Nat) (hr : b.reserve? id t = some (port, b')) :
      Fate issuer now call id b t (some (t.opened now seconds port))

theorem Fate.of_tunnel? {t' : Option Tunnel} (ht : s.board.tunnel? id = some t) (h : t' = s.board.tunnel? id) :
    Fate issuer now call id s.board t t' := by
  rw [h, ht]
  exact .stays

theorem Fate.of_closed {t' : Option Tunnel} (ht : s.board.tunnel? id = some t)
    (h : t' = (s.board.tunnel? id).map Tunnel.closed) : Fate issuer now call id s.board t t' := by
  rw [h, ht]
  exact .closed

/-- The tunnel that a call takes up is the one that is kept. -/
theorem eq_of_refers {u : Tunnel} (ht : s.board.tunnel? id = some t) (h : s.board.Refers now id u) : u = t := by
  rcases h with hu | ⟨hn, -⟩
  · exact Option.some.inj (hu.symm.trans ht)
  · exact absurd (hn.symm.trans ht) nofun

theorem fate_require (ht : s.board.tunnel? id = some t) (hcall : call = .require id ∨ t.phase = .idle) :
    Fate issuer now call id s.board t (((require issuer now id).run s).2.board.tunnel? id) := by
  have hr := requiring issuer now id s
  generalize (require issuer now id).run s = r at hr
  cases hr with
  | unknown | unread | standing => exact .of_tunnel? ht rfl
  | exhausted _ hu =>
    obtain rfl := eq_of_refers ht hu
    exact .of_tunnel? ht ((s.board.tunnel?_keep_self id _).trans ht.symm)
  | @cutOff u port b _ hu =>
    obtain rfl := eq_of_refers ht hu
    exact .of_tunnel? ht ((b.tunnel?_keep_self id u).trans ht.symm)
  | forgotten =>
    rw [board_withBoard, TunnelBoard.tunnel?_drop_self]
    exact .dropped
  | @asked u port b c _ hu hp hr hc =>
    obtain rfl := eq_of_refers ht hu
    rw [board_withBoard, b.tunnel?_keep_self id]
    exact .asked hcall hp hr hc

theorem fate_activate (ht : s.board.tunnel? id = some t) :
    Fate issuer now call id s.board t (((activate now id).run s).2.board.tunnel? id) := by
  have hr := activating now id s
  generalize (activate now id).run s = r at hr
  cases hr with
  | unknown | unread => exact .of_tunnel? ht rfl
  | exhausted _ _ hu =>
    obtain rfl := eq_of_refers ht hu
    exact .of_tunnel? ht ((s.board.tunnel?_keep_self id _).trans ht.symm)
  | forgotten =>
    rw [board_withBoard, TunnelBoard.tunnel?_drop_self]
    exact .dropped
  | @opened u port b _ _ hu hr =>
    obtain rfl := eq_of_refers ht hu
    change Fate issuer now call id s.board u ((b.keep id (u.opened now b.keepAlive port)).tunnel? id)
    rw [b.tunnel?_keep_self id]
    exact .opened b.keepAlive hr

theorem fate_keepAlive (ht : s.board.tunnel? id = some t) (seconds : Nat) :
    Fate issuer now call id s.board t (((keepAlive now id seconds).run s).2.board.tunnel? id) := by
  have hr := extending now id seconds s
  generalize (keepAlive now id seconds).run s = r at hr
  cases hr with
  | unknown | inactive | unread => exact .of_tunnel? ht rfl
  | @extended u deadline _ hu hp =>
    obtain rfl : u = t := Option.some.inj (hu.symm.trans ht)
    rw [board_withBoard, s.board.tunnel?_keep_self id]
    exact .used seconds hp

theorem fate_step (ht : s.board.tunnel? id = some t) (issuer : Issuer) (now : Instant) (call : Call) :
    Fate issuer now call id s.board t (((call.step issuer now).run s).2.board.tunnel? id) := by
  by_cases hother : ∃ i, call.subject? = some i ∧ i ≠ id
  · obtain ⟨i, hi, hne⟩ := hother
    exact .of_tunnel? ht ((agreeBut_step hi).tunnel hne.symm)
  · have hown : ∀ i, call.subject? = some i → i = id := fun i hi => by
      by_contra hne
      exact hother ⟨i, hi, hne⟩
    have hacting := acting issuer now call s
    generalize ((call.step issuer now).run s).2.board = b at hacting
    cases hacting with
    | rests | sets => exact .of_tunnel? ht rfl
    | requires i =>
      cases hown i rfl
      exact fate_require ht (.inl rfl)
    | @awaits i _ hidle =>
      cases hown i rfl
      exact fate_require (s := s.looked id) ht (.inr ((TunnelBoard.status_eq_idle_iff ht).1 hidle))
    | activates i =>
      cases hown i rfl
      exact fate_activate ht
    | prolongs i seconds =>
      cases hown i rfl
      exact fate_keepAlive ht seconds
    | stops i =>
      cases hown i rfl
      exact .of_closed ht ((s.board.tunnel?_close id id).trans (if_pos rfl))
    | drops i =>
      cases hown i rfl
      rw [TunnelBoard.tunnel?_drop_self]
      exact .dropped
    | sweeps _ moment =>
      have hsweep := s.board.tunnel?_sweep moment id
      split at hsweep
      · exact .of_closed ht hsweep
      · exact .of_tunnel? ht hsweep

/-! ## What an open tunnel holds -/

/-- Whether a request at an instant makes new credentials for the tunnel of an environment: it is open, and those
that it holds are missing, or are at or past their end. -/
structure Renews (s : Coordinator) (now : Instant) (id : EnvironmentId) : Prop where
  active : s.board.status id = .active
  stale : ∀ c, (s.board.tunnel? id).bind Tunnel.credentials = some c → c.expiresAt ≤ now

/-- Whether a call leaves the tunnel of an environment asked for or open. -/
def Spares (issuer : Issuer) (id : EnvironmentId) (s : Coordinator) (now : Instant) (call : Call) : Prop :=
  ((call.step issuer now).run s).2.board.status id ≠ .idle

/-- A tunnel that is not idle, and is not so after a call either, keeps its port. It keeps its credentials as well,
unless they are made anew. -/
theorem held_step (hb : s.board.Issued issuer) (hopen : s.board.status id ≠ .idle)
    (hspares : Spares issuer id s now call) :
    (((call.step issuer now).run s).2.board.tunnel? id).bind Tunnel.port = (s.board.tunnel? id).bind Tunnel.port ∧
      ((((call.step issuer now).run s).2.board.tunnel? id).bind Tunnel.credentials =
          (s.board.tunnel? id).bind Tunnel.credentials ∨
        call = .require id ∧ s.Renews now id ∧
          (((call.step issuer now).run s).2.board.tunnel? id).bind Tunnel.credentials = issuer.issue? now id) := by
  obtain ⟨t, ht, hphase⟩ := TunnelBoard.status_ne_idle_iff.1 hopen
  obtain ⟨port, hport⟩ := Option.isSome_iff_exists.1 ((hb.tunnel ht).port.2 hphase)
  obtain ⟨u, hu, huphase⟩ := TunnelBoard.status_ne_idle_iff.1 hspares
  have hfate := fate_step ht issuer now call
  rw [hu] at hfate ⊢
  rw [ht]
  cases hfate with
  | stays => exact ⟨rfl, .inl rfl⟩
  | closed => exact absurd rfl huphase
  | used => exact ⟨rfl, .inl rfl⟩
  | opened _ hr =>
    rw [TunnelBoard.reserve?_of_port hport] at hr
    cases hr
    exact ⟨hport.symm, .inl rfl⟩
  | asked hcall hp hr hc =>
    rw [TunnelBoard.reserve?_of_port hport] at hr
    cases hr
    refine ⟨hport.symm, ?_⟩
    rcases Tunnel.held_or_new_of_credentialsAt? hc with hheld | ⟨hstale, hnew⟩
    · exact .inl hheld.symm
    · have hover : ∀ c, (s.board.tunnel? id).bind Tunnel.credentials = some c → c.expiresAt ≤ now :=
        fun c hc => Credentials.isExpiredAt_iff.1 (hstale c (by rwa [ht] at hc))
      refine .inr ⟨hcall.resolve_right hphase, ⟨?_, hover⟩, hnew.symm⟩
      rw [TunnelBoard.status_of_tunnel? ht]
      cases hphase' : t.phase with
      | active => rfl
      | idle => exact absurd hphase' hphase
      | required => exact absurd hphase' hp

/-- Over calls that leave the tunnel of an environment open, its port stays, and its credentials are those with which
the calls began or were made by one of them. -/
theorem held_of_spared (hb : s.board.Issued issuer) (hopen : s.board.status id ≠ .idle) {more : List (Instant × Call)}
    (h : Run (Call.step issuer) (Spares issuer id) s more s') :
    s'.board.status id ≠ .idle ∧
      (s'.board.tunnel? id).bind Tunnel.port = (s.board.tunnel? id).bind Tunnel.port ∧
      ((s'.board.tunnel? id).bind Tunnel.credentials = (s.board.tunnel? id).bind Tunnel.credentials ∨
        ∃ before now rest, more = before ++ (now, .require id) :: rest ∧
          (after (Call.step issuer) s before).Renews now id ∧
          (s'.board.tunnel? id).bind Tunnel.credentials = issuer.issue? now id) := by
  induction h with
  | nil => exact ⟨hopen, rfl, .inl rfl⟩
  | @snoc calls u now call hrun hspares ih =>
    obtain ⟨hu, hport, hcredentials⟩ := ih
    obtain ⟨hport', hcredentials'⟩ := held_step (issued_after hrun hb) hu hspares
    refine ⟨hspares, hport'.trans hport, ?_⟩
    rcases hcredentials' with hsame | ⟨rfl, hrenews, hnew⟩
    · rw [hsame]
      rcases hcredentials with hfirst | ⟨before, at₀, rest, rfl, hrenews, hnew⟩
      · exact .inl hfirst
      · exact .inr ⟨before, at₀, rest ++ [(now, call)], by simp, hrenews, hnew⟩
    · refine .inr ⟨calls, now, [], rfl, ?_, hnew⟩
      rw [hrun.after_eq]
      exact hrenews

/-- In every run from a coordinator without tunnels, and over any further calls that leave the tunnel of an environment
open: it holds the same port before and after them, which is the one that its details show. Its credentials, which the
details show too, are the same as well, unless one of the calls was a request for the open tunnel when they were
missing or expired; then they are those made by such a request. -/
theorem held_of_run (range : PortRange) (keepAlive : Nat) (census : Census) (jobs : JobBoard)
    {calls more : List (Instant × Call)}
    (h : Run (Call.step issuer) (fun _ _ _ => True) ⟨census, .empty range keepAlive, jobs⟩ calls s)
    (hopen : s.board.status id ≠ .idle) (hmore : Run (Call.step issuer) (Spares issuer id) s more s') :
    ∃ port, (s.board.tunnel? id).bind Tunnel.port = some port ∧ (s'.board.tunnel? id).bind Tunnel.port = some port ∧
      (∀ now, s'.sees id = true → ∃ d, (details now id).run s' = (.done d, s'.looked id) ∧ d.port = some port ∧
        d.credentials = ((s'.board.tunnel? id).bind Tunnel.credentials).map Credentials.token) ∧
      ((s'.board.tunnel? id).bind Tunnel.credentials = (s.board.tunnel? id).bind Tunnel.credentials ∨
        ∃ before now rest, more = before ++ (now, .require id) :: rest ∧
          (after (Call.step issuer) s before).Renews now id ∧
          (s'.board.tunnel? id).bind Tunnel.credentials = issuer.issue? now id) := by
  have hissued := issued_after h (TunnelBoard.issued_empty issuer range keepAlive)
  obtain ⟨hopen', hport, hcredentials⟩ := held_of_spared hissued hopen hmore
  obtain ⟨t, ht, hphase⟩ := TunnelBoard.status_ne_idle_iff.1 hopen'
  obtain ⟨port, htport⟩ := Option.isSome_iff_exists.1 (((issued_after hmore hissued).tunnel ht).port.2 hphase)
  rw [ht] at hport
  refine ⟨port, hport.symm.trans htport, by rw [ht]; exact htport, fun now hs => ?_, hcredentials⟩
  exact ⟨t.shown (s'.jobs.pending id), run_details_of_tunnel? now hs ht, htport, by rw [ht]; rfl⟩

/-- A tunnel that was opened before it was asked for gets credentials at the next request, and keeps its port. -/
theorem held_through_request : ∃ s s',
    Run (Call.step hourly) (fun _ _ _ => True) (knowing ⟨7⟩) [(.ofSeconds 10, .activate ⟨7⟩)] s ∧
    s.board.status ⟨7⟩ ≠ .idle ∧
    Run (Call.step hourly) (Spares hourly ⟨7⟩) s
      [(.ofSeconds 20, .require ⟨7⟩), (.ofSeconds 30, .activate ⟨7⟩), (.ofSeconds 40, .require ⟨7⟩)] s' ∧
    (s'.board.tunnel? ⟨7⟩).bind Tunnel.port = (s.board.tunnel? ⟨7⟩).bind Tunnel.port ∧
    (s.board.tunnel? ⟨7⟩).bind Tunnel.credentials = none ∧
    (s'.board.tunnel? ⟨7⟩).bind Tunnel.credentials = hourly.issue? (.ofSeconds 20) ⟨7⟩ := by
  have hrun : Run (Call.step hourly) (fun _ _ _ => True) (knowing ⟨7⟩) [(.ofSeconds 10, .activate ⟨7⟩)] _ :=
    Run.nil.snoc _ _ trivial
  have hmore : Run (Call.step hourly) (Spares hourly ⟨7⟩)
      (((Call.activate ⟨7⟩).step hourly (.ofSeconds 10)).run (knowing ⟨7⟩)).2
      [(.ofSeconds 20, .require ⟨7⟩), (.ofSeconds 30, .activate ⟨7⟩), (.ofSeconds 40, .require ⟨7⟩)] _ :=
    ((Run.nil.snoc _ _ (by unfold Spares; decide +kernel)).snoc _ _ (by unfold Spares; decide +kernel)).snoc _ _
      (by unfold Spares; decide +kernel)
  obtain ⟨port, hbefore, hafter, -⟩ := held_of_run _ _ _ _ hrun (by decide +kernel) hmore
  exact ⟨_, _, hrun, by decide +kernel, hmore, hafter.trans hbefore.symm, by decide +kernel, by decide +kernel⟩

end Coordinator

end EdgeFleet
