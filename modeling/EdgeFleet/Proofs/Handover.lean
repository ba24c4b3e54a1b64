import EdgeFleet.Proofs.Accounting
import EdgeFleet.Proofs.Credentials
import EdgeFleet.Proofs.Service
/-!
# Tokens that are handed out

A token reaches an agent in the answer to a poll, and an operator in the answer to a request for a
tunnel. All credentials that a board keeps were issued for the environment that they are kept for, and a
tunnel that is asked for has some, so both answers carry a token of the right environment. Whether
credentials are still good is looked at when a tunnel comes to be asked for, and not while it stays so.
-/

namespace EdgeFleet

namespace Issuer

variable {i : Issuer} {now t e : Instant} {id : EnvironmentId} {c : Credentials}

/-- Credentials that were issued for an environment, at an instant and up to another one. -/
structure Issued (i : Issuer) (id : EnvironmentId) (c : Credentials) (t e : Instant) (claims : Claims) : Prop where
  readable : t.isReadable = true
  plus : t.plus? i.validity = some e
  areFor : claims.AreFor id t.seconds e.seconds
  credentials : c = ⟨String.ofList (i.token claims), .ofSeconds e.seconds⟩

/-- What is issued has claims and an end. -/
theorem issued_of_issue? (h : i.issue? t id = some c) : ∃ e claims, i.Issued id c t e claims := by
  cases hr : t.isReadable with
  | false =>
    unfold issue? Claims.make? at h
    rw [hr, if_neg nofun] at h
    cases h
  | true =>
    cases he : t.plus? i.validity with
    | none =>
      unfold issue? Claims.make? at h
      rw [if_pos hr, he] at h
      cases h
    | some e =>
      obtain ⟨claims, hclaims, hissue⟩ := issued (i := i) (a := id) hr he
      rw [h] at hissue
      exact ⟨e, claims, hr, he, hclaims, Option.some.inj hissue⟩

/-- Credentials are accepted up to the second in which they end, and after that they are expired. -/
theorem Issued.verify {claims : Claims} (h : i.Issued id c t e claims) (hv : 0 ≤ i.validity.nanos)
    (hnow : .epoch ≤ now) :
    i.verify now c.token id = if e.seconds < now.seconds then .refused .expired else .done claims := by
  obtain ⟨hnanos, hcalendar⟩ := Instant.plus?_eq_some_iff.1 h.plus
  have ht := (Instant.isReadable_iff.1 h.readable).1
  have he : 0 ≤ e.seconds := by
    unfold Instant.seconds
    omega
  rw [h.credentials, verify_token h.areFor (Instant.seconds_of_onCalendar hcalendar).2 he hnow]
  simp

/-- Credentials that do not count as expired have not passed the second in which they end. -/
theorem Issued.le_of_fresh {claims : Claims} (h : i.Issued id c t e claims) (hf : c.isExpiredAt now = false) :
    now.seconds ≤ e.seconds := by
  rw [h.credentials] at hf
  have hend : ¬ e.seconds * 1000000000 ≤ now.nanos := of_decide_eq_false hf
  unfold Instant.seconds at hend ⊢
  omega

/-- Credentials that were issued just now have not passed it either. -/
theorem Issued.le_of_now {claims : Claims} (h : i.Issued id c t e claims) (hv : 0 ≤ i.validity.nanos) :
    t.seconds ≤ e.seconds := by
  have hnanos := (Instant.plus?_eq_some_iff.1 h.plus).1
  unfold Instant.seconds
  omega

end Issuer

namespace TunnelBoard

variable {issuer : Issuer} {known : EnvironmentId → Bool} {strands : Prop} {b b' : TunnelBoard}
  {id : EnvironmentId} {t : Tunnel} {c : Credentials}

/-! ## Credentials that are kept -/

/-- Whether every tunnel holds what its phase says, with credentials that were issued for its
environment. -/
structure Issued (issuer : Issuer) (b : TunnelBoard) : Prop where
  tunnel : ∀ {id t}, b.tunnel? id = some t → t.Sound
  credentials : ∀ {id t c}, b.tunnel? id = some t → t.credentials = some c → ∃ at₀, issuer.issue? at₀ id = some c

theorem issued_empty (issuer : Issuer) (range : PortRange) (keepAlive : Nat) : (empty range keepAlive).Issued issuer :=
  ⟨nofun, nofun⟩

theorem Issued.keep (h : b.Issued issuer) (ht : t.Sound)
    (hc : ∀ c, t.credentials = some c → ∃ at₀, issuer.issue? at₀ id = some c) : (b.keep id t).Issued issuer := by
  refine ⟨fun {i u} hu => ?_, fun {i u c} hu huc => ?_⟩
  · rw [tunnel?_keep] at hu
    split at hu
    · cases hu
      exact ht
    · exact h.tunnel hu
  · rw [tunnel?_keep] at hu
    split at hu
    · rename_i hi
      cases hu
      rw [hi]
      exact hc c huc
    · exact h.credentials hu huc

/-- A board on which every tunnel was kept before or holds no credentials. -/
theorem Issued.of_kept (h : b.Issued issuer)
    (hb : ∀ i u, b'.tunnel? i = some u → b.tunnel? i = some u ∨ u.Sound ∧ u.credentials = none) : b'.Issued issuer := by
  refine ⟨fun {i u} hu => ?_, fun {i u c} hu hc => ?_⟩
  · rcases hb i u hu with hu | ⟨hs, -⟩
    · exact h.tunnel hu
    · exact hs
  · rcases hb i u hu with hu | ⟨-, hn⟩
    · exact h.credentials hu hc
    · rw [hn] at hc
      cases hc

/-- Credentials that a tunnel gets were issued for its environment, now or before. -/
theorem Issued.credentialsAt? (h : b.Issued issuer) {now : Instant} (ht : b.tunnel? id = some t)
    (hc : t.credentialsAt? issuer now id = some c) : ∃ at₀, issuer.issue? at₀ id = some c := by
  unfold Tunnel.credentialsAt? at hc
  split at hc
  · split at hc
    · exact h.credentials ht hc
    · exact ⟨now, hc⟩
  · cases hc

theorem Issued.change (h : b.Issued issuer) (hc : Change issuer known strands b b') : b'.Issued issuer := by
  have hreserve : ∀ {id t port c}, b.reserve? id t = some (port, c) → c.Issued issuer := by
    intro id t port c hr
    exact h.of_kept (fun i u hu => .inl (tunnel?_of_reserve? hr ▸ hu))
  cases hc with
  | begin now _ _ => exact h.keep (Tunnel.sound_fresh now) nofun
  | lend _ _ hr => exact hreserve hr
  | ask ht _ hr hc =>
    refine (hreserve hr).keep (Tunnel.sound_asked _ _ _) (fun c hcr => ?_)
    cases hcr
    exact h.credentialsAt? ht hc
  | activate now seconds ht hr =>
    exact (hreserve hr).keep (Tunnel.sound_opened _ _ _ _) (fun c hcr => h.credentials ht hcr)
  | use now seconds ht hp => exact h.keep ((h.tunnel ht).used hp now seconds) (fun c hcr => h.credentials ht hcr)
  | close id =>
    refine h.of_kept (fun i u hu => ?_)
    rw [tunnel?_close] at hu
    split at hu
    · obtain ⟨t, -, rfl⟩ := Option.map_eq_some_iff.1 hu
      exact .inr ⟨t.sound_closed, rfl⟩
    · exact .inl hu
  | drop id =>
    refine h.of_kept (fun i u hu => ?_)
    rw [tunnel?_drop] at hu
    split at hu
    · cases hu
    · exact .inl hu
  | count => exact ⟨h.tunnel, h.credentials⟩
  | setKeepAlive seconds => exact ⟨h.tunnel, h.credentials⟩

theorem Issued.changes (h : b.Issued issuer) (hc : Changes issuer known strands b b') : b'.Issued issuer :=
  hc.inv (fun _ _ h hc => h.change hc) h

end TunnelBoard

namespace Coordinator

open Attempt

variable {issuer : Issuer} {now : Instant} {id : EnvironmentId} {s s' : Coordinator} {t : Tunnel}

theorem issued_after {s₀ : Coordinator} {calls : List (Instant × Call)} {allowed : Coordinator → Instant → Call → Prop}
    (h : Run (Call.step issuer) allowed s₀ calls s) (hs : s₀.board.Issued issuer) : s.board.Issued issuer :=
  h.inv (fun s => s.board.Issued issuer) hs (fun s now call hs _ => hs.changes (changes_step issuer now call s))

/-! ## What an answer shows -/

/-- A tunnel that was asked for has credentials, and they were looked at unless it was asked for
before. -/
theorem credentials_of_require (hi : s.board.Issued issuer) (h : (require issuer now id).run s = (.done (), s')) :
    ∃ t c, s'.board.tunnel? id = some t ∧ t.credentials = some c ∧
      (s.board.status id = .required ∨ c.isExpiredAt now = false ∨ issuer.issue? now id = some c) := by
  have hr := requiring issuer now id s
  rw [h] at hr
  cases hr with
  | @standing t hs ht hp =>
    obtain ⟨c, hc⟩ := Option.isSome_iff_exists.1 ((hi.tunnel ht).required hp)
    refine ⟨t, c, ht, hc, .inl ((TunnelBoard.status_of_tunnel? ht).trans ?_)⟩
    rw [hp]
    rfl
  | @asked t port b c hs ht hp hr hc hs' =>
    refine ⟨t.asked port c, c, b.tunnel?_keep_self id _, rfl, .inr ?_⟩
    unfold Tunnel.credentialsAt? at hc
    split at hc
    · split at hc
      · rename_i hf
        unfold Tunnel.hasFreshCredentials at hf
        rw [hc] at hf
        exact .inl (by simpa using hf)
      · exact .inr hc
    · cases hc

/-- A tunnel that was asked for keeps its credentials when it is opened. -/
theorem credentials_of_activate (hi : s.board.Issued issuer) (hr : s.board.status id = .required)
    (h : (activate now id).run s = (.done (), s')) :
    ∃ t c, s'.board.tunnel? id = some t ∧ t.phase.status = .active ∧ t.credentials = some c := by
  have ha := activating now id s
  rw [h] at ha
  cases ha with
  | @opened t port b hs hc ht hres hs' =>
    -- A fresh tunnel would be idle, so it is the one that was kept.
    have hphase : s.board.tunnel? id = some t ∧ t.phase = .required := by
      rcases ht with ht | ⟨hn, -⟩
      · rw [TunnelBoard.status_of_tunnel? ht] at hr
        refine ⟨ht, ?_⟩
        cases hp : t.phase with
        | required => rfl
        | _ => simp [hp, Phase.status] at hr
      · rw [TunnelBoard.status_of_none hn] at hr
        cases hr
    obtain ⟨c, hc⟩ := Option.isSome_iff_exists.1 ((hi.tunnel hphase.1).required hphase.2)
    exact ⟨t.opened now b.keepAlive port, c, b.tunnel?_keep_self id _, rfl, hc⟩

theorem details_eq (ht : s.board.tunnel? id = some t) {d : TunnelDetails} (h : (details now id).run s = (.done d, s')) :
    d = t.shown (s.jobs.pending id) := by
  cases hs : s.sees id with
  | false =>
    unfold details at h
    rw [run_bind_refused (run_ensureKnown_of_not_sees hs)] at h
    cases h
  | true =>
    rw [run_details_of_tunnel? now hs ht] at h
    cases h
    rfl

theorem board_of_details {o : Outcome TunnelError TunnelDetails} (h : (details now id).run s = (o, s')) :
    s'.board = s.board := by
  have hs := snd_run_details now s id
  rw [h] at hs
  exact congrArg (·.board) hs

end Coordinator

namespace Service

open Attempt

variable {issuer : Issuer} {now : Instant} {id : EnvironmentId} {s s' : Service}

/-- Whether the board of a service keeps only credentials that some issuer made, and it is its own. -/
def Issues (issuer : Issuer) (s : Service) : Prop := s.issuer = issuer ∧ s.board.Issued issuer

theorem Issues.coordinator (h : Issues issuer s) : s.coordinator.board.Issued s.issuer := by
  rw [h.1]
  exact h.2

theorem closed_issues (issuer : Issuer) : Closed (Issues issuer) where
  registry _ _ hs := hs
  tunnels hx s hs := by
    obtain ⟨rfl, hboard⟩ := hs
    exact ⟨rfl, hboard.changes (hx s.issuer s.coordinator).1⟩
  jobs hs _ := hs
  settings settings hs := ⟨hs.1, hs.2.tunnel, hs.2.credentials⟩
  store hs _ := hs

/-- A service keeps only credentials that it issued, whatever happens to it. -/
theorem keeps_issues (now : Instant) (event : Event) : Keeps (Issues issuer) (event.step now) := by
  refine (closed_issues issuer).step_of_beside (fun _ _ hs => hs) (fun {s} id hs => ⟨hs.1, ?_⟩) (fun hs => ?_) now event
  · have hdrop : TunnelBoard.Change issuer (fun _ => true) False s.board (s.board.drop id) := .drop id
    exact hs.2.change hdrop
  · exact ⟨hs.1, TunnelBoard.issued_empty issuer _ _⟩

/-! ## Tokens in answers -/

/-- What is known of a token in an answer: it belongs to the credentials that the tunnel holds, they were
issued for the environment, and they are accepted up to the second in which they end. -/
structure Hands (s : Service) (now : Instant) (id : EnvironmentId) (token : String) (issuedAt e : Instant)
    (claims : Claims) : Prop where
  held : ∃ c : Credentials, (s.board.tunnel? id).bind Tunnel.credentials = some c ∧ c.token = token ∧
    s.issuer.Issued id c issuedAt e claims
  verified : (verifyCredentials now id token).run s =
    (if e.seconds < now.seconds then .refused (.credentials .expired) else .done claims, s)

theorem hands_of_issue? {c : Credentials} {t : Instant} (h : s.issuer.issue? t id = some c)
    (hc : (s.board.tunnel? id).bind Tunnel.credentials = some c) (hv : 0 ≤ s.issuer.validity.nanos)
    (hnow : .epoch ≤ now) :
    ∃ e claims, s.issuer.Issued id c t e claims ∧ s.Hands now id c.token t e claims := by
  obtain ⟨e, claims, hi⟩ := Issuer.issued_of_issue? h
  refine ⟨e, claims, hi, ⟨c, hc, rfl, hi⟩, ?_⟩
  have hrun : (verifyCredentials now id c.token).run s =
      ((s.issuer.verify now c.token id).rename .credentials (fun c => c), s) := rfl
  rw [hrun, hi.verify hv hnow]
  split <;> rfl

/-- The details of a tunnel tell its phase and the token of the credentials that it holds. -/
theorem hands_of_details {u : Tunnel} {c : Credentials} {t : Instant} {d : TunnelDetails} (hs : Issues issuer s)
    (hv : 0 ≤ issuer.validity.nanos) (hnow : .epoch ≤ now) (hu : s.board.tunnel? id = some u)
    (hc : u.credentials = some c) (ht : issuer.issue? t id = some c)
    (h : (onTunnels (Coordinator.details now id)).run s = (.done d, s')) :
    d.status = u.phase.status ∧ d.credentials = some c.token ∧
      ∃ e claims, issuer.Issued id c t e claims ∧ s'.Hands now id c.token t e claims := by
  obtain ⟨k, hrun, hk⟩ := run_onTunnels_eq_done h
  have hissuer : s'.issuer = issuer := by
    rw [hk]
    exact hs.1
  have hboard : s'.board = s.board := by
    rw [hk]
    exact Coordinator.board_of_details hrun
  have hheld : (s'.board.tunnel? id).bind Tunnel.credentials = some c := by
    rw [hboard, hu]
    exact hc
  rw [Coordinator.details_eq (s := s.coordinator) hu hrun]
  rw [← hissuer] at ht hv ⊢
  refine ⟨rfl, ?_, hands_of_issue? ht hheld hv hnow⟩
  rw [Tunnel.shown, hc]
  rfl

/-- An answered request for a tunnel carries a token, and it is accepted if the tunnel was not asked for
before. -/
theorem hands_of_requireTunnel (hs : Issues issuer s) (hv : 0 ≤ issuer.validity.nanos) (hnow : .epoch ≤ now)
    {d : TunnelDetails} (h : (requireTunnel now id).run s = (.done d, s')) :
    ∃ token t e claims, d.credentials = some token ∧ s'.Hands now id token t e claims ∧
      (s.board.status id ≠ .required → (verifyCredentials now id token).run s' = (.done claims, s')) := by
  unfold requireTunnel at h
  obtain ⟨_, s₁, hrequire, hdetails⟩ := run_bind_eq_done h
  have hs₁ : Issues issuer s₁ := by
    have hmoves : ∀ issuer, Coordinator.Moves issuer (Coordinator.require issuer now id) :=
      fun issuer => Coordinator.moves_step issuer now (.require id)
    have hk := (closed_issues issuer).tunnels hmoves s hs
    rwa [hrequire] at hk
  rw [run_withIssuer] at hrequire
  obtain ⟨c₁, hrun, hc₁⟩ := run_onTunnels_eq_done hrequire
  obtain ⟨u, c, hu, hc, hgood⟩ := Coordinator.credentials_of_require hs.coordinator hrun
  have hu₁ : s₁.board.tunnel? id = some u := by
    rw [hc₁]
    exact hu
  -- Credentials that were kept were issued before, and those that were not good any more are issued now.
  obtain ⟨t, ht, hnew⟩ : ∃ t, issuer.issue? t id = some c ∧
      (s.board.status id ≠ .required → c.isExpiredAt now = false ∨ t = now) := by
    rcases hgood with hstanding | hfresh | hissue
    · obtain ⟨t, ht⟩ := hs₁.2.credentials hu₁ hc
      exact ⟨t, ht, fun hn => absurd hstanding hn⟩
    · obtain ⟨t, ht⟩ := hs₁.2.credentials hu₁ hc
      exact ⟨t, ht, fun _ => .inl hfresh⟩
    · exact ⟨now, hs.1 ▸ hissue, fun _ => .inr rfl⟩
  obtain ⟨-, htoken, e, claims, hi, hhands⟩ := hands_of_details hs₁ hv hnow hu₁ hc ht hdetails
  refine ⟨c.token, t, e, claims, htoken, hhands, fun hn => ?_⟩
  have hle : now.seconds ≤ e.seconds := by
    rcases hnew hn with hfresh | rfl
    · exact hi.le_of_fresh hfresh
    · exact hi.le_of_now hv
  rw [hhands.verified, if_neg (Int.not_lt.2 hle)]

/-- A poll opens a tunnel that was asked for. -/
theorem activate_of_advanceTunnel {c c' : Coordinator} (hr : c.board.status id = .required)
    (h : (advanceTunnel now id).run c = (.done (), c')) :
    (Coordinator.activate now id).run (c.looked id) = (.done (), c') := by
  unfold advanceTunnel at h
  cases hs : c.sees id with
  | false =>
    rw [run_bind_refused (Coordinator.run_status_of_not_sees hs)] at h
    cases h
  | true =>
    rw [run_bind_done (Coordinator.run_status_of_sees hs), hr] at h
    exact h

/-- An answered poll that opens a tunnel which was asked for carries a token. -/
theorem hands_of_poll (hs : Issues issuer s) (hv : 0 ≤ issuer.validity.nanos) (hnow : .epoch ≤ now) {edgeId : String}
    {agent : Option Agent} {a : PollAnswer} (h : (poll now edgeId agent).run s = (.done a, s'))
    (hr : s.board.status a.environmentId = .required) :
    a.status = .active ∧ ∃ token t e claims, a.credentials = some token ∧
      s'.Hands now a.environmentId token t e claims := by
  obtain ⟨e, s₁, s₂, d, -, hrecord, hadvance, hdetails, hastatus, hatoken, -⟩ := answered_poll h
  obtain ⟨r, -, rfl⟩ := run_onRegistry_eq_done hrecord
  have hs₁ : Issues issuer { s with registry := r } := hs
  have hs₂ : Issues issuer s₂ := by
    have hk := (closed_issues issuer).onTunnels (moves_advanceTunnel · now a.environmentId) _ hs₁
    rwa [hadvance] at hk
  obtain ⟨c₁, hrun, hc₁⟩ := run_onTunnels_eq_done hadvance
  -- The tunnel is opened with the credentials that it got when it was asked for, however old they are.
  obtain ⟨u, c, hu, hactive, hc⟩ := Coordinator.credentials_of_activate
    (s := ({ s with registry := r } : Service).coordinator.looked a.environmentId) hs₁.coordinator hr
    (activate_of_advanceTunnel hr hrun)
  have hu₂ : s₂.board.tunnel? a.environmentId = some u := by
    rw [hc₁]
    exact hu
  obtain ⟨t, ht⟩ := hs₂.2.credentials hu₂ hc
  obtain ⟨hstatus, htoken, e, claims, -, hhands⟩ := hands_of_details hs₂ hv hnow hu₂ hc ht hdetails
  exact ⟨hastatus.trans (hstatus.trans hactive), c.token, t, e, claims, hatoken.trans htoken, hhands⟩

/-- From any start, in every run of events, at any clock that is not before the epoch: an answered request
for a tunnel carries a token, and so does an answered poll that opens a tunnel which was asked for. The
token was issued for the environment, and its verification at the same clock accepts it up to the second in
which it ends, and finds it expired after that. The former holds whenever the tunnel was not asked for
before the request. -/
theorem token_of_run (registry : Registry) (range : PortRange) (keepAlive : Nat) {issuer : Issuer}
    (enrollment : EnrollmentConfig) (hv : 0 ≤ issuer.validity.nanos) {events : List (Instant × Event)}
    (h : Run Event.step (fun _ _ _ => True) (assemble registry range keepAlive issuer enrollment) events s)
    (hnow : .epoch ≤ now) :
    (∀ id d s', (requireTunnel now id).run s = (.done d, s') →
      ∃ token t e claims, d.credentials = some token ∧ s'.Hands now id token t e claims ∧
        (s.board.status id ≠ .required → (verifyCredentials now id token).run s' = (.done claims, s'))) ∧
    ∀ edgeId agent a s', (poll now edgeId agent).run s = (.done a, s') →
      s.board.status a.environmentId = .required →
      a.status = .active ∧ ∃ token t e claims, a.credentials = some token ∧
        s'.Hands now a.environmentId token t e claims := by
  have hs : Issues issuer s :=
    h.inv (Issues issuer) ⟨rfl, TunnelBoard.issued_empty issuer range keepAlive⟩
      (fun s now event hs _ => keeps_issues now event s hs)
  exact ⟨fun id d s' hd => hands_of_requireTunnel hs hv hnow hd,
    fun edgeId agent a s' ha hr => hands_of_poll hs hv hnow ha hr⟩

/-- A tunnel that is asked for the first time gets a token that is accepted. -/
theorem token_of_first_request : ∃ s d s' token claims,
    Run Event.step (fun _ _ _ => True) (overFresh Coordinator.hourly) [(.ofSeconds 10, .create (edge ⟨0⟩ "A"))] s ∧
    (requireTunnel (.ofSeconds 20) ⟨1⟩).run s = (.done d, s') ∧ d.credentials = some token ∧
    (verifyCredentials (.ofSeconds 20) ⟨1⟩ token).run s' = (.done claims, s') := by
  obtain ⟨s, hrun, hfirst, hdone⟩ : ∃ s,
      Run Event.step (fun _ _ _ => True) (overFresh Coordinator.hourly) [(.ofSeconds 10, .create (edge ⟨0⟩ "A"))] s ∧
      s.board.status ⟨1⟩ ≠ .required ∧
      ((requireTunnel (.ofSeconds 20) ⟨1⟩).run s).1.rename (fun _ => ()) (fun _ => ()) = .done () :=
    ⟨_, Run.nil.snoc _ _ trivial, by decide +kernel, by decide +kernel⟩
  obtain ⟨d, hd, -⟩ := Outcome.rename_eq_done_iff.1 hdone
  obtain ⟨token, t, e, claims, htoken, -, hverified⟩ :=
    (token_of_run _ _ _ _ (by decide) hrun (by decide)).1 ⟨1⟩ d _ (Prod.ext hd rfl)
  exact ⟨s, d, _, token, claims, hrun, Prod.ext hd rfl, htoken, hverified hfirst⟩

/-- Asking again for a tunnel that is asked for already tells a token whose validity may be over. -/
theorem token_expired_while_required : ∃ s d s' token,
    Run Event.step (fun _ _ _ => True) (overFresh ⟨Utf8.bytes "secret", .ofSeconds 1⟩)
      [(.ofSeconds 10, .create (edge ⟨0⟩ "A")), (.ofSeconds 20, .requireTunnel ⟨1⟩)] s ∧
    (requireTunnel (.ofSeconds 30) ⟨1⟩).run s = (.done d, s') ∧ d.credentials = some token ∧
    (verifyCredentials (.ofSeconds 30) ⟨1⟩ token).run s' = (.refused (.credentials .expired), s') := by
  obtain ⟨s, hrun, hs, hv, hdone, hexpires⟩ : ∃ s,
      Run Event.step (fun _ _ _ => True) (overFresh ⟨Utf8.bytes "secret", .ofSeconds 1⟩)
        [(.ofSeconds 10, .create (edge ⟨0⟩ "A")), (.ofSeconds 20, .requireTunnel ⟨1⟩)] s ∧
      Issues ⟨Utf8.bytes "secret", .ofSeconds 1⟩ s ∧ 0 ≤ (Span.ofSeconds 1).nanos ∧
      ((requireTunnel (.ofSeconds 30) ⟨1⟩).run s).1.rename (fun _ => ()) (fun _ => ()) = .done () ∧
      ((((requireTunnel (.ofSeconds 30) ⟨1⟩).run s).2.board.tunnel? ⟨1⟩).bind Tunnel.credentials).map
        Credentials.expiresAt = some (.ofSeconds 21) := by
    refine ⟨_, (Run.nil.snoc _ _ trivial).snoc _ _ trivial, ?_, by decide, by decide +kernel, by decide +kernel⟩
    exact keeps_issues _ _ _ (keeps_issues _ _ _ ⟨rfl, TunnelBoard.issued_empty _ _ _⟩)
  obtain ⟨d, hd, -⟩ := Outcome.rename_eq_done_iff.1 hdone
  obtain ⟨token, t, e, claims, htoken, ⟨⟨c, hc, -, hi⟩, hverified⟩, -⟩ :=
    hands_of_requireTunnel hs hv (by decide : Instant.epoch ≤ .ofSeconds 30) (Prod.ext hd rfl)
  have hend : e.seconds = 21 := by
    rw [hc, hi.credentials] at hexpires
    have hnanos : e.seconds * 1000000000 = 21 * 1000000000 := congrArg Instant.nanos (Option.some.inj hexpires)
    omega
  refine ⟨s, d, _, token, hrun, Prod.ext hd rfl, htoken, ?_⟩
  rw [hverified, hend, if_pos (by decide)]

end Service

end EdgeFleet
