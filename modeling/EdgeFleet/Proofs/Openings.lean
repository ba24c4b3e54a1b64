import EdgeFleet.Proofs.Expiry
import EdgeFleet.Proofs.Requests
import EdgeFleet.Proofs.Service
/-!
# Why tunnels open

A call of the coordinator leaves what a tunnel shows, closes it, asks for it or opens it (`Turn`). Of all
events of the service only a request asks for a tunnel, and only a poll of its own agent opens it, after it
was asked for. So a tunnel that is open in a run was requested and then polled for, and was never idle in
between; such a tunnel has a port and credentials.
-/

namespace EdgeFleet

namespace TunnelBoard

variable {asked opened : Prop} {b b' : TunnelBoard} {id i : EnvironmentId} {t : Tunnel}

/-! ## Turns of a tunnel -/

/-- What becomes of the tunnel of an environment in one step, which may ask for it or open it under some
condition. -/
inductive Turn (asked opened : Prop) (id : EnvironmentId) (b b' : TunnelBoard) : Prop
  | stays (h : ShowAlike id b b')
  | closes (h : b'.status id = .idle)
  | asks (h : asked) (hs : b'.status id = .required) (hp : ((b'.tunnel? id).bind Tunnel.port).isSome = true)
      (hc : ((b'.tunnel? id).bind Tunnel.credentials).isSome = true)
  /-- A tunnel that opens gets a port, but keeps the credentials that it has. -/
  | opens (h : opened) (hs : b'.status id = .active) (hp : ((b'.tunnel? id).bind Tunnel.port).isSome = true)
      (hc : (b'.tunnel? id).bind Tunnel.credentials = (b.tunnel? id).bind Tunnel.credentials)

theorem Turn.imp {asked' opened' : Prop} (h : Turn asked opened id b b') (ha : asked → asked') (ho : opened → opened') :
    Turn asked' opened' id b b' := by
  cases h with
  | stays h => exact .stays h
  | closes h => exact .closes h
  | asks h hs hp hc => exact .asks (ha h) hs hp hc
  | opens h hs hp hc => exact .opens (ho h) hs hp hc

theorem Turn.of_tunnel? (h : b'.tunnel? id = b.tunnel? id) : Turn asked opened id b b' := .stays (.of_tunnel? h)

/-- A step for another environment. -/
theorem Turn.of_agreeBut (h : AgreeBut i b b') (hi : id ≠ i) : Turn asked opened id b b' := .of_tunnel? (h.tunnel hi)

theorem status_of_closed (h : b'.tunnel? id = (b.tunnel? id).map Tunnel.closed) : b'.status id = .idle := by
  cases hb : b.tunnel? id with
  | none => exact status_of_none (h.trans (by rw [hb]; rfl))
  | some t => exact status_of_tunnel? (h.trans (by rw [hb]; rfl))

/-- A tunnel that is closed, or dropped, is idle. -/
theorem turn_close (b : TunnelBoard) (i id : EnvironmentId) : Turn asked opened id b (b.close i) := by
  by_cases hi : id = i
  · subst hi
    exact .closes (status_of_closed ((b.tunnel?_close id id).trans (if_pos rfl)))
  · exact .of_agreeBut (.close b i) hi

theorem turn_drop (b : TunnelBoard) (i id : EnvironmentId) : Turn asked opened id b (b.drop i) := by
  by_cases hi : id = i
  · subst hi
    exact .closes (status_of_none (b.tunnel?_drop_self id))
  · exact .of_agreeBut (.drop b i) hi

theorem turn_sweep (b : TunnelBoard) (moment : Instant) (id : EnvironmentId) :
    Turn asked opened id b (b.sweep moment).2 := by
  have ht := b.tunnel?_sweep moment id
  split at ht
  · exact .closes (status_of_closed ht)
  · exact .of_tunnel? ht

end TunnelBoard

namespace Coordinator

open Attempt
open TunnelBoard (Turn)

variable {issuer : Issuer} {now : Instant} {id : EnvironmentId} {s : Coordinator}

theorem turn_require (issuer : Issuer) (now : Instant) (i id : EnvironmentId) (s : Coordinator) :
    Turn (i = id ∧ s.sees id = true) False id s.board ((require issuer now i).run s).2.board := by
  by_cases hi : id = i
  · subst hi
    have hr := requiring issuer now id s
    generalize (require issuer now id).run s = r at hr
    cases hr with
    | unknown | unread | standing => exact .of_tunnel? rfl
    | exhausted _ ht => exact .stays (ht.showAlike (TunnelBoard.tunnel?_keep_self _ id _))
    | cutOff _ ht => exact .stays (ht.showAlike (TunnelBoard.tunnel?_keep_self _ id _))
    | forgotten => exact .closes (TunnelBoard.status_of_none (TunnelBoard.tunnel?_drop_self _ id))
    | @asked t port b c hs =>
      have ht := b.tunnel?_keep_self id (t.asked port c)
      exact .asks ⟨rfl, hs⟩ (TunnelBoard.status_of_tunnel? ht) (by simp [Tunnel.asked]) (by simp [Tunnel.asked])
  · exact .of_agreeBut (agreeBut_require issuer now i s) hi

theorem turn_activate (now : Instant) (i id : EnvironmentId) (s : Coordinator) :
    Turn False (i = id) id s.board ((activate now i).run s).2.board := by
  by_cases hi : id = i
  · subst hi
    have hr := activating now id s
    generalize (activate now id).run s = r at hr
    cases hr with
    | unknown | unread => exact .of_tunnel? rfl
    | exhausted _ _ ht => exact .stays (ht.showAlike (TunnelBoard.tunnel?_keep_self _ id _))
    | forgotten => exact .closes (TunnelBoard.status_of_none (TunnelBoard.tunnel?_drop_self _ id))
    | @opened t port b _ _ ht =>
      have hk := b.tunnel?_keep_self id (t.opened now b.keepAlive port)
      have hport : ((b.keep id (t.opened now b.keepAlive port)).tunnel? id).bind Tunnel.port = some port := by
        simp [Tunnel.opened]
      have hcredentials : ((b.keep id (t.opened now b.keepAlive port)).tunnel? id).bind Tunnel.credentials =
          (s.board.tunnel? id).bind Tunnel.credentials := by
        rw [hk, ← (ht.showAlike (s.board.tunnel?_keep_self id t)).credentials]
        simp [Tunnel.opened]
      exact .opens rfl (TunnelBoard.status_of_tunnel? hk) (congrArg Option.isSome hport) hcredentials
  · exact .of_agreeBut (agreeBut_activate now i s) hi

theorem turn_keepAlive {asked opened : Prop} (now : Instant) (i id : EnvironmentId) (seconds : Nat) (s : Coordinator) :
    Turn asked opened id s.board ((keepAlive now i seconds).run s).2.board := by
  by_cases hi : id = i
  · subst hi
    have hr := extending now id seconds s
    generalize (keepAlive now id seconds).run s = r at hr
    cases hr with
    | unknown | inactive | unread => exact .of_tunnel? rfl
    | @extended t deadline _ ht hp =>
      -- Only the deadline and the last activity change.
      have hk := s.board.tunnel?_keep_self id (t.used deadline now seconds)
      refine .stays ⟨?_, by simp [ht, Tunnel.used], by simp [ht, Tunnel.used]⟩
      rw [TunnelBoard.status_of_tunnel? ht, hp]
      exact TunnelBoard.status_of_tunnel? hk
  · exact .of_agreeBut (agreeBut_keepAlive now i seconds s) hi

/-- Only the calls that ask for a tunnel do so, and only the one that activates opens it. -/
theorem turn_step (issuer : Issuer) (now : Instant) (call : Call) (id : EnvironmentId) (s : Coordinator) :
    Turn (call.asks? = some id ∧ s.sees id = true) (call = .activate id) id s.board
      ((call.step issuer now).run s).2.board := by
  have hacting := acting issuer now call s
  generalize ((call.step issuer now).run s).2.board = b at hacting
  cases hacting with
  | rests | sets => exact .of_tunnel? rfl
  | requires i =>
    refine (turn_require issuer now i id s).imp ?_ False.elim
    rintro ⟨rfl, hs⟩
    exact ⟨rfl, hs⟩
  | @awaits i hs =>
    refine (turn_require issuer now i id (s.looked i)).imp ?_ False.elim
    rintro ⟨rfl, -⟩
    exact ⟨rfl, hs⟩
  | activates i =>
    refine (turn_activate now i id s).imp False.elim ?_
    rintro rfl
    rfl
  | prolongs i seconds => exact turn_keepAlive now i id seconds s
  | stops i => exact TunnelBoard.turn_close s.board i id
  | drops i => exact TunnelBoard.turn_drop s.board i id
  | sweeps _ moment => exact TunnelBoard.turn_sweep s.board moment id

end Coordinator

namespace Service

open Attempt
open TunnelBoard (Turn)

variable {s s₀ : Service} {now : Instant} {id : EnvironmentId} {event : Event} {events : List (Instant × Event)}

/-! ## Turns of a tunnel in the service -/

namespace Event

/-- The environment whose tunnel an event requests. -/
def asks? : Event → Option EnvironmentId
  | requireTunnel id | await id => some id
  | _ => none

/-- Whether an event neither asks for a tunnel nor opens one past the service. -/
def IsServed : Event → Prop
  | coordinate call => call.asks? = none ∧ ∀ id, call ≠ .activate id
  | _ => True

/-- Whether an event is a poll under an edge id that belongs to an environment. -/
def PollsFor (s : Service) (id : EnvironmentId) (event : Event) : Prop :=
  ∃ edgeId agent, event = .poll edgeId agent ∧ s.registry.owner? edgeId = some id

end Event

/-- Whether two services keep the same tunnels. -/
def SameTunnels (s u : Service) : Prop := u.board.tunnel? = s.board.tunnel?

/-- Whether the tunnel of an environment may have become in one step what it is in another service. -/
def Turns (asked opened : Prop) (id : EnvironmentId) (s u : Service) : Prop := Turn asked opened id s.board u.board

theorem Turns.imp {asked opened asked' opened' : Prop} {u : Service} (h : s.Turns asked opened id u)
    (ha : asked → asked') (ho : opened → opened') : s.Turns asked' opened' id u :=
  TunnelBoard.Turn.imp h ha ho

theorem SameTunnels.turns {asked opened : Prop} {u : Service} (h : s.SameTunnels u) : s.Turns asked opened id u :=
  .of_tunnel? (congrFun h id)

theorem sameTunnels_of_board {u : Service} (h : u.board = s.board) : s.SameTunnels u :=
  congrArg TunnelBoard.tunnel? h

theorem coreClosed_sameTunnels (s : Service) : CoreClosed s.SameTunnels where
  registry _ _ h := h
  settings _ h := h
  store h _ := h

theorem keeps_sameTunnels_onRegistry {α : Type} (x : Registry.Step α) :
    Keeps s.SameTunnels (onRegistry x) := fun _ h => h

/-- A service that is started anew has no tunnels, and one whose start fails keeps them. -/
theorem turns_restart (id : EnvironmentId) (s : Service) : s.Turns False False id (Service.restart.run s).2 := by
  have hstart : s.restarted.SameTunnels (start.run s.restarted).2 :=
    (coreClosed_sameTunnels s.restarted).start keeps_sameTunnels_onRegistry s.restarted rfl
  rw [run_restart]
  rcases hr : start.run s.restarted with ⟨_ | _ | _, fresh⟩ <;> rw [hr] at hstart
  · exact .closes (TunnelBoard.status_of_none (congrFun hstart id))
  · exact .of_tunnel? rfl
  · exact .of_tunnel? rfl

theorem turns_delete (i id : EnvironmentId) (s : Service) : s.Turns False False id ((Service.delete i).run s).2 := by
  refine holds_bind (J := fun u => u.board = s.board) rfl (fun _ hu => (sameTunnels_of_board hu).turns) ?_
  intro _ u (hu : u.board = s.board)
  rw [Turns, run_change, ← hu]
  exact TunnelBoard.turn_drop u.board i id

theorem keeps_turns_details {asked opened : Prop} (now : Instant) (i : EnvironmentId) :
    Keeps (s.Turns asked opened id) (onTunnels (Coordinator.details now i)) := by
  intro u hu
  unfold onTunnels
  rw [run_within, Coordinator.snd_run_details]
  exact hu

theorem turns_requireTunnel (now : Instant) (i id : EnvironmentId) (s : Service) :
    s.Turns (i = id ∧ s.registry.contains id = true) False id ((requireTunnel now i).run s).2 := by
  have hrequire : s.Turns (i = id ∧ s.registry.contains id = true) False id
      ((withIssuer (Coordinator.require · now i)).run s).2 :=
    Coordinator.turn_require s.issuer now i id s.coordinator
  exact holds_bind hrequire (fun _ h => h) (fun _ u h => keeps_turns_details now i u h)

/-- Reading an environment leaves what is known. -/
theorem known_get? (i : EnvironmentId) (r : Registry) : ((Registry.get? i).run r).2.known = r.known := by
  have hread : ((Registry.onStore (Gateway.environment? i)).run r).2.known = r.known := by
    rcases Registry.run_onStoreAs .ofStore .environment (Database.environment? i) r with ⟨_, g, -, hr⟩ | ⟨g, -, hr⟩
    · exact congrArg (·.2.known) hr
    · exact congrArg (·.2.known) hr
  exact holds_bind (I := fun u : Registry => u.known = r.known) (J := fun u => u.known = r.known) hread
    (fun _ h => h) (fun _ _ h => h)

theorem turns_await (now : Instant) (i id : EnvironmentId) (s : Service) :
    s.Turns (i = id ∧ s.registry.contains id = true) False id ((await now i).run s).2 := by
  have hget : Keeps (fun u => u.board = s.board ∧ u.registry.known = s.registry.known) (Service.get i) := by
    refine Keeps.bind (fun u hu => ⟨hu.1, (known_get? i u.registry).trans hu.2⟩) (fun e? => ?_)
    cases e? with
    | none => exact keeps_refuse _
    | some e => exact keeps_pure e
  refine holds_bind (J := fun u => u.board = s.board ∧ u.registry.known = s.registry.known) (hget s ⟨rfl, rfl⟩)
    (fun _ hu => (sameTunnels_of_board hu.1).turns) ?_
  intro e u ⟨hboard, hknown⟩
  rw [run_bind_done (run_view _ u)]
  have hawait : s.Turns (i = id ∧ s.registry.contains id = true) False id
      ((withIssuer (Coordinator.await · now i)).run u).2 := by
    have hturn : Turn ((Coordinator.Call.await i).asks? = some id ∧ u.registry.known.contains id = true)
        (Coordinator.Call.await i = .activate id) id u.board
        ((Coordinator.await u.issuer now i).run u.coordinator).2.board :=
      Coordinator.turn_step u.issuer now (.await i) id u.coordinator
    rw [hboard, hknown] at hturn
    exact hturn.imp (fun h => ⟨Option.some.inj h.1, h.2⟩) nofun
  exact holds_bind hawait (fun _ h => h) (fun _ _ h => h)

/-- Moving a tunnel on at a poll opens it only if it was asked for. -/
theorem turn_advanceTunnel (now : Instant) (i id : EnvironmentId) (c : Coordinator) :
    Turn False (i = id ∧ c.board.status id = .required) id c.board ((advanceTunnel now i).run c).2.board := by
  unfold advanceTunnel
  cases hs : c.sees i with
  | false =>
    rw [run_bind_refused (Coordinator.run_status_of_not_sees hs)]
    exact .of_tunnel? rfl
  | true =>
    rw [run_bind_done (Coordinator.run_status_of_sees hs)]
    cases hstatus : c.board.status i with
    | required =>
      refine (Coordinator.turn_activate now i id (c.looked i)).imp False.elim ?_
      rintro rfl
      exact ⟨rfl, hstatus⟩
    | active =>
      dsimp only
      rw [run_bind_done (run_view _ _)]
      change Turn _ _ id c.board ((Coordinator.keepAlive now i c.board.keepAlive).ignored.run (c.looked i)).2.board
      rw [snd_run_ignored]
      exact Coordinator.turn_keepAlive now i id _ (c.looked i)
    | idle => exact .of_tunnel? rfl

theorem turns_poll (now : Instant) (edgeId : String) (agent : Option Agent) (id : EnvironmentId) (s : Service) :
    s.Turns False (s.registry.owner? edgeId = some id ∧ s.board.status id = .required) id
      ((poll now edgeId agent).run s).2 := by
  unfold poll
  rw [run_bind_done (run_view _ s)]
  cases howner : s.registry.owner? edgeId with
  | none => exact .of_tunnel? rfl
  | some i =>
    refine holds_bind (J := fun u => u.board = s.board) rfl (fun _ hu => (sameTunnels_of_board hu).turns) ?_
    intro e u (hu : u.board = s.board)
    have hadvance : s.Turns False (some i = some id ∧ s.board.status id = .required) id
        ((onTunnels (advanceTunnel now i)).run u).2 := by
      have hturn : Turn False (i = id ∧ u.board.status id = .required) id u.board
          ((advanceTunnel now i).run u.coordinator).2.board := turn_advanceTunnel now i id u.coordinator
      rw [hu] at hturn
      exact hturn.imp False.elim (fun h => ⟨congrArg some h.1, h.2⟩)
    refine holds_bind hadvance (fun _ h => h) (fun _ v hv => ?_)
    exact holds_bind (keeps_turns_details now i v hv) (fun _ h => h) (fun _ _ h => h)

/-- An event asks for a tunnel only if it requests it, and opens it only if it is a poll of its agent. -/
theorem turns_step (s : Service) (now : Instant) (h : event.IsServed) (id : EnvironmentId) :
    s.Turns (event.asks? = some id ∧ s.registry.contains id = true)
      (event.PollsFor s id ∧ s.board.status id = .required) id
      ((event.step now).run s).2 := by
  cases event with
  | create e => exact ((keeps_create keeps_sameTunnels_onRegistry e).ignored s rfl).turns
  | delete i => exact (turns_delete i id s).imp False.elim False.elim
  | restart =>
    rw [Event.step, snd_run_ignored]
    exact (turns_restart id s).imp False.elim False.elim
  | poll edgeId agent =>
    rw [Event.step, snd_run_ignored]
    refine (turns_poll now edgeId agent id s).imp False.elim ?_
    rintro ⟨howner, hr⟩
    exact ⟨⟨edgeId, agent, rfl, howner⟩, hr⟩
  | recordActivity i =>
    rw [Event.step, snd_run_ignored]
    exact Coordinator.turn_keepAlive now i id _ s.coordinator
  | requireTunnel i =>
    rw [Event.step, snd_run_ignored]
    refine (turns_requireTunnel now i id s).imp ?_ False.elim
    rintro ⟨rfl, hknown⟩
    exact ⟨rfl, hknown⟩
  | stopTunnel i =>
    refine (Coordinator.turn_step s.issuer now (.stop i) id s.coordinator).imp ?_ ?_
    · rintro ⟨h, -⟩
      cases h
    · intro h
      cases h
  | await i =>
    rw [Event.step, snd_run_ignored]
    refine (turns_await now i id s).imp ?_ False.elim
    rintro ⟨rfl, hknown⟩
    exact ⟨rfl, hknown⟩
  | coordinate call =>
    refine (Coordinator.turn_step s.issuer now call id s.coordinator).imp ?_ (fun hc => absurd hc (h.2 id))
    rintro ⟨hc, -⟩
    rw [h.1] at hc
    cases hc
  | attachJob i job => exact (keeps_attachJob (I := s.SameTunnels) (fun _ h _ => h) s rfl).turns
  | detachJob | acknowledgeJob => exact .of_tunnel? rfl
  | _ =>
    refine SameTunnels.turns ((coreClosed_sameTunnels s).step now ?_ ?_ ?_ s rfl)
    · trivial
    · exact not_false
    · exact not_false

/-! ## What happened before -/

/-- Whether an event of a run was marked, and the status of a tunnel was of some kind ever since. A mark may look at
what happened before the event. -/
def Since (s₀ : Service) (id : EnvironmentId) (kind : TunnelStatus → Prop)
    (mark : List (Instant × Event) → Event → Prop)
    (events : List (Instant × Event)) : Prop :=
  ∃ before now event rest, events = before ++ (now, event) :: rest ∧ mark before event ∧
    ∀ more, more <+: rest → kind ((after Event.step s₀ (before ++ (now, event) :: more)).board.status id)

/-- Whether the tunnel of an environment was requested when the environment was known and the tunnel was idle, and
was not idle any more after that. Deleting the environment and starting the service anew leave it idle, so neither
happened since. -/
def Requested (s₀ : Service) (id : EnvironmentId) (events : List (Instant × Event)) : Prop :=
  Since s₀ id (fun status => status ≠ .idle)
    (fun before event => event.asks? = some id ∧ (after Event.step s₀ before).registry.contains id = true ∧
      (after Event.step s₀ before).board.status id = .idle) events

/-- Whether the tunnel of an environment was requested, then opened by a poll under an edge id of the environment,
and was active ever after. -/
def Opened (s₀ : Service) (id : EnvironmentId) (events : List (Instant × Event)) : Prop :=
  Since s₀ id (fun status => status = .active)
    (fun before event => Requested s₀ id before ∧ event.PollsFor (after Event.step s₀ before) id ∧
      (after Event.step s₀ before).board.status id = .required) events

namespace Since

variable {kind : TunnelStatus → Prop} {mark : List (Instant × Event) → Event → Prop}

/-- An event that is marked just now. -/
theorem marked (hm : mark events event) (hk : kind ((after Event.step s₀ (events ++ [(now, event)])).board.status id)) :
    Since s₀ id kind mark (events ++ [(now, event)]) := by
  refine ⟨events, now, event, [], rfl, hm, fun more hmore => ?_⟩
  rw [List.prefix_nil.1 hmore]
  exact hk

/-- One that was marked before. -/
theorem snoc {op : Instant × Event} (h : Since s₀ id kind mark events)
    (hk : kind ((after Event.step s₀ (events ++ [op])).board.status id)) : Since s₀ id kind mark (events ++ [op]) := by
  obtain ⟨before, now, event, rest, rfl, hm, hkind⟩ := h
  refine ⟨before, now, event, rest ++ [op], by simp, hm, fun more hmore => ?_⟩
  rcases List.prefix_concat_iff.1 hmore with rfl | hmore
  · rwa [List.append_assoc] at hk
  · exact hkind more hmore

end Since

/-- What is known of the tunnel of an environment after a run. -/
structure Traced (s₀ : Service) (id : EnvironmentId) (events : List (Instant × Event)) (s : Service) : Prop where
  requested : s.board.status id ≠ .idle → Requested s₀ id events
  opened : s.board.status id = .active → Opened s₀ id events
  port : s.board.status id ≠ .idle → ((s.board.tunnel? id).bind Tunnel.port).isSome = true
  credentials : s.board.status id ≠ .idle → ((s.board.tunnel? id).bind Tunnel.credentials).isSome = true

theorem traced_nil (h₀ : s₀.board.tunnel? id = none) : Traced s₀ id [] s₀ := by
  have hidle : s₀.board.status id = .idle := TunnelBoard.status_of_none h₀
  refine ⟨fun h => absurd hidle h, fun h => ?_, fun h => absurd hidle h, fun h => absurd hidle h⟩
  rw [hidle] at h
  cases h

/-- Every event carries that on. -/
theorem Traced.step {s' : Service} (h : Traced s₀ id events s) (hs : after Event.step s₀ events = s)
    (hs' : after Event.step s₀ (events ++ [(now, event)]) = s')
    (ht : s.Turns (event.asks? = some id ∧ s.registry.contains id = true)
      (event.PollsFor s id ∧ s.board.status id = .required) id s') :
    Traced s₀ id (events ++ [(now, event)]) s' := by
  subst hs hs'
  cases ht with
  | stays ht =>
    refine ⟨fun hn => ?_, fun ha => ?_, fun hn => ?_, fun hn => ?_⟩
    · exact (h.requested (ht.status ▸ hn)).snoc hn
    · exact (h.opened (ht.status ▸ ha)).snoc ha
    · rw [ht.port]
      exact h.port (ht.status ▸ hn)
    · rw [ht.credentials]
      exact h.credentials (ht.status ▸ hn)
  | closes ht =>
    refine ⟨fun hn => absurd ht hn, fun ha => ?_, fun hn => absurd ht hn, fun hn => absurd ht hn⟩
    rw [ht] at ha
    cases ha
  | asks ha ht hp hc =>
    refine ⟨fun hn => ?_, fun ha => ?_, fun _ => hp, fun _ => hc⟩
    · -- A tunnel that was not idle was requested before, and this request is one more.
      by_cases hidle : (after Event.step s₀ events).board.status id = .idle
      · exact .marked ⟨ha.1, ha.2, hidle⟩ hn
      · exact (h.requested hidle).snoc hn
    · rw [ht] at ha
      cases ha
  | opens ho ht hp hc =>
    have hbefore : (after Event.step s₀ events).board.status id ≠ .idle := by
      rw [ho.2]
      exact nofun
    refine ⟨fun hn => (h.requested hbefore).snoc hn, fun ha => ?_, fun _ => hp, fun _ => ?_⟩
    · exact .marked ⟨h.requested hbefore, ho.1, ho.2⟩ ha
    · rw [hc]
      exact h.credentials hbefore

/-- From any start without tunnels, in every run in which nobody asks for a tunnel or opens one past the service: a
tunnel that is not idle was requested after it was idle last, and an active one was opened after that by a poll of
its own agent. Neither is without a port and credentials. -/
theorem traced_of_run (h₀ : ∀ id, s₀.board.tunnel? id = none)
    (h : Run Event.step (fun _ _ event => event.IsServed) s₀ events s) (id : EnvironmentId) :
    Traced s₀ id events s := by
  induction h with
  | nil => exact traced_nil (h₀ id)
  | snoc now event hrun hserved ih =>
    exact ih.step hrun.after_eq (hrun.snoc now event hserved).after_eq (turns_step _ now hserved id)

/-- A tunnel that was requested and polled for is open. -/
theorem traced_of_polled : ∃ s,
    Run Event.step (fun _ _ event => event.IsServed) (overFresh Coordinator.hourly)
      [(.ofSeconds 10, .create (edge ⟨0⟩ "A")), (.ofSeconds 20, .requireTunnel ⟨1⟩),
        (.ofSeconds 30, .poll "A" none)] s ∧
    s.board.status ⟨1⟩ = .active ∧
    Traced (overFresh Coordinator.hourly) ⟨1⟩
      [(.ofSeconds 10, .create (edge ⟨0⟩ "A")), (.ofSeconds 20, .requireTunnel ⟨1⟩),
        (.ofSeconds 30, .poll "A" none)] s := by
  obtain ⟨s, hrun, hactive⟩ : ∃ s, Run Event.step (fun _ _ event => event.IsServed) (overFresh Coordinator.hourly)
      [(.ofSeconds 10, .create (edge ⟨0⟩ "A")), (.ofSeconds 20, .requireTunnel ⟨1⟩),
        (.ofSeconds 30, .poll "A" none)] s ∧
      s.board.status ⟨1⟩ = .active :=
    ⟨_, ((Run.nil.snoc _ _ trivial).snoc _ _ trivial).snoc _ _ trivial, by decide +kernel⟩
  exact ⟨s, hrun, hactive, traced_of_run (fun _ => rfl) hrun ⟨1⟩⟩

end Service

end EdgeFleet
