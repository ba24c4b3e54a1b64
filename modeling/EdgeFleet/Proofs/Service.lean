import EdgeFleet.Proofs.Calls
import EdgeFleet.Proofs.Registry
import EdgeFleet.Service
/-!
# Events of the service

An `Event` is anything that may be asked of the service, or done to its parts while it runs. An
invariant that is `Closed` under what the parts do is kept by every event but those that create and
delete environments and the restart, which are taken one by one. Of an invariant that has to do with jobs
the three events on jobs are left out too (`PartlyClosed`), and of one that has to do with tunnels those on
tunnels as well (`CoreClosed`).
-/

namespace EdgeFleet

namespace JobBoard

variable {b : JobBoard} {e i : EnvironmentId}

/-! ## Who has a queue -/

theorem contains_attach (b : JobBoard) (e i : EnvironmentId) (job : Job) :
    (b.attach e job).queues.contains i = (decide (i = e) || b.queues.contains i) :=
  Table.contains_insert b.queues i e _

theorem contains_of_detach {job : JobId} (h : (b.detach job).queues.contains i = true) :
    b.queues.contains i = true := by
  obtain ⟨jobs, hj⟩ := Table.contains_iff.1 h
  unfold detach at hj
  rw [Table.get?_filter, Table.get?_mapValues, Option.filter_eq_some_iff] at hj
  obtain ⟨before, hb, -⟩ := Option.map_eq_some_iff.1 hj.1
  exact Table.contains_iff.2 ⟨before, hb⟩

theorem contains_of_acknowledge {job : JobId} (h : (b.acknowledge e job).2.queues.contains i = true) :
    b.queues.contains i = true := by
  simp only [acknowledge] at h
  split at h
  · rw [Table.contains_erase, Bool.and_eq_true] at h
    exact h.2
  · rename_i hleft
    rw [Table.contains_insert, Bool.or_eq_true, decide_eq_true_eq] at h
    rcases h with rfl | h
    · -- Jobs are left over only from a queue that there was.
      cases hq : b.queues.get? i with
      | some jobs => exact Table.contains_iff.2 ⟨jobs, hq⟩
      | none => simp [pending, hq, drop] at hleft
    · exact h

theorem contains_forget (b : JobBoard) (e i : EnvironmentId) :
    (b.forget e).queues.contains i = (!decide (i = e) && b.queues.contains i) :=
  Table.contains_erase b.queues i e

end JobBoard

namespace Database

open Attempt

/-! ## Settings -/

theorem keeps_storedSettings? {J : Database → Prop} : Keeps J storedSettings? := by
  refine (keeps_view _).bind (fun settings => (keeps_orRefuse _ settings).bind (fun t => ?_))
  split
  · exact keeps_pure _
  · exact (keeps_ofExcept _).map _

theorem keeps_currentSettings {J : Database → Prop} : Keeps J currentSettings :=
  keeps_storedSettings?.bind (fun _ => keeps_pure _)

/-- Storing settings keeps what does not depend on them. -/
theorem keeps_updateSettingsAt {J : Database → Prop} (h : ∀ {d} settings, J d → J { d with settings }) (now : Instant)
    (settings : Settings) : Keeps J (updateSettingsAt now settings) := by
  refine (keeps_clock now).bind (fun _ => keeps_storedSettings?.bind (fun _ => ?_))
  exact keeps_change (fun _ hd => h _ hd)

end Database

namespace Coordinator

open Attempt
open TunnelBoard (Changes)

variable {α : Type} {issuer : Issuer}

/-- Whether a step of the coordinator changes the board by changes alone and leaves the jobs. -/
def Moves (issuer : Issuer) (x : Step α) : Prop :=
  ∀ s, Changes issuer s.knows True s.board (x.run s).2.board ∧ (x.run s).2.jobs = s.jobs

theorem Moves.of_ignored {x : Step α} (h : Moves issuer x.ignored) : Moves issuer x := by
  intro s
  have hs := h s
  rwa [snd_run_ignored] at hs

theorem jobs_require (issuer : Issuer) (now : Instant) (id : EnvironmentId) (s : Coordinator) :
    ((require issuer now id).run s).2.jobs = s.jobs := by
  have hr := requiring issuer now id s
  generalize (require issuer now id).run s = r at hr
  cases hr <;> rfl

theorem jobs_step (issuer : Issuer) (now : Instant) (call : Call) (s : Coordinator) :
    ((call.step issuer now).run s).2.jobs = s.jobs := by
  cases call with
  | require id => exact jobs_require issuer now id s
  | activate id =>
    have hr := activating now id s
    rw [Call.step]
    generalize (activate now id).run s = r at hr
    cases hr <;> rfl
  | stop id =>
    rw [Call.step, run_stop]
    split <;> rfl
  | keepAlive id seconds =>
    have hr := extending now id seconds s
    rw [Call.step, snd_run_ignored]
    generalize (keepAlive now id seconds).run s = r at hr
    cases hr <;> rfl
  | status id => rw [Call.step, snd_run_ignored, run_status]; rfl
  | details id => rw [Call.step, snd_run_ignored, snd_run_details]; rfl
  | sweep =>
    rw [Call.step, snd_run_ignored]
    unfold sweep
    cases hc : now.isReadable with
    | false => rw [run_bind_crashed (run_clock_of_not_isReadable hc s)]
    | true => rw [run_bind_done (run_clock_of_isReadable hc s)]; rfl
  | await id =>
    rw [Call.step, run_await]
    split
    · exact jobs_require issuer now id (s.looked id)
    · rfl
  | look id =>
    rw [Call.step, snd_run_ignored]
    unfold look
    cases hs : s.sees id with
    | false => rw [run_bind_refused (run_status_of_not_sees hs)]; rfl
    | true =>
      rw [run_bind_done (run_status_of_sees hs)]
      split
      · change ((some <$> details now id : Step _).run (s.looked id)).2.jobs = s.jobs
        rw [run_map, snd_run_details]
        rfl
      · rfl
  | drop id | sweepAt moment | setKeepAlive seconds | setCensus census => rfl

theorem moves_step (issuer : Issuer) (now : Instant) (call : Call) : Moves issuer (call.step issuer now) :=
  fun s => ⟨(changes_step issuer now call s).imp (fun _ => trivial), jobs_step issuer now call s⟩

end Coordinator

namespace Service

open Attempt
open TunnelBoard (Changes)

/-- What may happen to a service. -/
inductive Event where
  | create (e : Environment)
  | get (id : EnvironmentId)
  | list
  | update (id : EnvironmentId) (e : Environment)
  | delete (id : EnvironmentId)
  | poll (edgeId : String) (agent : Option Agent)
  | recordActivity (id : EnvironmentId)
  | requireTunnel (id : EnvironmentId)
  | stopTunnel (id : EnvironmentId)
  | await (id : EnvironmentId)
  | attachJob (id : EnvironmentId) (job : Job)
  | detachJob (job : JobId)
  | acknowledgeJob (id : EnvironmentId) (job : JobId)
  | updateSettings (settings : Settings)
  /-- A call of the coordinator past the service: a sweep, a look of one who waits. -/
  | coordinate (call : Coordinator.Call)
  /-- The registry is initialized again. -/
  | rebuild
  /-- The service is started anew over its store. -/
  | restart
  /-- The next call of a method of the store is refused before it reaches the database. -/
  | refuseNext (method : StoreMethod) (error : StoreError)

namespace Event

def step (now : Instant) : Event → Step Unit
  | create e => (Service.create e).ignored
  | get id => (Service.get id).ignored
  | list => Service.list.ignored
  | update id e => (Service.update id e).ignored
  | delete id => Service.delete id
  | poll edgeId agent => (Service.poll now edgeId agent).ignored
  | recordActivity id => (Service.recordActivity now id).ignored
  | requireTunnel id => (Service.requireTunnel now id).ignored
  | stopTunnel id => Service.stopTunnel id
  | await id => (Service.await now id).ignored
  | attachJob id job => Service.attachJob id job
  | detachJob job => Service.detachJob job
  | acknowledgeJob id job => (Service.acknowledgeJob id job).ignored
  | updateSettings settings => Service.updateSettings now settings
  | coordinate call => withIssuer (fun issuer => call.step issuer now)
  | rebuild => onRegistry Registry.rebuild
  | restart => Service.restart.ignored
  | refuseNext method error => Attempt.change (fun s => s.withStore (s.registry.store.refuseNext method error))

/-- Whether an event neither creates nor deletes an environment nor starts the service anew. -/
def IsPlain : Event → Prop
  | create _ | delete _ | restart => False
  | _ => True

/-- Whether an event queues a job or takes one away. -/
def OnJobs : Event → Prop
  | attachJob _ _ | detachJob _ | acknowledgeJob _ _ => True
  | _ => False

/-- Whether an event is about a tunnel. -/
def OnTunnels : Event → Prop
  | poll _ _ | recordActivity _ | requireTunnel _ | stopTunnel _ | await _ | coordinate _ => True
  | _ => False

end Event

variable {I : Service → Prop} {now : Instant}

/-- Whether an invariant is kept by what the registry and the settings do. -/
structure CoreClosed (I : Service → Prop) : Prop where
  registry : ∀ {α : Type} {x : Registry.Step α}, (∀ r₀, Keeps (Registry.Leads r₀) x) → Keeps I (onRegistry x)
  settings : ∀ {s} settings, I s → I (s.apply settings)
  store : ∀ {s g}, I s → g.database.environments = s.registry.store.database.environments → I (s.withStore g)

/-- Whether it is kept by what the tunnels do as well. -/
structure PartlyClosed (I : Service → Prop) : Prop extends CoreClosed I where
  tunnels : ∀ {α : Type} {x : Issuer → Coordinator.Step α}, (∀ issuer, Coordinator.Moves issuer (x issuer)) →
    Keeps I (withIssuer x)

/-- Whether an invariant is kept by what the parts of the service do. -/
structure Closed (I : Service → Prop) : Prop extends PartlyClosed I where
  jobs : ∀ {s jobs}, I s → (∀ id, jobs.queues.contains id = true →
    s.jobs.queues.contains id = true ∨ s.registry.contains id = true) → I { s with jobs }

/-- Moving a tunnel on at a poll is a look-up, and at most one call about the environment that asks for
nothing. -/
theorem snd_run_advanceTunnel (issuer : Issuer) (now : Instant) (id : EnvironmentId) (s : Coordinator) :
    ((advanceTunnel now id).run s).2 = s.looked id ∨ ∃ call : Coordinator.Call, call.subject? = some id ∧
      ((advanceTunnel now id).run s).2 = ((call.step issuer now).run (s.looked id)).2 := by
  unfold advanceTunnel
  cases hs : s.sees id with
  | false =>
    rw [run_bind_refused (Coordinator.run_status_of_not_sees hs)]
    exact .inl rfl
  | true =>
    rw [run_bind_done (Coordinator.run_status_of_sees hs)]
    cases s.board.status id with
    | required => exact .inr ⟨.activate id, rfl, rfl⟩
    | active =>
      refine .inr ⟨.keepAlive id s.board.keepAlive, rfl, ?_⟩
      dsimp only
      rw [run_bind_done (run_view _ _), Coordinator.Call.step]
      rfl
    | idle => exact .inl rfl

theorem moves_advanceTunnel (issuer : Issuer) (now : Instant) (id : EnvironmentId) :
    Coordinator.Moves issuer (advanceTunnel now id) := by
  intro s
  rcases snd_run_advanceTunnel issuer now id s with h | ⟨call, -, h⟩
  · rw [h]
    exact ⟨.refl, rfl⟩
  · -- The look-up may use up a finding, but not what is known.
    have hk : (s.looked id).knows = s.knows := by
      funext i
      rw [Coordinator.knows, Coordinator.known_looked]
      rfl
    rw [h, ← hk]
    exact Coordinator.moves_step issuer now call (s.looked id)

/-- A step on the settings leaves the environments as they are, if that on the database does. -/
theorem keeps_onSettings {α : Type} {m : StoreMethod} {x : Database.Step α}
    (hI : ∀ {s g}, I s → g.database.environments = s.registry.store.database.environments → I (s.withStore g))
    (hx : ∀ environments, Keeps (fun d => d.environments = environments) x) :
    Keeps I (onSettings (Gateway.call m x)) := by
  intro s hs
  unfold onSettings
  rw [run_within]
  rcases Gateway.run_call m x s.registry.store with ⟨err, h⟩ | h
  · rw [h]
    exact hI hs rfl
  · rw [h]
    exact hI hs (hx _ _ rfl)

theorem keeps_loadSettings
    (hstore : ∀ {s g}, I s → g.database.environments = s.registry.store.database.environments → I (s.withStore g))
    (hsettings : ∀ {s} settings, I s → I (s.apply settings)) : Keeps I loadSettings := by
  refine (keeps_onSettings hstore (fun _ => Database.keeps_currentSettings)).bind (fun settings => ?_)
  exact keeps_change (fun s hs => hsettings settings hs)

/-- Builds the registry and loads the settings. -/
def start : Step Unit := do
  onRegistry Registry.rebuild
  loadSettings

/-- Of an invariant that has nothing to do with the registry. -/
theorem keeps_create (hI : ∀ {α : Type} (x : Registry.Step α), Keeps I (onRegistry x)) (e : Environment) :
    Keeps I (Service.create e) := by
  refine (hI _).bind (fun created => ?_)
  split
  · exact (keeps_view _).bind (fun _ => hI _)
  · exact keeps_pure _

theorem CoreClosed.start (h : CoreClosed I) (hI : ∀ {α : Type} (x : Registry.Step α), Keeps I (onRegistry x)) :
    Keeps I Service.start :=
  (hI _).bind (fun _ => keeps_loadSettings h.store h.settings)

/-- A restart is a start of the service without tunnels and jobs; if it fails, only the store tells of it. -/
theorem run_restart (s : Service) :
    restart.run s = match start.run s.restarted with
      | (.done (), fresh) => (.done fresh.registry.count, fresh)
      | (.refused e, fresh) => (.refused e, s.withStore fresh.registry.store)
      | (.crashed, fresh) => (.crashed, s.withStore fresh.registry.store) := rfl

theorem run_onRegistry {α : Type} {x : Registry.Step α} {o : Outcome RegistryError α} {r : Registry} {s : Service}
    (h : x.run s.registry = (o, r)) :
    (onRegistry x).run s = (o.rename .registry (fun a => a), { s with registry := r }) := by
  unfold onRegistry
  rw [run_within, h]
  rfl

theorem run_withIssuer {α : Type} (x : Issuer → Coordinator.Step α) (s : Service) :
    (withIssuer x).run s = (onTunnels (x s.issuer)).run s := rfl

theorem run_ensureKnown (id : EnvironmentId) (s : Service) :
    (ensureKnown id).run s =
      (if s.registry.contains id then .done () else .refused (.registry (.notFound id)), s) := by
  unfold ensureKnown
  rw [run_bind_done (run_view _ s)]
  cases s.registry.contains id <;> rfl

theorem run_attachJob (id : EnvironmentId) (job : Job) (s : Service) :
    (attachJob id job).run s = if s.registry.contains id then (.done (), { s with jobs := s.jobs.attach id job })
      else (.refused (.registry (.notFound id)), s) := by
  have hrun := run_ensureKnown id s
  unfold attachJob
  cases hk : s.registry.contains id with
  | true =>
    rw [hk] at hrun
    rw [run_bind_done hrun]
    rfl
  | false =>
    rw [hk] at hrun
    rw [run_bind_refused hrun]
    rfl

theorem keeps_attachJob {id : EnvironmentId} {job : Job}
    (h : ∀ s, I s → s.registry.contains id = true → I { s with jobs := s.jobs.attach id job }) :
    Keeps I (attachJob id job) := by
  intro s hs
  rw [run_attachJob]
  split
  · exact h s hs ‹_›
  · exact hs

theorem run_onRegistry_eq_done {α : Type} {x : Registry.Step α} {a : α} {s s' : Service}
    (h : (onRegistry x).run s = (.done a, s')) :
    ∃ r, x.run s.registry = (.done a, r) ∧ s' = { s with registry := r } := by
  unfold onRegistry at h
  rw [run_within] at h
  obtain ⟨ho, hs⟩ := Prod.mk.inj h
  obtain ⟨b, hb, rfl⟩ := Outcome.rename_eq_done_iff.1 ho
  exact ⟨_, Prod.ext hb rfl, hs.symm⟩

/-- What the steps on tunnels start from. -/
def coordinator (s : Service) : Coordinator := ⟨⟨s.registry.known, none⟩, s.board, s.jobs⟩

theorem run_onTunnels_eq_done {α : Type} {x : Coordinator.Step α} {a : α} {s s' : Service}
    (h : (onTunnels x).run s = (.done a, s')) :
    ∃ c, x.run s.coordinator = (.done a, c) ∧ s' = { s with board := c.board, jobs := c.jobs } := by
  unfold onTunnels at h
  rw [run_within] at h
  obtain ⟨ho, hs⟩ := Prod.mk.inj h
  obtain ⟨b, hb, rfl⟩ := Outcome.rename_eq_done_iff.1 ho
  exact ⟨_, Prod.ext hb rfl, hs.symm⟩

/-- An answered poll is one of an environment that the edge id belongs to. Its contact is recorded, its tunnel
moved on, and what the tunnel and its jobs are then is told. -/
theorem answered_poll {edgeId : String} {agent : Option Agent} {a : PollAnswer} {s s' : Service}
    (h : (poll now edgeId agent).run s = (.done a, s')) :
    ∃ (e : Environment) (s₁ s₂ : Service) (d : TunnelDetails),
      s.registry.owner? edgeId = some a.environmentId ∧
      (onRegistry (Registry.recordPoll now a.environmentId agent)).run s = (.done e, s₁) ∧
      (onTunnels (advanceTunnel now a.environmentId)).run s₁ = (.done (), s₂) ∧
      (onTunnels (Coordinator.details now a.environmentId)).run s₂ = (.done d, s') ∧
      a.status = d.status ∧ a.credentials = d.credentials ∧
      a.schedules = d.jobs.map (·.scheduleFor a.environmentId) := by
  unfold poll at h
  rw [run_bind_done (run_view _ s)] at h
  cases howner : s.registry.owner? edgeId with
  | none =>
    rw [howner] at h
    cases h
  | some id =>
    rw [howner] at h
    obtain ⟨e, s₁, hrecord, h⟩ := run_bind_eq_done h
    obtain ⟨_, s₂, hadvance, h⟩ := run_bind_eq_done h
    obtain ⟨d, s₃, hdetails, h⟩ := run_bind_eq_done h
    rw [run_bind_done (run_view _ s₃)] at h
    obtain ⟨ha, rfl⟩ := Prod.mk.inj h
    cases ha
    rw [run_renamed] at hrecord
    obtain ⟨ho, hs₁⟩ := Prod.mk.inj hrecord
    obtain ⟨_, he, rfl⟩ := Outcome.rename_eq_done_iff.1 ho
    exact ⟨_, s₁, s₂, d, rfl, Prod.ext he hs₁, hadvance, hdetails, rfl, rfl, rfl⟩

/-- A service over a fresh database. -/
def overFresh (issuer : Issuer) : Service :=
  assemble (.blank (.clear .fresh)) .standard 300 issuer ⟨"api", "tunnel", "key"⟩

/-- An environment of an edge kind that brings an edge id. -/
def edge (id : EnvironmentId) (edgeId : String) : Environment :=
  { Environment.fresh "edge" .edgeAgentOnDocker with id, edgeId := some edgeId }

namespace CoreClosed

variable (hI : CoreClosed I)
include hI

theorem get (id : EnvironmentId) : Keeps I (Service.get id) := by
  refine (hI.registry (fun _ => Registry.keeps_leads_get? id)).bind (fun e? => ?_)
  cases e? with
  | none => exact keeps_refuse _
  | some e => exact keeps_pure e

theorem updateSettings (now : Instant) (settings : Settings) : Keeps I (Service.updateSettings now settings) := by
  refine (keeps_onSettings hI.store (fun _ => Database.keeps_updateSettingsAt (fun _ hd => hd) now settings)).bind
    (fun _ => ?_)
  exact keeps_change (fun s hs => hI.settings settings hs)

/-- What the registry and the settings keep is kept by every event that is not on tunnels or jobs or taken by
itself. -/
theorem step (now : Instant) {event : Event} (hp : event.IsPlain) (hj : ¬ event.OnJobs) (ht : ¬ event.OnTunnels) :
    Keeps I (event.step now) := by
  cases event with
  | create | delete | restart => exact hp.elim
  | attachJob | detachJob | acknowledgeJob => exact absurd trivial hj
  | poll | recordActivity | requireTunnel | stopTunnel | await | coordinate => exact absurd trivial ht
  | get id => exact (hI.get id).ignored
  | list => exact (hI.registry (fun _ => Registry.keeps_leads_list)).ignored
  | update id e => exact (hI.registry (fun _ => Registry.keeps_leads_update id e)).ignored
  | updateSettings settings => exact hI.updateSettings now settings
  | rebuild => exact hI.registry (fun _ => Registry.keeps_leads_rebuild)
  | refuseNext method error => exact keeps_change (fun s hs => hI.store hs rfl)

end CoreClosed

namespace PartlyClosed

variable (hI : PartlyClosed I)
include hI

theorem onTunnels {α : Type} {x : Coordinator.Step α} (hx : ∀ issuer, Coordinator.Moves issuer x) :
    Keeps I (Service.onTunnels x) :=
  hI.tunnels (x := fun _ => x) hx

theorem details (now : Instant) (id : EnvironmentId) : Keeps I (Service.onTunnels (Coordinator.details now id)) :=
  hI.onTunnels (fun issuer => .of_ignored (Coordinator.moves_step issuer now (.details id)))

theorem poll (now : Instant) (edgeId : String) (agent : Option Agent) : Keeps I (Service.poll now edgeId agent) := by
  unfold Service.poll
  refine (keeps_view _).bind (fun owner => ?_)
  cases owner with
  | none => exact keeps_refuse _
  | some id =>
    refine ((hI.registry (fun _ => Registry.keeps_leads_recordPoll now id agent)).renamed _).bind (fun e => ?_)
    refine (hI.onTunnels (moves_advanceTunnel · now id)).bind (fun _ => ?_)
    refine (hI.details now id).bind (fun d => ?_)
    exact (keeps_view _).bind (fun _ => keeps_pure _)

theorem recordActivity (now : Instant) (id : EnvironmentId) : Keeps I (Service.recordActivity now id) := by
  refine (keeps_view _).bind (fun seconds => ?_)
  exact hI.onTunnels (fun issuer => .of_ignored (Coordinator.moves_step issuer now (.keepAlive id seconds)))

theorem requireTunnel (now : Instant) (id : EnvironmentId) : Keeps I (Service.requireTunnel now id) := by
  refine (hI.tunnels (fun issuer => Coordinator.moves_step issuer now (.require id))).bind (fun _ => ?_)
  exact hI.details now id

theorem await (now : Instant) (id : EnvironmentId) : Keeps I (Service.await now id) := by
  refine (hI.get id).bind (fun e => (keeps_view _).bind (fun settings => ?_))
  refine (hI.tunnels (fun issuer => Coordinator.moves_step issuer now (.await id))).bind (fun _ => ?_)
  exact keeps_pure _

/-- What the parts keep is kept by every event but those on jobs and those that are taken one by one. -/
theorem step (now : Instant) {event : Event} (hp : event.IsPlain) (hj : ¬ event.OnJobs) : Keeps I (event.step now) := by
  cases event with
  | poll edgeId agent => exact (hI.poll now edgeId agent).ignored
  | recordActivity id => exact (hI.recordActivity now id).ignored
  | requireTunnel id => exact (hI.requireTunnel now id).ignored
  | stopTunnel id => exact hI.onTunnels (fun issuer => Coordinator.moves_step issuer now (.stop id))
  | await id => exact (hI.await now id).ignored
  | coordinate call => exact hI.tunnels (fun issuer => Coordinator.moves_step issuer now call)
  | _ => exact hI.toCoreClosed.step now hp hj id

end PartlyClosed

namespace Closed

variable (hI : Closed I)
include hI

theorem attachJob (id : EnvironmentId) (job : Job) : Keeps I (Service.attachJob id job) := by
  refine keeps_attachJob (fun s hs hk => hI.jobs hs (fun i hi => ?_))
  rw [JobBoard.contains_attach, Bool.or_eq_true, decide_eq_true_eq] at hi
  rcases hi with rfl | hi
  · exact .inr hk
  · exact .inl hi

theorem detachJob (job : JobId) : Keeps I (Service.detachJob job) := by
  exact keeps_change (fun s hs => hI.jobs hs (fun i hi => .inl (JobBoard.contains_of_detach hi)))

theorem acknowledgeJob (id : EnvironmentId) (job : JobId) : Keeps I (Service.acknowledgeJob id job) := by
  intro s hs
  exact hI.jobs hs (fun i hi => .inl (JobBoard.contains_of_acknowledge hi))

/-- What the parts keep is kept by every event but those that are taken one by one. -/
theorem step (now : Instant) {event : Event} (hp : event.IsPlain) : Keeps I (event.step now) := by
  cases event with
  | attachJob id job => exact hI.attachJob id job
  | detachJob job => exact hI.detachJob job
  | acknowledgeJob id job => exact (hI.acknowledgeJob id job).ignored
  | _ => exact hI.toPartlyClosed.step now hp id

/-- What has nothing to do with the registry is kept by every event, if the deletion of an environment keeps it
beside the registry, and so does beginning anew. -/
theorem step_of_beside (hregistry : ∀ {α : Type} (x : Registry.Step α), Keeps I (onRegistry x))
    (hdelete : ∀ {s} id, I s → I { s with board := s.board.drop id, jobs := s.jobs.forget id })
    (hrestart : ∀ {s}, I s → I s.restarted) (now : Instant) (event : Event) : Keeps I (event.step now) := by
  cases event with
  | create e => exact (keeps_create hregistry e).ignored
  | delete id => exact (hregistry _).bind (fun _ => keeps_change (fun s hs => hdelete id hs))
  | restart =>
    intro s hs
    have hfresh := hI.toCoreClosed.start hregistry _ (hrestart hs)
    rw [Event.step, snd_run_ignored, run_restart]
    -- A start that fails leaves the old service over the store as it is then.
    have hstore : ∀ g, I (s.withStore g) := fun g => hregistry (change (fun r => { r with store := g })) s hs
    rcases hr : start.run s.restarted with ⟨_ | _ | _, fresh⟩ <;> rw [hr] at hfresh
    · exact hfresh
    · exact hstore _
    · exact hstore _
  | _ =>
    apply hI.step now
    trivial

end Closed

end Service

end EdgeFleet
