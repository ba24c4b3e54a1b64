import EdgeFleet.Proofs.Accounting
import EdgeFleet.Proofs.Service
/-!
# The parts of the service agree

Rows, edge ids, known environments, contacts, tunnels, ports and queues of jobs are kept apart, and
several of them change in one operation. A service is `Sound` when its registry stands over its table and
nothing is kept for an environment that is not known; what that comes to is `Consistent`. Every event
keeps it but two: the creation of an environment under a negative id, which is cut off after the row was
stored, and the deletion of an environment whose port is lent while its tunnel holds none.
-/

namespace EdgeFleet

namespace TunnelBoard

variable {issuer : Issuer} {known : EnvironmentId → Bool} {strands : Prop} {b b' : TunnelBoard}
  {id i : EnvironmentId} {t : Tunnel} {port : UInt16}

/-! ## What a board keeps for an environment -/

/-- Whether a tunnel is kept for an environment, or a port is lent to it. -/
def Holds (b : TunnelBoard) (id : EnvironmentId) : Prop :=
  (b.tunnel? id).isSome = true ∨ (b.pool.port? id).isSome = true

/-- Whether a port is lent to an environment while its tunnel holds none. -/
def Stranded (b : TunnelBoard) (id : EnvironmentId) : Prop :=
  (b.tunnel? id).bind Tunnel.port = none ∧ (b.pool.port? id).isSome = true

theorem not_holds_empty (range : PortRange) (keepAlive : Nat) (id : EnvironmentId) :
    ¬ (empty range keepAlive).Holds id := by
  rintro (h | h) <;> cases h

theorem isSome_port?_of_reserve? (hr : b.reserve? id t = some (port, b')) (hp : (b'.pool.port? i).isSome = true) :
    i = id ∨ (b.pool.port? i).isSome = true := by
  cases reserved hr with
  | held | lent => exact .inr hp
  | lends =>
    have hc : (decide (i = id) || b.pool.lent.contains i) = true :=
      (Table.contains_insert b.pool.lent i id port).symm.trans hp
    rwa [Bool.or_eq_true, decide_eq_true_eq] at hc

theorem holds_of_keep (h : (b.keep id t).Holds i) : i = id ∨ b.Holds i := by
  unfold Holds at h
  rw [tunnel?_keep] at h
  split at h
  · exact .inl ‹_›
  · exact .inr h

/-- After a drop nothing is kept for the environment, unless its port was stranded. -/
theorem holds_drop (b : TunnelBoard) (id i : EnvironmentId) :
    (b.drop id).Holds i ↔ if i = id then b.Stranded id else b.Holds i := by
  unfold Holds Stranded
  rw [tunnel?_drop, port?_drop]
  by_cases hi : i = id
  · cases hp : (b.tunnel? id).bind Tunnel.port <;> simp [hi]
  · simp [hi]

/-- Whatever is kept after a change was kept before, or its environment is known. -/
theorem Change.holds (hc : Change issuer known strands b b') (h : b'.Holds i) : b.Holds i ∨ known i = true := by
  -- Ports are lent only to environments whose tunnels are kept.
  have hreserve : ∀ {id t port c}, b.tunnel? id = some t → b.reserve? id t = some (port, c) →
      c.Holds i → b.Holds i := by
    intro id t port c ht hr hc
    rcases hc with hc | hc
    · exact .inl (tunnel?_of_reserve? hr ▸ hc)
    · rcases isSome_port?_of_reserve? hr hc with rfl | hc
      · exact .inl (by rw [ht]; rfl)
      · exact .inr hc
  have hkeep : ∀ {id t u} {c : TunnelBoard}, b.tunnel? id = some t → (c.Holds i → b.Holds i) →
      (c.keep id u).Holds i → b.Holds i := by
    intro id t c u ht hc hk
    rcases holds_of_keep hk with rfl | hk
    · exact .inl (by rw [ht]; rfl)
    · exact hc hk
  cases hc with
  | begin now hk ht =>
    rcases holds_of_keep h with rfl | h
    · exact .inr hk
    · exact .inl h
  | lend _ ht hr => exact .inl (hreserve ht hr h)
  | ask ht _ hr => exact .inl (hkeep ht (hreserve ht hr) h)
  | activate now seconds ht hr => exact .inl (hkeep ht (hreserve ht hr) h)
  | use now seconds ht hp => exact .inl (hkeep ht id h)
  | close id =>
    left
    rcases h with h | h
    · rw [tunnel?_close] at h
      split at h
      · rename_i hi
        rw [Option.isSome_map] at h
        exact .inl (hi ▸ h)
      · exact .inl h
    · rw [port?_close] at h
      split at h
      · cases h
      · exact .inr h
  | drop id =>
    left
    rw [holds_drop] at h
    split at h
    · rename_i hi
      exact .inr (hi ▸ h.2)
    · exact h
  | count => exact .inl h
  | setKeepAlive seconds => exact .inl h

theorem Changes.holds (hc : Changes issuer known strands b b') (h : b'.Holds i) : b.Holds i ∨ known i = true := by
  induction hc with
  | refl => exact .inl h
  | tail _ hs ih => exact (hs.holds h).elim ih .inr

end TunnelBoard

namespace Service

open Attempt

variable {s s₀ : Service} {t : EnvironmentTable} {id : EnvironmentId} {e : Environment} {now : Instant}

/-! ## Consistent services -/

def rows (s : Service) : Table Int EnvironmentRow :=
  (s.registry.store.database.environments.map EnvironmentTable.rows).getD ∅

/-- Whether anything is kept for an environment beside its row and the indices. -/
def Holds (s : Service) (id : EnvironmentId) : Prop := s.board.Holds id ∨ s.jobs.queues.contains id = true

/-- Whether the parts of the service agree. -/
structure Consistent (s : Service) : Prop where
  /-- An edge id belongs to the environment whose row carries it; an empty one belongs to none. -/
  owner : ∀ edgeId id, s.registry.owner? edgeId = some id ↔
    edgeId ≠ "" ∧ ∃ row, s.rows.get? id.number.toInt = some row ∧ row.edgeId = some edgeId
  row : ∀ n, s.rows.contains n = true → ∃ id : EnvironmentId, id.number.toInt = n
  known : ∀ id, s.registry.contains id = s.rows.contains id.number.toInt
  heard : ∀ id, (s.registry.heartbeat? id).isSome = s.rows.contains id.number.toInt
  /-- A tunnel, a port and a queue of jobs belong to an environment that has a row. -/
  held : ∀ id, s.Holds id → s.rows.contains id.number.toInt = true
  /-- A registry that is built from the rows has the same edge ids and knows the same environments. -/
  rebuilt : ∃ r, Registry.rebuild.run (.blank (.clear s.registry.store.database)) = (.done (), r) ∧
    r.edgeIndex = s.registry.edgeIndex ∧ r.known = s.registry.known

/-- Whether the registry stands over its table and nothing is kept for an environment that is not
known. -/
structure Sound (s : Service) : Prop where
  stands : ∃ t, s.registry.Over t
  held : ∀ id, s.Holds id → s.registry.contains id = true

theorem rows_of_environments (h : s.registry.store.database.environments = some t) : s.rows = t.rows := by
  unfold rows
  rw [h]
  rfl

theorem Sound.consistent (h : s.Sound) : s.Consistent := by
  obtain ⟨t, ht⟩ := h.stands
  have hrows := rows_of_environments ht.table
  refine ⟨fun edgeId id => ?_, fun n hn => ?_, fun id => ?_, fun id => ?_, fun id hid => ?_, ?_⟩
  · rw [ht.owner, hrows]
    constructor
    · intro he
      obtain ⟨row, hr, hrow⟩ := Option.bind_eq_some_iff.1 he
      exact ⟨ht.sound.edgeIdOf?_ne_empty he, row, hr, hrow⟩
    · rintro ⟨-, row, hr, hrow⟩
      exact Option.bind_eq_some_iff.2 ⟨row, hr, hrow⟩
  · rw [hrows] at hn
    obtain ⟨row, hr⟩ := Table.contains_iff.1 hn
    obtain ⟨id, -, -, hid, -⟩ := ht.sound.row hr
    exact ⟨id, hid⟩
  · rw [ht.known, hrows]
    rfl
  · rw [ht.heard, hrows]
    rfl
  · rw [hrows]
    exact (ht.known id).symm.trans (h.held id hid)
  · obtain ⟨r, hr, hover⟩ := Registry.run_rebuild_clear ht.table ht.sound
    obtain ⟨hindex, hknown⟩ := hover.indices_eq ht
    exact ⟨r, hr, hindex, hknown⟩

/-! ## What keeps a service sound -/

theorem Sound.withRegistry (h : s.Sound) {r : Registry} (hr : s.registry.Leads r) :
    ({ s with registry := r } : Service).Sound :=
  ⟨hr.1, fun id hid => hr.2 id (h.held id hid)⟩

theorem closed_sound : Closed Sound where
  registry hx s hs := hs.withRegistry (hx s.registry s.registry ⟨hs.stands, fun _ hi => hi⟩)
  tunnels {α x} hx s hs := by
    obtain ⟨hboard, hjobs⟩ := hx s.issuer ⟨⟨s.registry.known, none⟩, s.board, s.jobs⟩
    refine ⟨hs.stands, fun id hid => ?_⟩
    rcases hid with hid | hid
    · rcases hboard.holds hid with hid | hid
      · exact hs.held id (.inl hid)
      · exact hid
    · have hq : s.jobs.queues.contains id = true := (congrArg (·.queues.contains id) hjobs).symm.trans hid
      exact hs.held id (.inr hq)
  jobs {s jobs} hs hj := by
    refine ⟨hs.stands, fun id hid => ?_⟩
    rcases hid with hid | hid
    · exact hs.held id (.inl hid)
    · exact (hj id hid).elim (fun hid => hs.held id (.inr hid)) (fun hid => hid)
  settings settings hs := ⟨hs.stands, hs.held⟩
  store {s g} hs hg := by
    obtain ⟨t, ht⟩ := hs.stands
    exact ⟨⟨t, hg.trans ht.table, ht.sound, ht.owner, ht.known, ht.heard⟩, hs.held⟩

/-! ## Starting -/

/-- A start over a sound database leaves the environments there as they are, and where it succeeds the
service is sound. -/
theorem run_start (hd : s.registry.store.database.environments = some t) (h : t.Sound)
    (hheard : s.registry.heartbeats = ∅) (hheld : ∀ id, ¬ s.Holds id) :
    (start.run s).2.registry.store.database.environments = some t ∧
      ((start.run s).1 = .done () → (start.run s).2.Sound) := by
  have hblank : ∀ id, (s.registry.heartbeat? id).isSome = true → t.holds id = true := by
    intro id hid
    unfold Registry.heartbeat? at hid
    rw [hheard] at hid
    cases hid
  unfold start
  obtain ⟨g, hg, ⟨err, hr⟩ | ⟨r, hr, hover⟩⟩ := Registry.run_rebuild hd h hblank
  · rw [run_bind_refused (run_onRegistry hr)]
    exact ⟨(congrArg (·.environments) hg).trans hd, nofun⟩
  · rw [run_bind_done (run_onRegistry hr)]
    have hsound : ({ s with registry := r } : Service).Sound := ⟨⟨t, hover⟩, fun id hid => absurd hid (hheld id)⟩
    refine ⟨?_, fun _ => keeps_loadSettings closed_sound.store closed_sound.settings _ hsound⟩
    exact keeps_loadSettings (I := fun s => s.registry.store.database.environments = some t)
      (fun hs hg => hg.trans hs) (fun _ hs => hs) _ hover.table

/-- A service that keeps nothing beside its store. -/
theorem not_holds_assemble (registry : Registry) (range : PortRange) (keepAlive : Nat) (issuer : Issuer)
    (enrollment : EnrollmentConfig) (id : EnvironmentId) :
    ¬ (assemble registry range keepAlive issuer enrollment).Holds id := by
  rintro (h | h)
  · exact TunnelBoard.not_holds_empty range keepAlive id h
  · cases h

/-- A service over a fresh database is sound. -/
theorem sound_overFresh : (overFresh Coordinator.hourly).Sound := by
  have hfresh : (Gateway.clear .fresh).database.Sound := Database.sound_fresh
  obtain ⟨t, htable, ht⟩ := hfresh
  have hstart : start.run (overFresh Coordinator.hourly) = (.done (), overFresh Coordinator.hourly) := by decide +kernel
  have hs := run_start (s := overFresh Coordinator.hourly) htable ht rfl (not_holds_assemble _ _ _ _ _)
  rw [hstart] at hs
  exact hs.2 rfl

theorem Sound.restart (h : s.Sound) : (Service.restart.run s).2.Sound := by
  obtain ⟨t, ht⟩ := h.stands
  have hheld : ∀ id, ¬ s.restarted.Holds id := fun id hid =>
    not_holds_assemble (.blank s.registry.store) s.board.pool.range s.board.keepAlive s.issuer s.enrollment id hid
  obtain ⟨htable, hsound⟩ := run_start (s := s.restarted) ht.table ht.sound rfl hheld
  rw [run_restart]
  -- A start that fails leaves the old service, with the refusals that are used up.
  rcases hstart : start.run s.restarted with ⟨_ | _ | _, fresh⟩ <;> rw [hstart] at htable hsound
  · exact hsound rfl
  · exact closed_sound.store h (htable.trans ht.table.symm)
  · exact closed_sound.store h (htable.trans ht.table.symm)

/-! ## Creating and deleting -/

/-- Creating an environment over a table that the registry stands over. It is cut off only under a negative id,
and leaves a row then that the registry does not know. Else it keeps of the registry what is kept by a new
record, by storing that record again with an enrollment key, and by refusals. -/
theorem keeps_or_cuts_off_create {K : Registry → Prop} (ht : s.registry.Over t) (e : Environment)
    (hfits : ∀ n, ((Service.create e).run s).2.rows.contains n = true → n ≤ Decimal.signed32.most)
    (hstore : ∀ g, g.database = s.registry.store.database → K (s.registry.withStore g))
    (hnew : ∀ id g, id.isAssigned = true → t.holds id = false →
      t.collides id.number.toInt (.ofEnvironment e) = false →
      g.database.environments = some (t.put id.number.toInt (.ofEnvironment e)) →
      K ((s.registry.withStore g).enterNew { e.normalize with id }))
    (hupdate : ∀ id key, Keeps K (Registry.update id { e.normalize with id, edgeKey := key })) :
    (((Service.create e).run s).1 ≠ .crashed ∧ K ((Service.create e).run s).2.registry) ∨
      (((Service.create e).run s).1 = .crashed ∧ e.id.number.toInt < 0 ∧
        ((Service.create e).run s).2.registry.store.database.Sound ∧
        ((Service.create e).run s).2.rows.contains e.id.number.toInt = true ∧
        ((Service.create e).run s).2.registry.contains e.id = false) := by
  have hc := Registry.creating ht.table ht.sound e
  unfold Service.create at hfits ⊢
  rcases hr : (Registry.create e).run s.registry with ⟨o, r⟩
  rw [hr] at hc
  cases hc with
  | refused hg =>
    rw [run_bind_refused (run_onRegistry hr)]
    exact .inl ⟨nofun, hstore _ hg⟩
  | @unreadable err g n hn hg =>
    -- Such a row has an id of more than 32 bits.
    rw [run_bind_refused (run_onRegistry hr)] at hfits
    have hrow := hfits n (by
      rw [rows_of_environments hg]
      exact (Table.contains_insert _ _ _ _).trans (by simp))
    omega
  | cutOff hn hfree hc hg =>
    rw [run_bind_crashed (run_onRegistry hr)]
    refine .inr ⟨rfl, hn, ⟨_, hg, ht.sound.put (EnvironmentId.isAssigned_iff.2 (by omega)) hc⟩, ?_, ?_⟩
    · rw [rows_of_environments hg]
      exact (Table.contains_insert _ _ _ _).trans (by simp)
    · exact (ht.known e.id).trans hfree
  | @created i g hid hfree hc hg =>
    have hover := ht.enterNew hid hfree hc { e.normalize with id := i } rfl e.boundEdgeId?_normalize hg
    have hcreated := hnew i g hid hfree hc hg
    rw [run_bind_done (run_onRegistry hr)]
    left
    split
    · -- The enrollment key is stored by an update, and its failure does not undo the creation.
      rw [run_bind_done (run_view _ _)]
      refine ⟨fun hcrash => ?_, hupdate _ _ _ hcreated⟩
      exact Registry.update_ne_crashed hover.table hover.sound _ _ (Outcome.rename_eq_crashed_iff.1 hcrash)
    · exact ⟨nofun, hcreated⟩

/-- Creating an environment keeps a service sound unless the step is cut off. That takes a negative id,
and leaves a row that the registry does not know. -/
theorem Sound.create (h : s.Sound) (e : Environment)
    (hfits : ∀ n, ((Service.create e).run s).2.rows.contains n = true → n ≤ Decimal.signed32.most) :
    (((Service.create e).run s).1 ≠ .crashed ∧ ((Service.create e).run s).2.Sound) ∨
      (((Service.create e).run s).1 = .crashed ∧ e.id.number.toInt < 0 ∧
        ((Service.create e).run s).2.registry.store.database.Sound ∧
        ((Service.create e).run s).2.rows.contains e.id.number.toInt = true ∧
        ((Service.create e).run s).2.registry.contains e.id = false) := by
  obtain ⟨t, ht⟩ := h.stands
  have hleads := keeps_or_cuts_off_create (K := s.registry.Leads) ht e hfits
    (fun g hg => ⟨⟨t, ht.withStore hg⟩, fun _ hi => hi⟩)
    (fun id g hid hfree hc hg => by
      have hover := ht.enterNew hid hfree hc { e.normalize with id } rfl e.boundEdgeId?_normalize hg
      refine ⟨⟨_, hover⟩, fun j hj => ?_⟩
      rw [hover.known, EnvironmentTable.holds_put, ← ht.known, hj, Bool.or_true])
    (fun id key => Registry.keeps_leads_update _ _)
  have hrest : ∃ r, ((Service.create e).run s).2 = { s with registry := r } :=
    keeps_create (I := fun u => ∃ r, u = { s with registry := r })
      (fun x u ⟨_, hu⟩ => ⟨(x.run u.registry).2, by subst hu; rfl⟩) e s ⟨s.registry, rfl⟩
  refine hleads.imp_left (fun ⟨hcrash, hr⟩ => ⟨hcrash, ?_⟩)
  obtain ⟨r, hu⟩ := hrest
  rw [hu] at hr ⊢
  exact h.withRegistry hr

/-- Deleting an environment keeps a service sound, unless it leaves a stranded port. -/
theorem Sound.delete (h : s.Sound) (id : EnvironmentId) :
    (((Service.delete id).run s).2.Sound ∧ ¬ (((Service.delete id).run s).1 = .done () ∧ s.board.Stranded id)) ∨
      (((Service.delete id).run s).1 = .done () ∧ s.board.Stranded id ∧
        ((Service.delete id).run s).2.registry.store.database.Sound ∧
        ((Service.delete id).run s).2.Holds id ∧
        ((Service.delete id).run s).2.rows.contains id.number.toInt = false) := by
  obtain ⟨t, ht⟩ := h.stands
  have hd := Registry.deleting ht.table id
  unfold Service.delete
  rcases hr : (Registry.delete id).run s.registry with ⟨o, r⟩
  rw [hr] at hd
  cases hd with
  | refused hg =>
    rw [run_bind_refused (run_onRegistry hr)]
    exact .inl ⟨h.withRegistry ⟨⟨t, ht.withStore hg⟩, fun _ hi => hi⟩, nofun⟩
  | @deleted g hid hg =>
    rw [run_bind_done (run_onRegistry hr), run_change]
    have hover := ht.forget id hg
    -- Of what was kept for the environment only a stranded port can be left.
    have hholds : ∀ i, (({ s with
        registry := (s.registry.withStore g).forget id
        board := s.board.drop id
        jobs := s.jobs.forget id } : Service).Holds i ↔ if i = id then s.board.Stranded id else s.Holds i) := by
      intro i
      unfold Holds
      rw [TunnelBoard.holds_drop, JobBoard.contains_forget]
      by_cases hi : i = id <;> simp [hi]
    by_cases hs : s.board.Stranded id
    · refine .inr ⟨rfl, hs, ⟨_, hg, ht.sound.without id⟩, (hholds id).2 (by rwa [if_pos rfl]), ?_⟩
      rw [rows_of_environments hg]
      exact (t.holds_without id id).trans (by simp)
    · refine .inl ⟨⟨⟨_, hover⟩, fun i hi => ?_⟩, fun hs' => hs hs'.2⟩
      have hi' := (hholds i).1 hi
      rw [hover.known, EnvironmentTable.holds_without]
      split at hi'
      · exact absurd hi' hs
      · rename_i hne
        rw [← ht.known, h.held i hi']
        simp [hne]

/-! ## Runs of events -/

/-- Whether all ids have 32 bits after an event. -/
def Event.Fits (event : Event) (now : Instant) (s : Service) : Prop :=
  ∀ n, ((event.step now).run s).2.rows.contains n = true → n ≤ Decimal.signed32.most

theorem Event.fits_of_keys {event : Event}
    (h : ∀ n ∈ ((event.step now).run s).2.rows.keys, n ≤ Decimal.signed32.most) : event.Fits now s :=
  fun n hn => h n (Table.mem_keys_iff.2 hn)

/-- Whether an event leaves parts that disagree: it creates an environment under a negative id that the
store takes, or deletes one whose port is stranded. -/
def Event.Breaks (s : Service) : Event → Prop
  | create e => e.id.number.toInt < 0 ∧ ((Service.create e).run s).1 = .crashed
  | delete id => ((Service.delete id).run s).1 = .done () ∧ s.board.Stranded id
  | _ => False

/-- Whether an event can happen in a run whose parts agree. -/
def Event.Harmless (s : Service) (now : Instant) (event : Event) : Prop := event.Fits now s ∧ ¬ event.Breaks s

/-- An event keeps a service sound, unless it is one of the two that break it. -/
theorem Sound.step (h : s.Sound) {event : Event} (hfits : event.Fits now s) :
    (¬ event.Breaks s → ((event.step now).run s).2.Sound) ∧
      (event.Breaks s → ((event.step now).run s).2.registry.store.database.Sound ∧
        ¬ ((event.step now).run s).2.Consistent) := by
  cases event with
  | create e =>
    unfold Event.Fits at hfits
    rw [Event.step, snd_run_ignored] at hfits ⊢
    rcases h.create e hfits with ⟨hcrash, hs⟩ | ⟨hcrash, hneg, hd, hrow, hknown⟩
    · exact ⟨fun _ => hs, fun hb => absurd hb.2 hcrash⟩
    · refine ⟨fun hb => absurd ⟨hneg, hcrash⟩ hb, fun _ => ⟨hd, fun hc => ?_⟩⟩
      have hsame := hc.known e.id
      rw [hrow, hknown] at hsame
      cases hsame
  | delete id =>
    rw [Event.step]
    rcases h.delete id with ⟨hs, hb⟩ | ⟨hdone, hstranded, hd, hheld, hrow⟩
    · exact ⟨fun _ => hs, fun hb' => absurd hb' hb⟩
    · refine ⟨fun hb => absurd ⟨hdone, hstranded⟩ hb, fun _ => ⟨hd, fun hc => ?_⟩⟩
      have hsame := hc.held id hheld
      rw [hrow] at hsame
      cases hsame
  | restart =>
    rw [Event.step, snd_run_ignored]
    exact ⟨fun _ => h.restart, False.elim⟩
  | _ =>
    refine ⟨fun _ => closed_sound.step now ?_ s h, False.elim⟩
    trivial

theorem Sound.of_run (h : s₀.Sound) {events : List (Instant × Event)}
    (hrun : Run Event.step Event.Harmless s₀ events s) : s.Sound :=
  hrun.inv Sound h (fun _ _ _ hs ha => (hs.step ha.1).1 ha.2)

/-- From a start over a sound database, in every run in which ids keep to 32 bits and no event breaks it,
the parts of the service agree; and the next event ends that exactly if it is one that breaks it. The
database stays sound in any case. -/
theorem consistent_of_run {store : Gateway} {range : PortRange} {keepAlive : Nat} {issuer : Issuer}
    {enrollment : EnrollmentConfig} (hd : store.database.Sound)
    (hstart : start.run (assemble (.blank store) range keepAlive issuer enrollment) = (.done (), s₀))
    {events : List (Instant × Event)}
    (h : Run Event.step Event.Harmless s₀ events s) :
    s.Consistent ∧ ∀ (now : Instant) (event : Event), event.Fits now s →
      ((event.step now).run s).2.registry.store.database.Sound ∧
        (((event.step now).run s).2.Consistent ↔ ¬ event.Breaks s) := by
  obtain ⟨t, htable, ht⟩ := hd
  have hfirst : s₀.Sound := by
    have hs := run_start (s := assemble (.blank store) range keepAlive issuer enrollment) htable ht rfl
      (not_holds_assemble _ _ _ _ _)
    rw [hstart] at hs
    exact hs.2 rfl
  have hsound : s.Sound := h.inv Sound hfirst (fun s now event hs ha => (hs.step ha.1).1 ha.2)
  refine ⟨hsound.consistent, fun now event hfits => ?_⟩
  obtain ⟨hkeep, hbreak⟩ := hsound.step hfits
  by_cases hb : event.Breaks s
  · exact ⟨(hbreak hb).1, fun hc => absurd hc (hbreak hb).2, fun hn => absurd hb hn⟩
  · obtain ⟨t', ht'⟩ := (hkeep hb).stands
    exact ⟨⟨t', ht'.table, ht'.sound⟩, fun _ => hb, fun _ => (hkeep hb).consistent⟩

/-- An environment that is created, asked for its tunnel and polled is the one that the rows and every index
tell of. -/
theorem consistent_of_polled : ∃ s,
    Run Event.step Event.Harmless (overFresh Coordinator.hourly)
      [(.ofSeconds 10, .create (edge ⟨0⟩ "A")), (.ofSeconds 20, .requireTunnel ⟨1⟩),
        (.ofSeconds 30, .poll "A" none)] s ∧
    s.Consistent ∧ s.registry.owner? "A" = some ⟨1⟩ ∧ s.board.status ⟨1⟩ = .active := by
  have hcreate : Event.Harmless (overFresh Coordinator.hourly) (.ofSeconds 10) (.create (edge ⟨0⟩ "A")) :=
    ⟨Event.fits_of_keys (by decide +kernel), fun hb => absurd hb.1 (by decide)⟩
  obtain ⟨s, hrun, howner, hstatus⟩ : ∃ s, Run Event.step Event.Harmless (overFresh Coordinator.hourly)
      [(.ofSeconds 10, .create (edge ⟨0⟩ "A")), (.ofSeconds 20, .requireTunnel ⟨1⟩),
        (.ofSeconds 30, .poll "A" none)] s ∧
      s.registry.owner? "A" = some ⟨1⟩ ∧ s.board.status ⟨1⟩ = .active :=
    ⟨_, ((Run.nil.snoc _ _ hcreate).snoc _ _ ⟨Event.fits_of_keys (by decide +kernel), id⟩).snoc _ _
      ⟨Event.fits_of_keys (by decide +kernel), id⟩, by decide +kernel, by decide +kernel⟩
  have hstart : start.run (overFresh Coordinator.hourly) = (.done (), overFresh Coordinator.hourly) := by decide +kernel
  have hfresh : (Gateway.clear .fresh).database.Sound := Database.sound_fresh
  exact ⟨s, hrun, (consistent_of_run hfresh hstart hrun).1, howner, hstatus⟩

/-- Creating an environment under a negative id leaves a row that the registry does not know. -/
theorem negative_id_unknown : ∃ s,
    start.run (overFresh Coordinator.hourly) = (.done (), overFresh Coordinator.hourly) ∧
    Run Event.step (fun s now event => event.Fits now s) (overFresh Coordinator.hourly)
      [(.ofSeconds 10, .create (edge ⟨-5⟩ "A"))] s ∧
    s.rows.contains (-5) = true ∧ s.registry.contains ⟨-5⟩ = false ∧ s.registry.owner? "A" = none :=
  ⟨_, by decide +kernel, Run.nil.snoc _ _ (Event.fits_of_keys (by decide +kernel)), by decide +kernel,
    by decide +kernel, by decide +kernel⟩

end Service

end EdgeFleet
