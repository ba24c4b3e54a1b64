import EdgeFleet.Proofs.Creation
import EdgeFleet.Proofs.Separation
/-!
# Environments that are deleted

Events about one environment keep the service as it is for all others. So when the environment is deleted
in the end, the rows, the indices, the tunnels and the jobs are again what they were before it was created;
and so is the pool, unless a port of the environment was stranded on the way.
-/

namespace EdgeFleet

namespace Service

open Attempt

variable {s s₀ s₂ s₃ u : Service} {id : EnvironmentId} {calm : Prop} {t : EnvironmentTable} {e : Environment}
  {events : List (Instant × Event)}

/-! ## Creation and deletion -/

/-- Rows of other environments were there before. -/
theorem contains_rows_of_agreeBut (h : s.registry.AgreeBut id u.registry)
    (hd : s.registry.store.database.environments = some t)
    {n : Int} (hn : n ≠ id.number.toInt) (hrow : u.rows.contains n = true) : s.rows.contains n = true := by
  cases hu : u.registry.store.database.environments with
  | none =>
    unfold rows at hrow
    rw [hu] at hrow
    cases hrow
  | some v =>
    rw [rows_of_environments hu] at hrow
    rw [rows_of_environments hd]
    unfold Table.contains at hrow ⊢
    rwa [(h.database v hu t hd).row hn] at hrow

theorem rows_withStore {g : Gateway} (hg : g.database = s.registry.store.database) : (s.withStore g).rows = s.rows :=
  congrArg (fun d => (d.environments.map EnvironmentTable.rows).getD ∅) hg

/-- Only the row that is put can be one that was not there. -/
theorem toInt_eq_of_put {g : Gateway} {n : Int} {row : EnvironmentRow}
    (hd : s.registry.store.database.environments = some t)
    (hg : g.database = s.registry.store.database.withTable (t.put n row))
    (hnew : s.rows.contains id.number.toInt = false)
    (hrow : (s.withStore g).rows.contains id.number.toInt = true) : id.number.toInt = n := by
  have hput : (s.withStore g).registry.store.database.environments = some (t.put n row) := by
    change g.database.environments = _
    rw [hg]
    rfl
  rw [rows_of_environments hd] at hnew
  rw [rows_of_environments hput, EnvironmentTable.put, Table.contains_insert, hnew] at hrow
  simpa using hrow

/-- The registry after a creation under an id that had no row differs at most in that environment, whether
the creation was done, refused or cut off after it stored the row. -/
theorem agreeBut_registry_create (hcount : Stores (Database.Has (fun t => 0 ≤ t.sequence)) s)
    (hnew : s.rows.contains id.number.toInt = false)
    (hrow : ((create e).run s).2.rows.contains id.number.toInt = true) :
    id.isAssigned = true ∧ (∃ t, s.registry.store.database.environments = some t) ∧
      s.registry.AgreeBut id ((create e).run s).2.registry := by
  have he := Registry.entering s.registry e
  unfold create at hrow ⊢
  rcases hr : (Registry.create e).run s.registry with ⟨o, r⟩
  rw [hr] at he
  cases he with
  | @refused err g hg =>
    rw [run_bind_refused (run_onRegistry hr)] at hrow
    have hbefore : (s.withStore g).rows.contains id.number.toInt = true := hrow
    rw [rows_withStore hg, hnew] at hbefore
    cases hbefore
  | cutOff hd hx hn hfree hc hg =>
    rw [run_bind_crashed (run_onRegistry hr)] at hrow ⊢
    have hid := toInt_eq_of_put hd hg hnew hrow
    exact ⟨EnvironmentId.isAssigned_iff.2 (by omega), ⟨_, hd⟩, Registry.agreeBut_put hd (by rwa [hid])⟩
  | unread hd ha hn hmost hg =>
    rw [run_bind_refused (run_onRegistry hr)] at hrow
    have hid := toInt_eq_of_put hd hg hnew hrow
    exact absurd hmost (Int.not_lt.2 (Int.le_of_lt_add_one (hid ▸ id.number.toInt_lt)))
  | @entered t i g hd hid hn hfree hc howner hg hrefusals =>
    have ha := Database.isAssigned_of_idFor? hid (hcount t hd)
    have hentered : s.registry.AgreeBut i ((s.registry.withStore g).enterNew { e.normalize with id := i }) :=
      (Registry.agreeBut_put hd hg).enterNew rfl (fun k hk => howner k (e.boundEdgeId?_normalize ▸ hk))
    rw [run_bind_done (run_onRegistry hr)] at hrow ⊢
    have hrest : Keeps (fun u => s.registry.AgreeBut i u.registry)
        (if e.normalize.kind.isEdge ∧ e.normalize.edgeKey = "" then do
          let key ← Attempt.view (·.keyFor i)
          onRegistry (Registry.update i { { e.normalize with id := i } with edgeKey := key })
        else pure { e.normalize with id := i } : Step Environment) := by
      split
      · refine (keeps_view _).bind (fun key => ?_)
        exact (Registry.keeps_agreeBut_update ha _).within (fun _ h => h) (fun _ _ _ h => h) _
      · exact keeps_pure _
    have hagree := hrest { s with registry := (s.registry.withStore g).enterNew { e.normalize with id := i } } hentered
    -- The id that was given is the one that has a row now.
    have hsame : id = i := by
      by_contra hne
      have hbefore := contains_rows_of_agreeBut hagree hd (fun h => hne (EnvironmentId.toInt_inj.1 h)) hrow
      rw [hnew] at hbefore
      cases hbefore
    exact ⟨hsame ▸ ha, ⟨t, hd⟩, hsame ▸ hagree⟩

/-- A creation leaves the tunnels, the jobs and the issuer. -/
theorem create_beside (e : Environment) (s : Service) :
    Keeps (fun u => u.board = s.board ∧ u.jobs = s.jobs ∧ u.issuer = s.issuer) (create e) :=
  keeps_create (fun _ _ h => h) e

/-- What a deletion that is done does. -/
theorem of_run_delete (h : (delete id).run s = (.done (), u)) :
    ∃ t g, s.registry.store.database.environments = some t ∧
      g.database = s.registry.store.database.withTable (t.without id) ∧
      u = { s with
        registry := (s.registry.withStore g).forget id
        board := s.board.drop id
        jobs := s.jobs.forget id } := by
  unfold delete at h
  obtain ⟨_, v, hv, h⟩ := run_bind_eq_done h
  rcases hr : (Registry.delete id).run s.registry with ⟨o, r⟩
  rw [run_onRegistry hr] at hv
  cases o with
  | refused | crashed => cases hv
  | done =>
    cases hv
    cases h
    unfold Registry.delete at hr
    obtain ⟨_, r', hr', hr⟩ := run_bind_eq_done hr
    cases hr
    rcases Registry.run_onStoreAs .ofStore .delete (Database.delete id) s.registry with
      ⟨err, g, hg, hcall⟩ | ⟨g, hg, hcall⟩
    · cases hr'.symm.trans hcall
    · have hcall' := hr'.symm.trans hcall
      cases ht : s.registry.store.database.environments with
      | none =>
        have hrefused : (Database.delete id).run s.registry.store.database = _ :=
          run_bind_refused (Database.run_environmentTable_of_none ht .execution)
        rw [hrefused] at hcall'
        cases hcall'
      | some t =>
        rw [Database.run_delete ht] at hcall' hg
        split at hcall'
        · rename_i hid
          rw [if_pos hid] at hg
          cases hcall'
          exact ⟨t, g, rfl, hg, rfl⟩
        · cases hcall'

/-! ## An environment that comes and goes -/

/-- Nothing is kept for an environment that is not known. -/
theorem Consistent.nothing_of_not_known (hs : s.Consistent) (hid : s.registry.contains id = false) :
    s.registry.heartbeat? id = none ∧ s.board.tunnel? id = none ∧ s.board.pool.port? id = none ∧
      s.jobs.queues.get? id = none := by
  have hrow : s.rows.contains id.number.toInt = false := (hs.known id).symm.trans hid
  have hheard := hs.heard id
  have hheld : ¬ s.Holds id := fun hc => by
    have hrow' := hs.held id hc
    rw [hrow] at hrow'
    cases hrow'
  rw [hrow] at hheard
  refine ⟨by simpa using hheard, ?_, ?_, ?_⟩
  · exact Option.not_isSome_iff_eq_none.1 (fun hc => hheld (.inl (.inl hc)))
  · exact Option.not_isSome_iff_eq_none.1 (fun hc => hheld (.inl (.inr hc)))
  · exact Option.not_isSome_iff_eq_none.1 (fun hc => hheld (.inr hc))

/-- Whether two services keep the same rows, indices, tunnels and jobs. The counter of ids and the pool of ports
are left out. -/
structure Alike (s u : Service) : Prop where
  rows : u.rows = s.rows
  edgeIndex : u.registry.edgeIndex = s.registry.edgeIndex
  known : u.registry.known = s.registry.known
  heartbeats : u.registry.heartbeats = s.registry.heartbeats
  tunnels : u.board.tunnels = s.board.tunnels
  jobs : u.jobs = s.jobs

/-- A service in which an environment was not known is like a later one that differs from it in that environment
at most, once the environment is deleted there. -/
theorem alike_of_agreeBut (ht : s.registry.store.database.environments = some t) (hs : s.Consistent)
    (hid : s.registry.contains id = false) (h : AgreeBut id calm s u) (hdelete : (delete id).run u = (.done (), s₃)) :
    s.Alike s₃ := by
  obtain ⟨t', g, ht', hg, rfl⟩ := of_run_delete hdelete
  obtain ⟨hheard, htunnel, -, hqueue⟩ := hs.nothing_of_not_known hid
  have hrow : t.rows.contains id.number.toInt = false := by
    rw [← rows_of_environments ht, ← hs.known]
    exact hid
  have howner : ∀ k, s.registry.owner? k ≠ some id := fun k ho => by
    -- An edge id belongs to an environment that has a row.
    obtain ⟨-, row, hr, -⟩ := (hs.owner k id).1 ho
    rw [rows_of_environments ht, Table.contains_eq_false_iff.1 hrow] at hr
    cases hr
  have hrows : ((t'.without id).rows = t.rows) := (h.registry.database t' ht' t ht).rows_without hrow
  obtain ⟨hindex, hknown, hheartbeats⟩ := h.registry.forget_eq howner hheard hid
  refine ⟨?_, hindex, hknown, hheartbeats, h.board.tunnels_drop htunnel, h.jobs.forget_eq hqueue⟩
  have hg' : g.database.environments = some (t'.without id) := by
    rw [hg]
    rfl
  rw [rows_of_environments ht, rows_of_environments (t := t'.without id) hg', hrows]

/-- The pool after an environment is deleted: that of the earlier service, with one port more on loan where the
environment's port was stranded. -/
theorem pool_of_agreeBut (hnone : s.board.pool.port? id = none) (h : AgreeBut id calm s u) :
    (¬ u.board.Stranded id → (u.board.drop id).pool = s.board.pool) ∧
      (u.board.Stranded id → ∃ port,
        (u.board.drop id).pool = { s.board.pool with lent := s.board.pool.lent.insert id port }) := by
  have hagree : s.board.AgreeBut id (u.board.drop id) := h.board.trans (.drop u.board id)
  have hport := u.board.port?_drop id id
  constructor
  · intro hs
    refine PortPool.ext_port? hagree.range (fun i => ?_)
    by_cases hi : i = id
    · rw [hi, hnone, hport]
      split
      · rfl
      · rename_i hp
        exact Option.not_isSome_iff_eq_none.1 (fun hc => hs ⟨by simpa using hp, hc⟩)
    · exact hagree.port hi
  · rintro ⟨hp, hlent⟩
    obtain ⟨port, hlent⟩ := Option.isSome_iff_exists.1 hlent
    refine ⟨port, PortPool.ext_port? hagree.range (fun i => ?_)⟩
    change _ = (s.board.pool.lent.insert id port).get? i
    rw [Table.get?_insert_eq]
    split
    · rename_i hi
      rw [hi, hport, if_neg (by simp [hp]), hlent]
    · exact hagree.port ‹_›

/-- From a consistent service in which an environment is not known, after any creation that stores a row
under its id, any events that concern it alone, and a deletion that is done: the rows, the indices, the
tunnels and the jobs are what they were, and so is the pool unless a port of the environment was stranded.
That does not happen where credentials could be made at the instant of every event; where it does, the pool
lends one port to the environment that is gone. -/
theorem erased_of_run (hd : s₀.registry.store.database.Sound) {before : List (Instant × Event)}
    (hbefore : Run Event.step (fun _ _ _ => True) s₀ before s) (hs : s.Consistent)
    (hid : s.registry.contains id = false) (hrow : ((create e).run s).2.rows.contains id.number.toInt = true)
    (hevents : Run Event.step (fun u _ event => event.Concerns id u) ((create e).run s).2 events s₂)
    (hdelete : (delete id).run s₂ = (.done (), s₃)) :
    s.Alike s₃ ∧
    (¬ s₂.board.Stranded id → s₃.board.pool = s.board.pool) ∧
    (s₂.board.Stranded id → ∃ port, s.board.pool.port? id = none ∧
      s₃.board.pool = { s.board.pool with lent := s.board.pool.lent.insert id port }) ∧
    ((∀ op ∈ events, s.issuer.IssuesAt op.1) → ¬ s₂.board.Stranded id) := by
  have hcount : Stores (Database.Has (fun t => 0 ≤ t.sequence)) s :=
    stores_sequence_of_run hd hbefore
  have hnew : s.rows.contains id.number.toInt = false := (hs.known id).symm.trans hid
  obtain ⟨ha, ⟨t, ht⟩, hregistry⟩ := agreeBut_registry_create hcount hnew hrow
  obtain ⟨hboard, hjobs, hissuer⟩ := create_beside e s s ⟨rfl, rfl, rfl⟩
  have hcreated : ∀ calm, AgreeBut id calm s ((create e).run s).2 := fun calm =>
    ⟨hregistry, hboard ▸ .refl id s.board, fun i _ => by rw [hjobs], hissuer, fun _ hs => hboard ▸ hs⟩
  have hagree : AgreeBut id False s s₂ :=
    hevents.inv _ (hcreated False) (fun u now event hu hc => hu.step ha False.elim hc)
  obtain ⟨-, -, hnone, -⟩ := hs.nothing_of_not_known hid
  obtain ⟨-, g, -, -, hdeleted⟩ := of_run_delete hdelete
  obtain ⟨hkept, hlost⟩ := pool_of_agreeBut hnone hagree
  refine ⟨alike_of_agreeBut ht hs hid hagree hdelete, ?_, ?_, fun hissues hstranded => ?_⟩
  · rw [hdeleted]
    exact hkept
  · rw [hdeleted]
    intro hstranded
    obtain ⟨port, hp⟩ := hlost hstranded
    exact ⟨port, hnone, hp⟩
  · have hcalm : AgreeBut id True s s₂ :=
      (hevents.and_of_forall (P := fun now _ => s.issuer.IssuesAt now) hissues).inv _ (hcreated True)
        (fun u now event hu hc => hu.step ha (fun _ => hc.2) hc.1)
    obtain ⟨-, hlent⟩ := hcalm.stranded trivial hstranded
    rw [hnone] at hlent
    cases hlent

/-- A poll under an edge id of the environment concerns it. -/
theorem concerns_poll {edgeId : String} {agent : Option Agent} (h : s.registry.owner? edgeId = some id) :
    (Event.poll edgeId agent).Concerns id s :=
  fun _ hi => Option.some.inj (hi.symm.trans h)

/-- An environment that opens its tunnel, takes another edge id and is given a job leaves nothing beside one
that was there before and has an open tunnel itself. -/
theorem erased_after_use : ∃ s s₂ s₃,
    Run Event.step (fun _ _ _ => True) (overFresh Coordinator.hourly)
      [(.ofSeconds 10, .create (edge ⟨8⟩ "B")), (.ofSeconds 20, .coordinate (.activate ⟨8⟩))] s ∧
    s.board.status ⟨8⟩ = .active ∧
    Run Event.step (fun u _ event => event.Concerns ⟨7⟩ u) ((create (edge ⟨7⟩ "A")).run s).2
      [(.ofSeconds 30, .requireTunnel ⟨7⟩), (.ofSeconds 40, .poll "A" none),
        (.ofSeconds 50, .update ⟨7⟩ (edge ⟨7⟩ "C")),
        (.ofSeconds 60, .attachJob ⟨7⟩ (.fresh ⟨1⟩ "job" "* * * * *" 0))] s₂ ∧
    s₂.registry.owner? "C" = some ⟨7⟩ ∧ s₂.board.status ⟨7⟩ = .active ∧ s₂.jobs.queues.contains ⟨7⟩ = true ∧
    (delete ⟨7⟩).run s₂ = (.done (), s₃) ∧
    s.Alike s₃ ∧ s₃.board.pool = s.board.pool := by
  have hcreate : Event.Harmless (overFresh Coordinator.hourly) (.ofSeconds 10) (.create (edge ⟨8⟩ "B")) :=
    ⟨Event.fits_of_keys (by decide +kernel), fun hb => absurd hb.1 (by decide)⟩
  have hone := (sound_overFresh.step hcreate.1).1 hcreate.2
  obtain ⟨s, hbefore, hs, hactive, hissuer, hid, hrow, s₂, hevents, howner, hstatus, hjobs, hdelete⟩ : ∃ s,
      Run Event.step (fun _ _ _ => True) (overFresh Coordinator.hourly)
        [(.ofSeconds 10, .create (edge ⟨8⟩ "B")), (.ofSeconds 20, .coordinate (.activate ⟨8⟩))] s ∧
      s.Sound ∧ s.board.status ⟨8⟩ = .active ∧ s.issuer = Coordinator.hourly ∧ s.registry.contains ⟨7⟩ = false ∧
      ((create (edge ⟨7⟩ "A")).run s).2.rows.contains 7 = true ∧ ∃ s₂,
      Run Event.step (fun u _ event => event.Concerns ⟨7⟩ u) ((create (edge ⟨7⟩ "A")).run s).2
        [(.ofSeconds 30, .requireTunnel ⟨7⟩), (.ofSeconds 40, .poll "A" none),
          (.ofSeconds 50, .update ⟨7⟩ (edge ⟨7⟩ "C")),
          (.ofSeconds 60, .attachJob ⟨7⟩ (.fresh ⟨1⟩ "job" "* * * * *" 0))] s₂ ∧
      s₂.registry.owner? "C" = some ⟨7⟩ ∧ s₂.board.status ⟨7⟩ = .active ∧ s₂.jobs.queues.contains ⟨7⟩ = true ∧
      ((delete ⟨7⟩).run s₂).1 = .done () := by
    refine ⟨_, (Run.nil.snoc _ _ trivial).snoc _ _ trivial, ?_, by decide +kernel, by decide +kernel, by decide +kernel,
      by decide +kernel, _,
      (((Run.nil.snoc _ _ rfl).snoc _ _ (concerns_poll (by decide +kernel))).snoc _ _ rfl).snoc _ _ rfl,
      by decide +kernel, by decide +kernel, by decide +kernel, by decide +kernel⟩
    exact (hone.step (Event.fits_of_keys (by decide +kernel))).1 (fun hb => hb)
  have hfresh : (overFresh Coordinator.hourly).registry.store.database.Sound := Database.sound_fresh
  obtain ⟨halike, hpool, -, hcalm⟩ :=
    erased_of_run hfresh hbefore hs.consistent hid hrow hevents (Prod.ext hdelete rfl)
  have hissues : ∀ op ∈ [(Instant.ofSeconds 30, Event.requireTunnel ⟨7⟩), (.ofSeconds 40, .poll "A" none),
      (.ofSeconds 50, .update ⟨7⟩ (edge ⟨7⟩ "C")), (.ofSeconds 60, .attachJob ⟨7⟩ (.fresh ⟨1⟩ "job" "* * * * *" 0))],
      s.issuer.IssuesAt op.1 := by
    rw [hissuer]
    decide +kernel
  exact ⟨s, s₂, _, hbefore, hactive, hevents, howner, hstatus, hjobs, Prod.ext hdelete rfl, halike,
    hpool (hcalm hissues)⟩

/-- A request that is cut off before the epoch leaves a port lent to an environment that is deleted then. -/
theorem port_kept_past_deletion : ∃ s₁ s₂ s₃,
    (overFresh Coordinator.hourly).Consistent ∧ (overFresh Coordinator.hourly).registry.contains ⟨7⟩ = false ∧
    (create { Environment.fresh "edge" .docker with id := ⟨7⟩ }).run (overFresh Coordinator.hourly) =
      (.done { Environment.fresh "edge" .docker with id := ⟨7⟩ }, s₁) ∧
    Run Event.step (fun u now event => event.Concerns ⟨7⟩ u ∧ (now.plus? Coordinator.hourly.validity).isSome = true) s₁
      [(.ofSeconds 10, .coordinate (.activate ⟨7⟩)), (.ofSeconds 20, .stopTunnel ⟨7⟩),
        (.ofSeconds (-1), .requireTunnel ⟨7⟩)] s₂ ∧
    (delete ⟨7⟩).run s₂ = (.done (), s₃) ∧
    (overFresh Coordinator.hourly).board.pool.port? ⟨7⟩ = none ∧ (s₃.board.pool.port? ⟨7⟩).isSome = true ∧
    s₃.board.pool.available + 1 = (overFresh Coordinator.hourly).board.pool.available := by
  have hcreate : ((create { Environment.fresh "edge" .docker with id := ⟨7⟩ }).run (overFresh Coordinator.hourly)).1 =
      .done { Environment.fresh "edge" .docker with id := ⟨7⟩ } := by decide +kernel
  refine ⟨_, _, _, sound_overFresh.consistent, by decide +kernel, Prod.ext hcreate rfl,
    ((Run.nil.snoc _ _ ⟨rfl, by decide⟩).snoc _ _ ⟨rfl, by decide⟩).snoc _ _ ⟨rfl, by decide⟩,
    Prod.ext ?_ rfl, ?_, ?_, ?_⟩
  · decide +kernel
  · decide +kernel
  · decide +kernel
  · decide +kernel

end Service

end EdgeFleet
