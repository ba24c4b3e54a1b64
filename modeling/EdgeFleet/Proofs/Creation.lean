import EdgeFleet.Proofs.Consistency
import EdgeFleet.Proofs.Persistence
/-!
# Creations that are refused

A creation inserts the row of a record and enters it in the indices; a record of an edge kind without an
enrollment key is then read back and saved with one. Nothing that was done is taken back where a later part
is refused, so a refused creation leaves either nothing, or a row under an id that nobody can read, or a
record without its key (`RefusedCreation`).
-/

namespace EdgeFleet

namespace EnvironmentTable

variable {t : EnvironmentTable} {e : Environment} {id : EnvironmentId}

/-- A row with the edge id of one that was just put in its place collides with no other one. -/
theorem collides_put {n : Int} {row row' : EnvironmentRow} (hc : t.collides n row = false)
    (he : row'.edgeId = row.edgeId) : (t.put n row).collides n row' = false := by
  refine collides_eq_false_iff.2 (fun hi k hk m r hr hrk => ?_)
  by_contra hne
  rw [EnvironmentTable.put, Table.get?_insert_of_ne _ _ hne] at hr
  exact hne (collides_eq_false_iff.1 hc hi k (he ▸ hk) m r hr hrk)

theorem row?_put (t : EnvironmentTable) (id : EnvironmentId) (row : EnvironmentRow) :
    (t.put id.number.toInt row).row? id = some row :=
  Table.get?_insert_self t.rows id.number.toInt row

end EnvironmentTable

namespace Database

open Attempt

variable {d : Database} {t : EnvironmentTable} {e : Environment} {id : EnvironmentId}

/-- A record that has a row is saved over it. -/
theorem run_save_over {e' : Environment} (hd : d.environments = some t) (ha : e.id.isAssigned = true)
    (hrow : t.row? e.id = some (.ofEnvironment e')) (hc : t.collides e.id.number.toInt (.ofEnvironment e) = false) :
    (save e).run d = (.done e.stored, d.withTable (t.withRow e.id (.ofEnvironment e))) := by
  unfold save
  rw [if_pos ha, run_bind_done (run_record?_of_row hd hrow)]
  simp only [Option.isSome_some, if_true]
  rw [run_replace hd hrow, hc]
  rfl

end Database

namespace Registry

open Attempt

variable {r : Registry} {e : Environment} {id : EnvironmentId}

theorem enterNew_withStore (r : Registry) (e : Environment) (g g' : Gateway) :
    ((r.withStore g).enterNew e).withStore g' = (r.withStore g').enterNew e := by
  simp only [enterNew]
  cases e.boundEdgeId? <;> rfl

/-- The edge id of a record that was entered is no reason to refuse the record. -/
theorem conflict?_enterNew {e' : Environment} (r : Registry) (stored : Environment) (hid : stored.id = id)
    (hb : e'.boundEdgeId? = stored.boundEdgeId?) :
    (r.enterNew stored).conflict? e' (fun existing => existing = id) = none := by
  unfold conflict?
  cases hk : e'.boundEdgeId? with
  | none => rfl
  | some k =>
    have howner : (r.enterNew stored).owner? k = some id := by
      rw [owner?_enterNew, ← hb, hk, if_pos rfl, hid]
    simp [howner]

/-- A record that was entered just now is replaced by one with the same edge id, unless the gateway refuses
to read the one or to save the other: the edge id is its own in the index, and no other row has it. -/
theorem update_entered {t : EnvironmentTable} {g : Gateway} {stored e' : Environment} (r : Registry)
    (hg : g.database.environments = some t) (hrow : t.row? id = some (.ofEnvironment e)) (ha : id.isAssigned = true)
    (hs : stored.id = id) (hb : e'.boundEdgeId? = stored.boundEdgeId?)
    (hc : t.collides id.number.toInt (.ofEnvironment e') = false) :
    ((∃ err g', g'.database = g.database ∧
        (update id e').run ((r.withStore g).enterNew stored) = (.refused err, (r.withStore g').enterNew stored)) ∧
      ((g.refusals.lookup .environment).isSome = true ∨ (g.refusals.lookup .save).isSome = true)) ∨
    ∃ g' r', g' = { g with database := g.database.withTable (t.withRow id (.ofEnvironment e')) } ∧
      r' = ((((r.withStore g').enterNew stored).rebind id e.boundEdgeId? e'.boundEdgeId?).note id).seed id
        e'.lastCheckIn ∧
      (update id e').run ((r.withStore g).enterNew stored) = (.done (r'.overlay { e'.stored with id }), r') := by
  have hwith : ∀ g', ((r.withStore g).enterNew stored).withStore g' = (r.withStore g').enterNew stored :=
    r.enterNew_withStore stored g
  have hstore : ((r.withStore g).enterNew stored).store = g := store_enterNew _ _
  have hread := run_onStoreAs_eq .ofStore .environment (Database.environment? id) ((r.withStore g).enterNew stored)
  change (onStore (Gateway.environment? id)).run _ = _ at hread
  rw [hstore] at hread
  unfold update
  dsimp only
  cases hl : g.refusals.lookup .environment with
  | some err =>
    rw [hl] at hread
    dsimp only at hread
    rw [hwith] at hread
    exact .inl ⟨⟨_, { g with refusals := g.without .environment }, rfl, run_bind_refused hread⟩, .inl rfl⟩
  | none =>
    rw [hl, Database.run_environment?_of_row hg hrow] at hread
    dsimp only at hread
    rw [hwith] at hread
    rw [run_bind_done hread]
    dsimp only [Outcome.rename]
    -- What is saved is normalized first, which its row and its edge id do not show.
    generalize he : ({ e' with id } : Environment).normalize = e''
    have hid : e''.id = id := by rw [← he]; rfl
    have hbound : e''.boundEdgeId? = e'.boundEdgeId? := by
      rw [← he, Environment.boundEdgeId?_normalize]
      rfl
    have hrow' : EnvironmentRow.ofEnvironment e'' = .ofEnvironment e' := by
      rw [← he, EnvironmentRow.ofEnvironment_normalize]
      rfl
    have hconflict := (r.withStore g).conflict?_enterNew stored hs (hbound.trans hb)
    rw [run_bind_done (by rw [run_guard, hconflict])]
    have hsave := run_onStoreAs_eq .ofStore .save (Database.save e'') ((r.withStore g).enterNew stored)
    change (onStore (Gateway.save e'')).run _ = _ at hsave
    rw [hstore] at hsave
    cases hl' : g.refusals.lookup .save with
    | some err =>
      rw [hl'] at hsave
      dsimp only at hsave
      rw [hwith] at hsave
      exact .inl ⟨⟨_, { g with refusals := g.without .save }, rfl, run_bind_refused hsave⟩, .inr rfl⟩
    | none =>
      have hsaved := Database.run_save_over hg (by rwa [hid]) (by rwa [hid]) (by rwa [hid, hrow'])
      rw [hl', hsaved] at hsave
      dsimp only at hsave
      rw [hwith] at hsave
      rw [run_bind_done hsave, run_bind_done (run_change _ _), ← hbound]
      have hstored : e''.stored = { e'.stored with id } := by
        rw [← he, Environment.stored_normalize]
        rfl
      have hprevious : ({ e.stored with id } : Environment).boundEdgeId? = e.boundEdgeId? := e.boundEdgeId?_stored
      have hlast : e''.stored.lastCheckIn = e'.lastCheckIn := by
        rw [hstored]
        rfl
      rw [hid, hrow']
      refine .inr ⟨_, _, rfl, rfl, ?_⟩
      rw [← hstored, ← hprevious, ← hlast]
      rfl

end Registry

namespace Service

open Attempt

variable {s s' s₀ : Service} {e : Environment} {err : ServiceError}

/-! ## What a refused creation leaves -/

/-- What is left of a creation that was refused. -/
inductive RefusedCreation (s : Service) (e : Environment) : Service → Prop
  /-- Nothing is left but the refusals of the store, as far as they are used up. -/
  | kept {g : Gateway} (hg : g.database = s.registry.store.database) : RefusedCreation s e (s.withStore g)
  /-- The row is left, under the next id, which has more than 32 bits; the indices know nothing of it. -/
  | unread {t : EnvironmentTable} {n : Int} {g : Gateway} (hd : s.registry.store.database.environments = some t)
      (ha : e.id.isAssigned = false) (hn : t.nextId? = some n) (hmost : Decimal.signed32.most < n)
      (hg : g.database = s.registry.store.database.withTable (t.put n (.ofEnvironment e))) :
      RefusedCreation s e (s.withStore g)
  /-- The record of an edge kind is left, with its row and in every index, but without an enrollment key:
  the gateway was told to refuse the call that reads it back, or the one that saves it with its key. -/
  | keyless {t : EnvironmentTable} {id : EnvironmentId} {g : Gateway}
      (hd : s.registry.store.database.environments = some t) (hid : Database.idFor? t e = some id.number.toInt)
      (hfree : t.holds id = false) (hkind : e.kind.isEdge = true) (hkey : e.edgeKey = "")
      (hrefuses : (s.registry.store.refusals.lookup .environment).isSome = true ∨
        (s.registry.store.refusals.lookup .save).isSome = true)
      (hg : g.database = s.registry.store.database.withTable (t.put id.number.toInt (.ofEnvironment e))) :
      RefusedCreation s e { s with registry := (s.registry.withStore g).enterNew { e.normalize with id } }

theorem refusedCreation (hs : Stores (Database.Has (fun t => 0 ≤ t.sequence)) s)
    (h : (create e).run s = (.refused err, s')) : RefusedCreation s e s' := by
  have he := Registry.entering s.registry e
  unfold create at h
  rcases hr : (Registry.create e).run s.registry with ⟨o, r⟩
  rw [hr] at he
  cases he with
  | refused hg =>
    rw [run_bind_refused (run_onRegistry hr)] at h
    cases h
    exact .kept hg
  | cutOff =>
    rw [run_bind_crashed (run_onRegistry hr)] at h
    cases h
  | unread hd ha hn hmost hg =>
    rw [run_bind_refused (run_onRegistry hr)] at h
    cases h
    exact .unread hd ha hn hmost hg
  | @entered t id g hd hid hn hfree hc howner hg hrefusals =>
    rw [run_bind_done (run_onRegistry hr)] at h
    dsimp only at h
    split at h
    · rename_i hkeyless
      have ha := Database.isAssigned_of_idFor? hid (hs t hd)
      rw [run_bind_done (run_view _ _)] at h
      have hcollides : ∀ key, (t.put id.number.toInt (.ofEnvironment e)).collides id.number.toInt
          (.ofEnvironment { e.normalize with id, edgeKey := key }) = false :=
        fun key => EnvironmentTable.collides_put hc e.boundEdgeId?_normalize
      rcases Registry.update_entered s.registry (by rw [hg]; rfl) (t.row?_put id _) ha rfl rfl
          (hcollides (keyFor { s with registry := (s.registry.withStore g).enterNew { e.normalize with id } } id))
        with ⟨⟨err', g', hg', hu⟩, hrefuses⟩ | ⟨g', r', -, -, hu⟩
      · rw [run_onRegistry hu] at h
        cases h
        exact .keyless hd hid hfree hkeyless.1 hkeyless.2 (by rwa [hrefusals] at hrefuses) (hg'.trans hg)
      · rw [run_onRegistry hu] at h
        cases h
    · cases h

/-- A row that is put where there was none is seen in the rows. -/
theorem rows_ne_of_put {t : EnvironmentTable} {n : Int} {row : EnvironmentRow} {d : Database}
    (hd : s.registry.store.database.environments = some t) (hfree : t.rows.contains n = false)
    (hd' : d = s.registry.store.database.withTable (t.put n row)) (hs' : s'.registry.store.database = d) :
    s'.rows ≠ s.rows := by
  intro hrows
  have hput : s'.registry.store.database.environments = some (t.put n row) := by rw [hs', hd']; rfl
  rw [rows_of_environments hput, rows_of_environments hd] at hrows
  have hcontains : t.rows.contains n = true := by
    rw [← hrows, EnvironmentTable.put, Table.contains_insert]
    simp
  rw [hfree] at hcontains
  cases hcontains

/-- In every run from a service whose database is sound, whatever is refused or cut off in it: a creation
that is refused leaves either no more than the refusals of the store that it used up, or a row under an id
of more than 32 bits, or a record of an edge kind without its enrollment key. Only the first leaves the
rows as they were, and then all else is as it was too. -/
theorem refusedCreation_of_run (hd : s₀.registry.store.database.Sound) {events : List (Instant × Event)}
    (h : Run Event.step (fun _ _ _ => True) s₀ events s) (hc : (create e).run s = (.refused err, s')) :
    RefusedCreation s e s' ∧
      (s'.rows = s.rows ↔
        s'.registry.store.database = s.registry.store.database ∧ s'.withStore s.registry.store = s) := by
  have hleft := refusedCreation (stores_sequence_of_run hd h) hc
  refine ⟨hleft, ⟨fun hrows => ?_, fun hsame => by unfold rows; rw [hsame.1]⟩⟩
  cases hleft with
  | kept hg => exact ⟨hg, rfl⟩
  | unread hd ha hn hmost hg =>
    exact absurd hrows (rows_ne_of_put hd (EnvironmentTable.nextId?_free hn).2 hg rfl)
  | keyless hd hid hfree hkind hkey hrefuses hg =>
    exact absurd hrows (rows_ne_of_put hd hfree hg (congrArg (·.database) (Registry.store_enterNew _ _)))

/-- A creation that is refused before its row is inserted leaves nothing. -/
theorem kept_of_refused_insert : ∃ s s' err,
    Run Event.step (fun _ _ _ => True) (overFresh Coordinator.hourly)
      [(.ofSeconds 10, .refuseNext .insert (.database .full))] s ∧
    (create (edge ⟨7⟩ "A")).run s = (.refused err, s') ∧ RefusedCreation s (edge ⟨7⟩ "A") s' ∧
    s'.registry.store.database = s.registry.store.database ∧ s'.withStore s.registry.store = s := by
  obtain ⟨s, err, hrun, hrefused, hrows⟩ : ∃ s err,
      Run Event.step (fun _ _ _ => True) (overFresh Coordinator.hourly)
        [(.ofSeconds 10, .refuseNext .insert (.database .full))] s ∧
      ((create (edge ⟨7⟩ "A")).run s).1 = .refused err ∧ ((create (edge ⟨7⟩ "A")).run s).2.rows = s.rows :=
    ⟨_, .registry (.storeUnavailable (.database .full)), Run.nil.snoc _ _ trivial, by decide +kernel, by decide +kernel⟩
  have hfresh : (Gateway.clear .fresh).database.Sound := Database.sound_fresh
  obtain ⟨hleft, hiff⟩ := refusedCreation_of_run hfresh hrun (Prod.ext hrefused rfl)
  exact ⟨s, _, err, hrun, Prod.ext hrefused rfl, hleft, hiff.1 hrows⟩

/-- Two creations that are refused and leave something: where the save of the enrollment key is refused
the environment is known and its edge id taken, and where the next id has more than 32 bits there is a row
that no list of the environments gets past. -/
theorem refused_creation_leaves_rows :
    (∃ s s' err, Run Event.step (fun _ _ _ => True) (overFresh Coordinator.hourly)
        [(.ofSeconds 10, .refuseNext .save (.database .full))] s ∧
      (create (edge ⟨7⟩ "A")).run s = (.refused err, s') ∧
      (s.rows.contains 7 = false ∧ s.registry.contains ⟨7⟩ = false ∧ s.registry.owner? "A" = none) ∧
      (s'.rows.contains 7 = true ∧ s'.registry.contains ⟨7⟩ = true ∧ s'.registry.owner? "A" = some ⟨7⟩)) ∧
    ∃ s s' err, Run Event.step (fun _ _ _ => True) (overFresh Coordinator.hourly)
        [(.ofSeconds 10, .create (edge ⟨2147483647⟩ "A"))] s ∧
      (create (edge ⟨0⟩ "B")).run s = (.refused err, s') ∧
      s.rows.contains 2147483648 = false ∧ s'.rows.contains 2147483648 = true ∧
      (list.run s).1.rename (fun _ => ()) (fun _ => ()) = .done () ∧
      (list.run s').1.rename (fun _ => ()) (fun _ => ()) = .refused () := by
  constructor
  · refine ⟨_, _, .registry (.storeUnavailable (.database .full)), Run.nil.snoc _ _ trivial, Prod.ext ?_ rfl, ?_, ?_⟩
    · decide +kernel
    · decide +kernel
    · decide +kernel
  · refine ⟨_, _, .registry (.storeUnavailable (.database .unreadableId)), Run.nil.snoc _ _ trivial,
      Prod.ext ?_ rfl, ?_⟩
    · decide +kernel
    · decide +kernel

end Service

end EdgeFleet
