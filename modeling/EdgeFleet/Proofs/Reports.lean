import EdgeFleet.Proofs.Consistency
import EdgeFleet.Proofs.Persistence
/-!
# What writes report

A record that the service answers to a creation or a change is the one that it answers when it is asked
for the environment next, and the one that it lists, in the form that is stored. A change answers that
form. A creation answers the record as it was brought, with numbers of seconds that the row keeps
clamped, unless the environment had to be given its enrollment key.
-/

namespace EdgeFleet

namespace Environment

/-- Whether all numbers of seconds have 31 bits. -/
def Narrow (e : Environment) : Prop :=
  e.checkInInterval.toNat ≤ 0x7fffffff ∧ e.polling.pingInterval.toNat ≤ 0x7fffffff ∧
    e.polling.snapshotInterval.toNat ≤ 0x7fffffff ∧ e.polling.commandInterval.toNat ≤ 0x7fffffff

/-- The stored form of a record differs in the numbers that are clamped. -/
theorem stored_eq_normalize_iff (e : Environment) : e.stored = e.normalize ↔ e.Narrow := by
  unfold Narrow
  rw [← clamped_eq_self_iff, ← clamped_eq_self_iff, ← clamped_eq_self_iff, ← clamped_eq_self_iff]
  constructor
  · intro h
    exact ⟨congrArg checkInInterval h, congrArg (·.polling.pingInterval) h, congrArg (·.polling.snapshotInterval) h,
      congrArg (·.polling.commandInterval) h⟩
  · rintro ⟨hcheckIn, hping, hsnapshot, hcommand⟩
    unfold stored
    rw [hcheckIn, hping, hsnapshot, hcommand]
    rfl

end Environment

namespace EnvironmentTable

variable {t : EnvironmentTable} {e : Environment} {id : EnvironmentId}

/-! ## Writes to a table that was written -/

theorem Written.insert (h : t.Written) {n m : Int} (hm : 0 ≤ m) (hn : Decimal.signed32.least ≤ n) (hne : n ≠ 0)
    (e : Environment) :
    ({ t with rows := t.rows.insert n (.ofEnvironment e), sequence := m } : EnvironmentTable).Written where
  sequence := hm
  row {k row} hr := by
    rw [Table.get?_insert_eq] at hr
    split at hr
    · rename_i hk
      cases hr
      exact ⟨hk ▸ hn, hk ▸ hne, e, rfl⟩
    · exact h.row hr

/-- The row of a new record is put under an id that it brings, or that is counted. -/
theorem Written.put (h : t.Written) {n : Int} (hn : Database.idFor? t e = some n) :
    (t.put n (.ofEnvironment e)).Written := by
  have hid : Decimal.signed32.least ≤ n ∧ n ≠ 0 := by
    cases ha : e.id.isAssigned with
    | true =>
      rw [Database.idFor?_of_isAssigned ha] at hn
      cases hn
      exact ⟨e.id.number.le_toInt, EnvironmentId.isAssigned_iff.1 ha⟩
    | false =>
      rw [Database.idFor?_of_not_isAssigned ha] at hn
      have hpast := (nextId?_free hn).1
      have hcount := h.sequence
      refine ⟨?_, by omega⟩
      change -0x80000000 ≤ n
      omega
  exact h.insert (Int.le_trans h.sequence (Int.le_max_left _ _)) hid.1 hid.2 e

theorem Written.withRow (h : t.Written) (ha : id.isAssigned = true) (e : Environment) :
    (t.withRow id (.ofEnvironment e)).Written :=
  h.insert h.sequence id.number.le_toInt (EnvironmentId.isAssigned_iff.1 ha) e

theorem Written.without (h : t.Written) (id : EnvironmentId) : (t.without id).Written where
  sequence := h.sequence
  row {n row} hr := by
    unfold EnvironmentTable.without at hr
    rw [Table.get?_erase_eq] at hr
    split at hr
    · cases hr
    · exact h.row hr

end EnvironmentTable

namespace Registry

open Attempt

variable {r r' : Registry} {t : EnvironmentTable} {e : Environment} {id : EnvironmentId}

/-! ## Heartbeats have rows -/

/-- Whether the table of a registry was written, and every environment that was heard of has a row. -/
structure Tended (r : Registry) (t : EnvironmentTable) : Prop where
  table : r.store.database.environments = some t
  written : t.Written
  heard : ∀ id, (r.heartbeat? id).isSome = true → t.holds id = true

theorem Tended.withStore (h : r.Tended t) {g : Gateway}
    (hg : g.database.environments = r.store.database.environments) : (r.withStore g).Tended t :=
  ⟨hg.trans h.table, h.written, h.heard⟩

/-- A step that leaves the database as it was. -/
theorem Tended.same (h : r.Tended t) {g : Gateway} (hg : g.database = r.store.database) : (r.withStore g).Tended t :=
  h.withStore (congrArg (·.environments) hg)

theorem Tended.hear (h : r.Tended t) (hid : t.holds id = true) (now : Instant) : (r.hear now id).Tended t := by
  refine ⟨h.table, h.written, fun i hi => ?_⟩
  rw [isSome_heartbeat?_hear, Bool.or_eq_true, decide_eq_true_eq] at hi
  rcases hi with rfl | hi
  · exact hid
  · exact h.heard i hi

/-- A row that is put under an id of any size. -/
theorem Tended.put (h : r.Tended t) {n : Int} (hn : Database.idFor? t e = some n) {g : Gateway}
    (hg : g.database.environments = some (t.put n (.ofEnvironment e))) :
    (r.withStore g).Tended (t.put n (.ofEnvironment e)) := by
  refine ⟨hg, h.written.put hn, fun i hi => ?_⟩
  exact (Table.contains_insert _ _ _ _).trans (Bool.or_eq_true_iff.2 (.inr (h.heard i hi)))

theorem Tended.enterNew (h : r.Tended t) (hid : t.holds e.id = true) : (r.enterNew e).Tended t := by
  refine ⟨by rw [store_enterNew]; exact h.table, h.written, fun i hi => ?_⟩
  rw [isSome_heartbeat?_enterNew, Bool.or_eq_true, decide_eq_true_eq] at hi
  rcases hi with rfl | hi
  · exact hid
  · exact h.heard i hi

/-- A row that is written in place of another one, with what an update notes. -/
theorem Tended.rewritten (h : r.Tended t) (hid : t.holds id = true) {g : Gateway} {r' : Registry}
    (hg : g.database.environments = some (t.withRow id (.ofEnvironment e))) (hstore : r'.store = g)
    (hheard : ∀ i, (r'.heartbeat? i).isSome = true → i = id ∨ (r.heartbeat? i).isSome = true) :
    r'.Tended (t.withRow id (.ofEnvironment e)) := by
  refine ⟨by rw [hstore]; exact hg, h.written.withRow (h.written.isAssigned hid) e, fun i hi => ?_⟩
  rw [EnvironmentTable.holds_withRow, Bool.or_eq_true, decide_eq_true_eq]
  exact (hheard i hi).imp_right (h.heard i)

/-- Of what an update notes, the edge ids have no part in the store and in whom was heard of. -/
theorem store_and_heartbeats_of_noted (r : Registry) (id : EnvironmentId) (old new : Option String) (stored : Int64) :
    (((r.rebind id old new).note id).seed id stored).store = r.store ∧
      ∀ i, ((((r.rebind id old new).note id).seed id stored).heartbeat? i).isSome =
        (decide (i = id) || (r.heartbeat? i).isSome) := by
  obtain ⟨edgeIndex, he⟩ := r.rebind_eq id old new
  rw [he]
  exact ⟨rfl, fun i => isSome_heartbeat?_seed _ id i stored⟩

theorem Tended.updated (h : r.Tended t) {g : Gateway} (hid : t.holds id = true)
    (hg : g.database.environments = some (t.withRow id (.ofEnvironment e)))
    (hr : r' = (((r.withStore g).rebind id (t.edgeIdOf? id) e.boundEdgeId?).note id).seed id e.lastCheckIn) :
    r'.Tended (t.withRow id (.ofEnvironment e)) := by
  obtain ⟨hstore, hheard⟩ :=
    store_and_heartbeats_of_noted (r.withStore g) id (t.edgeIdOf? id) e.boundEdgeId? e.lastCheckIn
  rw [← hr] at hstore hheard
  refine h.rewritten hid hg hstore (fun i hi => ?_)
  rw [hheard, Bool.or_eq_true, decide_eq_true_eq] at hi
  exact hi

theorem Tended.create (h : r.Tended t) (e : Environment) : ∃ t', ((Registry.create e).run r).2.Tended t' := by
  have he := entering r e
  generalize (Registry.create e).run r = x at he
  cases he with
  | refused hg => exact ⟨t, h.same hg⟩
  | cutOff hd hid _ _ _ hg =>
    cases hd.symm.trans h.table
    exact ⟨_, h.put hid (by rw [hg]; rfl)⟩
  | unread hd ha hn _ hg =>
    cases hd.symm.trans h.table
    exact ⟨_, h.put ((Database.idFor?_of_not_isAssigned ha).trans hn) (by rw [hg]; rfl)⟩
  | entered hd hid _ _ _ _ hg =>
    cases hd.symm.trans h.table
    refine ⟨_, (h.put hid (by rw [hg]; rfl)).enterNew ?_⟩
    rw [EnvironmentTable.holds_put, decide_eq_true rfl, Bool.true_or]

theorem Tended.update (h : r.Tended t) (id : EnvironmentId) (e : Environment) :
    ∃ t', ((Registry.update id e).run r).2.Tended t' := by
  have hu := updating h.table h.written id e
  generalize (Registry.update id e).run r = x at hu
  cases hu with
  | refused hg => exact ⟨t, h.same hg⟩
  | updated hid _ hg hr => exact ⟨_, h.updated hid hg hr⟩

theorem Tended.delete (h : r.Tended t) (id : EnvironmentId) : ∃ t', ((Registry.delete id).run r).2.Tended t' := by
  have hd := deleting h.table id
  generalize (Registry.delete id).run r = x at hd
  cases hd with
  | refused hg => exact ⟨t, h.same hg⟩
  | deleted _ hg =>
    refine ⟨_, hg, h.written.without id, fun i hi => ?_⟩
    rw [isSome_heartbeat?_forget, Bool.and_eq_true] at hi
    rw [EnvironmentTable.holds_without, Bool.and_eq_true]
    exact hi.imp_right (h.heard i)

theorem Tended.recordPoll (h : r.Tended t) (now : Instant) (id : EnvironmentId) (agent : Option Agent) :
    ∃ t', ((Registry.recordPoll now id agent).run r).2.Tended t' := by
  have hp := recording h.table h.written now id agent
  generalize (Registry.recordPoll now id agent).run r = x at hp
  cases hp with
  | refused hg | unread _ _ hg => exact ⟨t, h.same hg⟩
  | heard ht _ hg => exact ⟨t, (h.same hg).hear (h.written.of_record? ht).1 now⟩
  | unsaved hid hg => exact ⟨t, (h.same hg).hear hid now⟩
  | @saved e a g ht _ _ hg =>
    have hid := (h.written.of_record? ht).1
    have hheard : ∀ i, (((r.withStore g).hear now id).heartbeat? i).isSome = true →
        i = id ∨ (r.heartbeat? i).isSome = true := by
      intro i hi
      rw [isSome_heartbeat?_hear, Bool.or_eq_true, decide_eq_true_eq] at hi
      exact hi
    exact ⟨_, h.rewritten hid hg rfl hheard⟩

theorem Tended.rebuild (h : r.Tended t) : (Registry.rebuild.run r).2.Tended t := by
  unfold Registry.rebuild Gateway.all
  rcases run_onStoreAs .storeUnavailable .scanAll Database.all r with ⟨err, g, hg, hr⟩ | ⟨g, hg, hr⟩
  · rw [run_bind_refused hr]
    exact h.same hg
  · by_cases hfits : t.Fits
    · rw [Database.run_all h.table h.written hfits] at hg hr
      rw [run_bind_done hr]
      have hread : (r.withStore g).Tended t := h.same hg
      refine ⟨(congrArg (·.database.environments) (store_reindex _ _)).trans hread.table, h.written, fun i hi => ?_⟩
      rcases (isSome_heartbeat?_reindex _ _ _).1 hi with hi | ⟨e, he, rfl⟩
      · exact h.heard i hi
      · exact (h.written.of_record? (h.written.mem_records.1 he)).1
    · obtain ⟨n, hn, hmost⟩ : ∃ n, t.rows.contains n = true ∧ Decimal.signed32.most < n := by
        by_contra hnone
        exact hfits (fun n hn => Int.not_lt.1 (fun hmost => hnone ⟨n, hn, hmost⟩))
      obtain ⟨err, hall⟩ := Database.run_all_of_wide h.table hn hmost
      rw [hall] at hg hr
      rw [run_bind_refused hr]
      exact h.same hg

theorem Tended.unheard (h : r.Tended t) (hfree : t.holds id = false) : r.heartbeat? id = none := by
  rw [← Option.not_isSome_iff_eq_none]
  intro hheard
  rw [h.heard id hheard] at hfree
  cases hfree

/-- Every step of the registry leaves heartbeats only where there are rows. -/
theorem kept_tended : Kept (fun r => ∃ t, r.Tended t) where
  create e := fun _ ⟨_, h⟩ => h.create e
  get id := keeps_get?_of_store (fun hg ⟨t, h⟩ => ⟨t, h.same hg⟩) id
  list := keeps_list_of_store (fun hg ⟨t, h⟩ => ⟨t, h.same hg⟩)
  update id e := fun _ ⟨_, h⟩ => h.update id e
  delete id := fun _ ⟨_, h⟩ => h.delete id
  recordPoll now id agent := fun _ ⟨_, h⟩ => h.recordPoll now id agent
  rebuild := fun _ ⟨t, h⟩ => ⟨t, h.rebuild⟩
  store hg := fun ⟨t, h⟩ => ⟨t, h.same hg⟩
  blank := fun ⟨t, h⟩ => ⟨t, h.table, h.written, nofun⟩

/-! ## What is answered of a record -/

theorem id_overlay (r : Registry) (e : Environment) : (r.overlay e).id = e.id := by
  unfold overlay
  split <;> rfl

/-- What was just entered is the last contact that is known, if none was known before. -/
theorem overlay_enterNew {stored : Environment} (h : r.heartbeat? e.id = none) (hid : stored.id = e.id)
    (hlast : stored.lastCheckIn = e.lastCheckIn) : (r.enterNew e).overlay stored = stored := by
  have hheard : (r.enterNew e).heartbeats = r.heartbeats.insert e.id e.lastCheckIn := by
    unfold heartbeat? at h
    simp only [enterNew]
    cases e.boundEdgeId? <;> simp only [seed, note, bind, h]
  have hcontact : (r.enterNew e).heartbeats.get? stored.id = some stored.lastCheckIn := by
    rw [hheard, hid, hlast, Table.get?_insert_self]
  unfold overlay heartbeat?
  rw [hcontact]

theorem stored_overlay (r : Registry) (e : Environment) : (r.overlay e).stored = r.overlay e.stored := by
  unfold overlay
  rw [show e.stored.id = e.id from rfl]
  cases r.heartbeat? e.id <;> rfl

theorem run_get? (h : r.Tended t) (hl : r.store.refusals.lookup .environment = none) (id : EnvironmentId) :
    (get? id).run r = (.done ((t.record? id).map r.overlay), r) := by
  have hread := run_onStoreAs_eq .ofStore .environment (Database.environment? id) r
  rw [hl, Database.run_environment? h.table h.written] at hread
  exact run_bind_done hread

theorem run_list (h : r.Tended t) (hl : r.store.refusals.lookup .scanAll = none) (hfits : t.Fits) :
    list.run r = (.done (t.records.map r.overlay), r) := by
  have hread := run_onStoreAs_eq .ofStore .scanAll Database.all r
  rw [hl, Database.run_all h.table h.written hfits] at hread
  exact run_bind_done hread

/-- Nothing is listed where a row has an id of more than 32 bits. -/
theorem run_list_of_wide (h : r.Tended t) (hl : r.store.refusals.lookup .scanAll = none) {n : Int}
    (hn : t.rows.contains n = true) (hmost : Decimal.signed32.most < n) : ∃ err, list.run r = (.refused err, r) := by
  obtain ⟨err, hall⟩ := Database.run_all_of_wide h.table hn hmost
  have hread := run_onStoreAs_eq .ofStore .scanAll Database.all r
  rw [hl, hall] at hread
  exact ⟨_, run_bind_refused hread⟩

end Registry

namespace Database

/-- Whether a database is migrated and its environments were written for records. -/
def Written (d : Database) : Prop := ∃ t, d.environments = some t ∧ t.Written

end Database

namespace Service

open Attempt

variable {s s' s₀ : Service} {t : EnvironmentTable} {e r : Environment} {id : EnvironmentId}

/-! ## Runs of events -/

/-- Heartbeats have rows after every event, refused or cut off as it may be. -/
theorem keeps_tended (now : Instant) (event : Event) :
    Keeps (Registers (fun r => ∃ t, r.Tended t)) (event.step now) := by
  cases event with
  | updateSettings settings => exact keeps_registers_updateSettings (fun hg ⟨t, h⟩ => ⟨t, h.withStore hg⟩) now settings
  | _ => exact keeps_registers_of_ne_updateSettings Registry.kept_tended now nofun

theorem tended_of_run {store : Gateway} {range : PortRange} {keepAlive : Nat} {issuer : Issuer}
    {enrollment : EnrollmentConfig} (hd : store.database.Written)
    (hstart : start.run (assemble (.blank store) range keepAlive issuer enrollment) = (.done (), s₀))
    {events : List (Instant × Event)} (h : Run Event.step (fun _ _ _ => True) s₀ events s) :
    ∃ t, s.registry.Tended t := by
  obtain ⟨t, htable, hwritten⟩ := hd
  refine h.inv (Registers (fun r => ∃ t, r.Tended t)) ?_ (fun s now event hs _ => keeps_tended now event s hs)
  have hstarts : Keeps (Registers (fun r => ∃ t, r.Tended t)) start :=
    (keeps_onRegistry Registry.kept_tended.rebuild).bind (fun _ => keeps_registers_loadSettings Registry.kept_tended)
  have hfirst := hstarts (assemble (.blank store) range keepAlive issuer enrollment) ⟨t, htable, hwritten, nofun⟩
  rwa [hstart] at hfirst

/-! ## Records that are reported -/

/-- Whether a record is what the service answers when it is asked for the environment, and among those that
it lists, if the calls of the store are let through. Nothing is listed where a row has an id of more than 32
bits. -/
structure Reports (s : Service) (r : Environment) : Prop where
  got : s.registry.store.refusals.lookup .environment = none → (get r.id).run s = (.done r, s)
  listed : s.registry.store.refusals.lookup .scanAll = none →
    (∀ n, s.rows.contains n = true → n ≤ Decimal.signed32.most) → ∃ es, list.run s = (.done es, s) ∧ r ∈ es
  unlisted : s.registry.store.refusals.lookup .scanAll = none →
    ∀ n, s.rows.contains n = true → Decimal.signed32.most < n → ∃ err, list.run s = (.refused err, s)

/-- The record of a row is reported with the last contact that is known. -/
theorem reports_overlay (h : s.registry.Tended t) (hr : t.record? id = some e) : s.Reports (s.registry.overlay e) := by
  have hid : e.id = id := (h.written.of_record? hr).2.1
  have hrows : s.rows = t.rows := rows_of_environments h.table
  refine ⟨fun hl => ?_, fun hl hfits => ?_, fun hl n hn hmost => ?_⟩
  · have hget := run_onRegistry (s.registry.run_get? h hl id)
    rw [hr] at hget
    rw [Registry.id_overlay, hid]
    exact run_bind_done hget
  · rw [hrows] at hfits
    refine ⟨_, run_onRegistry (s.registry.run_list h hl hfits), List.mem_map_of_mem ?_⟩
    exact h.written.mem_records.2 (hid ▸ hr)
  · rw [hrows] at hn
    obtain ⟨err, hlist⟩ := s.registry.run_list_of_wide h hl hn hmost
    exact ⟨_, run_onRegistry hlist⟩

/-- A change answers the record as it is stored and reported. -/
theorem reports_update (h : s.registry.Tended t) (hu : (update id e).run s = (.done r, s')) :
    s'.Reports r ∧ r.id = id ∧ r.stored = r := by
  obtain ⟨r', hu', rfl⟩ := run_onRegistry_eq_done hu
  have hends := Registry.updating h.table h.written id e
  rw [hu'] at hends
  cases hends with
  | updated hid _ hg hr =>
    have hrecord := (t.record?_withRow id id e).trans (if_pos rfl)
    refine ⟨reports_overlay (h.updated hid hg hr) hrecord, Registry.id_overlay _ _, ?_⟩
    rw [Registry.stored_overlay, e.stored_withId]

/-- A creation answers the record that it was given, under its id, or the one that was changed to have an
enrollment key; what is reported is its stored form. -/
theorem reports_create (h : s.registry.Tended t) (hc : (create e).run s = (.done r, s')) :
    s'.Reports r.stored ∧ (r.stored = r ↔ e.kind.isEdge = true ∧ e.edgeKey = "" ∨ e.Narrow) := by
  unfold create at hc
  obtain ⟨created, u, hdone, hrest⟩ := run_bind_eq_done hc
  obtain ⟨r₁, hcreated, rfl⟩ := run_onRegistry_eq_done hdone
  have hends := Registry.entering s.registry e
  rw [hcreated] at hends
  cases hends with
  | @entered t' id g hd hid _ hfree _ _ hg =>
    cases hd.symm.trans h.table
    have hholds : (t.put id.number.toInt (.ofEnvironment e)).holds id = true := by
      rw [EnvironmentTable.holds_put, decide_eq_true rfl, Bool.true_or]
    have htended : ((s.registry.withStore g).enterNew { e.normalize with id }).Tended
        (t.put id.number.toInt (.ofEnvironment e)) := (h.put hid (by rw [hg]; rfl)).enterNew hholds
    split at hrest
    · -- The record that has its enrollment key is answered by a change.
      rename_i hkeyless
      rw [run_bind_done (run_view _ _)] at hrest
      obtain ⟨hreports, -, hstored⟩ := reports_update htended hrest
      rw [hstored]
      exact ⟨hreports, fun _ => .inl hkeyless, fun _ => rfl⟩
    · have hkeyless : ¬ (e.kind.isEdge = true ∧ e.edgeKey = "") := ‹_›
      cases hrest
      have hrecord := (t.record?_put id id e).trans (if_pos rfl)
      -- The id was free, so no heartbeat was kept for it.
      have hoverlay : ((s.registry.withStore g).enterNew { e.normalize with id }).overlay { e.stored with id } =
          { e.stored with id } := Registry.overlay_enterNew (h.unheard hfree) rfl rfl
      have hstored : ({ e.normalize with id } : Environment).stored = { e.stored with id } :=
        congrArg (fun x : Environment => { x with id }) e.stored_normalize
      rw [hstored]
      refine ⟨hoverlay ▸ reports_overlay htended hrecord, ?_⟩
      rw [or_iff_right hkeyless, ← e.stored_eq_normalize_iff]
      constructor
      · intro hsame
        exact congrArg (fun x : Environment => { x with id := e.id }) hsame
      · intro hsame
        rw [hsame]

/-- From any start over a database whose environments were written for records, in every run of events,
refused or cut off as they may be: a change that is done answers what is reported afterwards, and of what a
creation answers the stored form is reported. That is the answer itself exactly if the environment had to be
given its enrollment key, or no number of seconds has more than 31 bits. -/
theorem reports_of_run {store : Gateway} {range : PortRange} {keepAlive : Nat} {issuer : Issuer}
    {enrollment : EnrollmentConfig} (hd : store.database.Written)
    (hstart : start.run (assemble (.blank store) range keepAlive issuer enrollment) = (.done (), s₀))
    {events : List (Instant × Event)} (h : Run Event.step (fun _ _ _ => True) s₀ events s) :
    (∀ e r s', (create e).run s = (.done r, s') →
      s'.Reports r.stored ∧ (r.stored = r ↔ e.kind.isEdge = true ∧ e.edgeKey = "" ∨ e.Narrow)) ∧
    ∀ id e r s', (update id e).run s = (.done r, s') → s'.Reports r ∧ r.id = id ∧ r.stored = r := by
  obtain ⟨t, ht⟩ := tended_of_run hd hstart h
  exact ⟨fun e r s' => reports_create ht, fun id e r s' => reports_update ht⟩

/-- An environment of an edge kind, created without an enrollment key, is answered and reported with clamped
numbers of seconds, also after a creation that was cut off. -/
theorem reports_of_wide_keyless : ∃ s s' r,
    Run Event.step (fun _ _ _ => True) (overFresh Coordinator.hourly)
      [(.ofSeconds 10, .create (edge ⟨-5⟩ "A")), (.ofSeconds 20, .updateSettings ⟨15, 90⟩)] s ∧
    (create { edge ⟨0⟩ "B" with checkInInterval := 3000000000 }).run s = (.done r, s') ∧
    r.id = ⟨1⟩ ∧ r.checkInInterval = 2147483647 ∧ s'.Reports r := by
  obtain ⟨s, s', r, hrun, hcreate, hid, hinterval⟩ : ∃ s s' r,
      Run Event.step (fun _ _ _ => True) (overFresh Coordinator.hourly)
        [(.ofSeconds 10, .create (edge ⟨-5⟩ "A")), (.ofSeconds 20, .updateSettings ⟨15, 90⟩)] s ∧
      (create { edge ⟨0⟩ "B" with checkInInterval := 3000000000 }).run s = (.done r, s') ∧
      r.id = ⟨1⟩ ∧ r.checkInInterval = 2147483647 :=
    ⟨_, _, { (edge ⟨1⟩ "B") with
        checkInInterval := 2147483647, edgeKey := (overFresh Coordinator.hourly).keyFor ⟨1⟩ },
      (Run.nil.snoc _ _ trivial).snoc _ _ trivial, Prod.ext (by decide +kernel) rfl, rfl, rfl⟩
  have hstart : start.run (overFresh Coordinator.hourly) = (.done (), overFresh Coordinator.hourly) := by decide +kernel
  have hfresh : (Gateway.clear .fresh).database.Written := ⟨.empty, rfl, EnvironmentTable.sound_empty.written⟩
  obtain ⟨hreports, hsame⟩ := (reports_of_run hfresh hstart hrun).1 _ r s' hcreate
  rw [hsame.2 (.inl ⟨rfl, rfl⟩)] at hreports
  exact ⟨s, s', r, hrun, hcreate, hid, hinterval, hreports⟩

/-- A creation answers a number of seconds that is clamped in what is reported next. -/
theorem creation_answers_unclamped : ∃ s' r,
    start.run (overFresh Coordinator.hourly) = (.done (), overFresh Coordinator.hourly) ∧
    (create { Environment.fresh "edge" .docker with checkInInterval := 3000000000 }).run
      (overFresh Coordinator.hourly) = (.done r, s') ∧
    r.checkInInterval = 3000000000 ∧
    (get r.id).run s' = (.done { r with checkInInterval := 2147483647 }, s') ∧
    list.run s' = (.done [{ r with checkInInterval := 2147483647 }], s') :=
  ⟨_, { Environment.fresh "edge" .docker with id := ⟨1⟩, checkInInterval := 3000000000 }, by decide +kernel,
    Prod.ext (by decide +kernel) rfl, rfl, by decide +kernel, by decide +kernel⟩

end Service

end EdgeFleet
