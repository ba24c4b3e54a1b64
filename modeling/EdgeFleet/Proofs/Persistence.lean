import EdgeFleet.Proofs.Service
/-!
# What the store keeps through every event

A property of the database that is `Kept` by the calls that write to it is kept by every event of the
service, whatever is refused or cut off. The number that the table of environments counts from never
falls below zero: that is such a property.
-/

namespace EdgeFleet

namespace Database

open Attempt

variable {J : Database → Prop}

/-- Whether a property of the database is kept by every call that writes to the environments. -/
structure RowsKept (J : Database → Prop) : Prop where
  insert : ∀ e, Keeps J (insert e)
  save : ∀ e, Keeps J (save e)
  delete : ∀ id, Keeps J (delete id)

/-- Whether a property of the database is kept by every call that writes to it. -/
structure Kept (J : Database → Prop) : Prop extends RowsKept J where
  updateSettings : ∀ now settings, Keeps J (updateSettingsAt now settings)

/-! ## Reads -/

theorem keeps_environmentTable (access : Access) : Keeps J (environmentTable access) :=
  (keeps_view _).bind (fun _ => keeps_orRefuse _ _)

theorem keeps_record? (id : EnvironmentId) : Keeps J (record? id) := by
  refine (keeps_environmentTable _).bind (fun t => ?_)
  split
  · exact keeps_pure _
  · exact (keeps_ofExcept _).map _

theorem keeps_environment? (id : EnvironmentId) : Keeps J (environment? id) := by
  refine (keeps_record? id).bind (fun record => ?_)
  split
  · exact keeps_pure _
  · exact (keeps_ofExcept _).map _

theorem keeps_all : Keeps J all := by
  refine (keeps_environmentTable _).bind (fun _ => ?_)
  exact (keeps_ofExcept _).bind (fun _ => keeps_ofExcept _)

/-! ## Writes to the table of environments -/

/-- The row that a record gets in place of another one. -/
def replacement (t : EnvironmentTable) (e : Environment) : EnvironmentRow :=
  { EnvironmentRow.ofEnvironment e with createdAt := (t.rows.get? e.id.number.toInt).bind (·.createdAt) }

/-- Whether a property of the database is kept by every write of a row and by every deletion. -/
structure RowWrites (J : Database → Prop) : Prop where
  put : ∀ {d t n e}, d.environments = some t → idFor? t e = some n → J d → J (d.withTable (t.put n (.ofEnvironment e)))
  replace : ∀ {d t e}, d.environments = some t → e.id.isAssigned = true → J d →
    J (d.withTable (t.withRow e.id (replacement t e)))
  erase : ∀ {d t} id, d.environments = some t → J d → J (d.withTable (t.without id))

/-- A step that goes on with the table, if there is one. -/
theorem keeps_withTable {α : Type} (access : Access) {f : EnvironmentTable → Step α}
    (hf : ∀ {d} t, d.environments = some t → J d → J ((f t).run d).2) : Keeps J (environmentTable access >>= f) := by
  intro d hd
  cases ht : d.environments with
  | none =>
    rw [run_bind_refused (run_environmentTable_of_none ht access)]
    exact hd
  | some t =>
    rw [run_bind_done (run_environmentTable ht access)]
    exact hf t ht hd

/-- What is kept by putting a table in place is kept by going on with something that keeps it. -/
theorem holds_putTable {α : Type} {d : Database} {t : EnvironmentTable} {f : Unit → Step α} (h : J (d.withTable t))
    (hf : ∀ a, Keeps J (f a)) : J ((putTable t >>= f).run d).2 :=
  holds_bind (J := J) h (fun _ hd => hd) (fun a u hu => hf a u hu)

theorem RowWrites.keeps_add (h : RowWrites J) (e : Environment) : Keeps J (add e) := by
  refine keeps_withTable _ (fun {d} t ht hd => ?_)
  change J ((orRefuse _ (idFor? t e) >>= _ : Step Environment).run d).2
  cases hn : idFor? t e with
  | none => exact hd
  | some n =>
    rw [run_bind_done (run_orRefuse_some _ n d)]
    dsimp only
    split
    · exact hd
    · refine holds_putTable (h.put ht hn hd) (fun _ => ?_)
      split
      · exact Keeps.of_eq (fun _ => rfl)
      · split
        · exact keeps_refuse _
        · exact keeps_pure _

theorem RowWrites.keeps_replace (h : RowWrites J) {e : Environment} (ha : e.id.isAssigned = true) :
    Keeps J (Database.replace e) := by
  refine keeps_withTable _ (fun {d} t ht hd => ?_)
  dsimp only
  split
  · exact hd
  · exact holds_putTable (h.replace ht ha hd) (fun _ => keeps_ofExcept _)

theorem RowWrites.kept (h : RowWrites J) : RowsKept J where
  insert e := by
    unfold Database.insert
    split
    · refine (keeps_record? _).bind (fun record => ?_)
      split
      · exact keeps_refuse _
      · exact h.keeps_add e
    · exact h.keeps_add e
  save e := by
    unfold Database.save
    split
    · rename_i ha
      refine (keeps_record? _).bind (fun record => ?_)
      split
      · exact h.keeps_replace ha
      · exact h.keeps_add e
    · exact h.keeps_add e
  delete id := by
    refine keeps_withTable _ (fun t ht hd => ?_)
    split
    · exact h.erase _ ht hd
    · exact hd

/-- Whether a property of tables is kept by every write of a row and by every deletion. -/
structure Rewrites (P : EnvironmentTable → Prop) : Prop where
  put : ∀ {t} n row, P t → P (t.put n row)
  replace : ∀ {t} n row, P t → P { t with rows := t.rows.insert n row }
  erase : ∀ {t} n, P t → P { t with rows := t.rows.erase n }

variable {P : EnvironmentTable → Prop}

/-- Whether the table of environments, if there is one, has a property. -/
def Has (P : EnvironmentTable → Prop) (d : Database) : Prop := ∀ t, d.environments = some t → P t

theorem has_withTable {d : Database} {t : EnvironmentTable} (h : P t) : Has P (d.withTable t) := by
  intro u hu
  cases hu
  exact h

theorem Rewrites.kept (h : Rewrites P) : Kept (Has P) where
  toRowsKept := RowWrites.kept
    { put ht _ hd := has_withTable (h.put _ _ (hd _ ht))
      replace ht _ hd := has_withTable (h.replace _ _ (hd _ ht))
      erase _ ht hd := has_withTable (h.erase _ (hd _ ht)) }
  updateSettings now settings := keeps_updateSettingsAt (fun _ hd => hd) now settings

/-- Ids are counted from zero on. -/
theorem rewrites_sequence : Rewrites (fun t => 0 ≤ t.sequence) where
  put _ _ ht := Int.le_trans ht (Int.le_max_left _ _)
  replace _ _ ht := ht
  erase _ ht := ht

end Database

namespace Registry

open Attempt

variable {J : Database → Prop} {K : Registry → Prop}

/-! ## Steps of the registry -/

/-- Whether a property of the registry is kept by all of its steps, by whatever else befalls its store, and
by starting over. -/
structure Kept (K : Registry → Prop) : Prop where
  create : ∀ e, Keeps K (create e)
  get : ∀ id, Keeps K (get? id)
  list : Keeps K list
  update : ∀ id e, Keeps K (update id e)
  delete : ∀ id, Keeps K (delete id)
  recordPoll : ∀ now id agent, Keeps K (recordPoll now id agent)
  rebuild : Keeps K rebuild
  store : ∀ {r g}, g.database = r.store.database → K r → K (r.withStore g)
  blank : ∀ {r : Registry}, K r → K (.blank r.store)

/-- Whether a property of the registry is kept by those of its steps, at an instant, that neither bring a record
nor take one away, and by whatever else befalls its store. -/
structure KeptAt (now : Instant) (K : Registry → Prop) : Prop where
  get : ∀ id, Keeps K (get? id)
  list : Keeps K list
  recordPoll : ∀ id agent, Keeps K (recordPoll now id agent)
  rebuild : Keeps K rebuild
  store : ∀ {r g}, g.database = r.store.database → K r → K (r.withStore g)

theorem Kept.keptAt (h : Kept K) (now : Instant) : KeptAt now K := ⟨h.get, h.list, h.recordPoll now, h.rebuild, h.store⟩

theorem keeps_call {α : Type} {x : Database.Step α} (hx : Keeps J x) (m : StoreMethod) :
    Keeps (fun g => J g.database) (Gateway.call m x) := by
  intro g hg
  rcases Gateway.run_call m x g with ⟨err, h⟩ | h
  · rw [h]
    exact hg
  · rw [h]
    exact hx _ hg

theorem keeps_onStoreAs {α : Type} {x : Database.Step α} (hx : Keeps J x) (error : StoreError → RegistryError)
    (m : StoreMethod) : Keeps (fun r => J r.store.database) (onStoreAs error (Gateway.call m x)) :=
  (keeps_call hx m).within (fun _ hr => hr) (fun _ _ _ hg => hg) error

/-- A call of the store that only reads keeps what does not depend on the refusals. -/
theorem keeps_read {α : Type} (hstore : ∀ {r g}, g.database = r.store.database → K r → K (r.withStore g))
    {x : Database.Step α} (hx : ∀ d, Keeps (· = d) x) (error : StoreError → RegistryError) (m : StoreMethod) :
    Keeps K (onStoreAs error (Gateway.call m x)) := by
  intro r hr
  rcases run_onStoreAs error m x r with ⟨err, g, hg, h⟩ | ⟨g, hg, h⟩
  · rw [h]
    exact hstore hg hr
  · rw [h]
    exact hstore (hg.trans (hx _ _ rfl)) hr

theorem keeps_get?_of_store (hstore : ∀ {r g}, g.database = r.store.database → K r → K (r.withStore g))
    (id : EnvironmentId) : Keeps K (get? id) :=
  (keeps_read hstore (fun _ => Database.keeps_environment? id) _ _).bind (fun _ => keeps_view _)

theorem keeps_list_of_store (hstore : ∀ {r g}, g.database = r.store.database → K r → K (r.withStore g)) :
    Keeps K list :=
  (keeps_read hstore (fun _ => Database.keeps_all) _ _).bind (fun _ => keeps_view _)

/-- Changes of the indices leave the store. -/
theorem keeps_indices (f : Registry → Registry) (h : ∀ r, (f r).store = r.store) :
    Keeps (fun r => J r.store.database) (change f : Step Unit) := by
  intro r hr
  change J (f r).store.database
  rwa [h]

theorem keeps_guard (reason : Registry → Option RegistryError) : Keeps K (guard reason) := by
  refine (keeps_view _).bind (fun err => ?_)
  split
  · exact keeps_refuse _
  · exact keeps_pure _

/-- What the calls of the store keep is kept by the registry. -/
theorem kept_of_rowsKept (h : Database.RowsKept J) : Kept (fun r => J r.store.database) where
  create e := by
    refine (keeps_guard _).bind (fun _ => (keeps_onStoreAs (h.insert _) _ _).bind (fun stored => ?_))
    exact (keeps_indices (·.enterNew stored) (fun r => r.store_enterNew stored)).bind (fun _ => keeps_pure _)
  get id := (keeps_onStoreAs (Database.keeps_environment? id) _ _).bind (fun _ => keeps_view _)
  list := (keeps_onStoreAs Database.keeps_all _ _).bind (fun _ => keeps_view _)
  update id e := by
    refine (keeps_onStoreAs (Database.keeps_environment? id) _ _).bind (fun previous => ?_)
    cases previous with
    | none => exact keeps_refuse _
    | some previous =>
      refine (keeps_guard _).bind (fun _ => (keeps_onStoreAs (h.save _) _ _).bind (fun stored => ?_))
      refine (keeps_indices _ (fun r => ?_)).bind (fun _ => keeps_view _)
      obtain ⟨edgeIndex, he⟩ :=
        r.rebind_eq id previous.boundEdgeId? ({ e with id } : Environment).normalize.boundEdgeId?
      rw [he]
      rfl
  delete id := (keeps_onStoreAs (h.delete id) _ _).bind (fun _ => keeps_indices (·.forget id) (fun _ => rfl))
  recordPoll now id agent := by
    refine (keeps_onStoreAs (Database.keeps_environment? id) _ _).bind (fun e? => ?_)
    cases e? with
    | none => exact keeps_refuse _
    | some e =>
      refine (keeps_clock now).bind (fun now => (keeps_indices (·.hear now id) (fun _ => rfl)).bind (fun _ => ?_))
      split
      · exact (keeps_onStoreAs (h.save _) _ _).bind (fun _ => keeps_view _)
      · exact keeps_view _
  rebuild := (keeps_onStoreAs Database.keeps_all _ _).bind
    (fun es => keeps_indices (·.reindex es) (fun r => r.store_reindex es))
  store hg hr := by rwa [show (withStore _ _).store.database = _ from hg]
  blank hr := hr

end Registry

namespace Service

open Attempt

variable {J : Database → Prop} {K : Registry → Prop}

/-! ## Events -/

/-- Whether the database of a service has a property. -/
abbrev Stores (J : Database → Prop) (s : Service) : Prop := J s.registry.store.database

/-- Whether the registry of a service has a property. -/
abbrev Registers (K : Registry → Prop) (s : Service) : Prop := K s.registry

/-- Whether an event brings no record and takes none away, and neither changes the settings nor starts anew. -/
def Event.IsCalm : Event → Prop
  | create _ | update _ _ | delete _ | updateSettings _ | restart => False
  | _ => True

theorem keeps_onRegistry {α : Type} {x : Registry.Step α} (hx : Keeps K x) : Keeps (Registers K) (onRegistry x) :=
  hx.within (fun _ hs => hs) (fun _ _ _ hr => hr) _

theorem keeps_onTunnels {α : Type} (x : Coordinator.Step α) : Keeps (Registers K) (onTunnels x) := fun _ hs => hs

theorem keeps_onSettingsOf {α : Type} {x : Database.Step α} (hx : Keeps J x) (m : StoreMethod) :
    Keeps (Stores J) (onSettings (Gateway.call m x)) :=
  (Registry.keeps_call hx m).within (fun _ hs => hs) (fun _ _ _ hg => hg) _

theorem keeps_loadSettingsOf : Keeps (Stores J) loadSettings :=
  (keeps_onSettingsOf Database.keeps_currentSettings _).bind (fun _ => keeps_change (fun _ hs => hs))

theorem keeps_start : Keeps (Stores J) start := by
  refine (keeps_onRegistry (K := fun r => J r.store.database) ?_).bind (fun _ => keeps_loadSettingsOf)
  exact (Registry.keeps_onStoreAs Database.keeps_all _ _).bind
    (fun es => Registry.keeps_indices (·.reindex es) (fun r => r.store_reindex es))

/-- A change of the settings writes no environment. -/
theorem keeps_registers_updateSettings
    (hstore : ∀ {r g}, g.database.environments = r.store.database.environments → K r → K (r.withStore g))
    (now : Instant) (settings : Settings) : Keeps (Registers K) (Service.updateSettings now settings) := by
  have hgateway : ∀ {s g}, Registers K s → g.database.environments = s.registry.store.database.environments →
      Registers K (s.withStore g) := fun hs hg => hstore hg hs
  refine (keeps_onSettings hgateway (fun environments => ?_)).bind (fun _ => keeps_change (fun _ hs => hs))
  exact Database.keeps_updateSettingsAt (fun _ hd => hd) now settings

section Calm

variable {now : Instant} (h : Registry.KeptAt now K)
include h

theorem keeps_get (id : EnvironmentId) : Keeps (Registers K) (Service.get id) := by
  refine (keeps_onRegistry (h.get id)).bind (fun e? => ?_)
  cases e? with
  | none => exact keeps_refuse _
  | some e => exact keeps_pure e

/-- What the registry keeps at an instant is kept by every calm event then. -/
theorem keeps_registers_of_isCalm {event : Event} (hcalm : event.IsCalm) : Keeps (Registers K) (event.step now) := by
  cases event with
  | create | update | delete | updateSettings | restart => exact hcalm.elim
  | get id => exact (keeps_get h id).ignored
  | list => exact (keeps_onRegistry h.list).ignored
  | poll edgeId agent =>
    refine Keeps.ignored ((keeps_view _).bind (fun owner => ?_))
    cases owner with
    | none => exact keeps_refuse _
    | some id =>
      refine ((keeps_onRegistry (h.recordPoll id agent)).renamed _).bind (fun _ => ?_)
      refine (keeps_onTunnels _).bind (fun _ => (keeps_onTunnels _).bind (fun _ => ?_))
      exact (keeps_view _).bind (fun _ => keeps_pure _)
  | recordActivity id => exact ((keeps_view _).bind (fun _ => keeps_onTunnels _)).ignored
  | requireTunnel id => exact (Keeps.bind (fun _ hs => hs) (fun _ => keeps_onTunnels _)).ignored
  | stopTunnel id => exact keeps_onTunnels _
  | await id =>
    refine ((keeps_get h id).bind (fun _ => (keeps_view _).bind (fun _ => ?_))).ignored
    exact Keeps.bind (fun _ hs => hs) (fun _ => keeps_pure _)
  | attachJob id job => exact keeps_attachJob (fun _ hs _ => hs)
  | detachJob job => exact keeps_change (fun _ hs => hs)
  | acknowledgeJob id job => exact Keeps.ignored (fun _ hs => hs)
  | coordinate call => exact fun _ hs => hs
  | rebuild => exact keeps_onRegistry h.rebuild
  | refuseNext method error => exact keeps_change (fun _ hs => h.store rfl hs)

end Calm

section Kept

variable (h : Registry.Kept K)
include h

/-- Loading the settings leaves the database and the indices. -/
theorem keeps_registers_loadSettings : Keeps (Registers K) loadSettings := by
  intro s hs
  have hdatabase := keeps_loadSettingsOf (J := fun d => d = s.registry.store.database) s rfl
  have hregistry : (loadSettings.run s).2.registry = s.registry.withStore (loadSettings.run s).2.registry.store := by
    have hkeeps : Keeps (fun u => u.registry = s.registry.withStore u.registry.store) loadSettings := by
      refine Keeps.bind (fun u hu => ?_) (fun _ => keeps_change (fun _ hu => hu))
      change u.registry.withStore _ = s.registry.withStore _
      rw [hu]
      rfl
    exact hkeeps s rfl
  change K _
  rw [hregistry]
  exact h.store hdatabase hs

theorem keeps_registers_restart : Keeps (Registers K) restart := by
  intro s hs
  have hkept := keeps_start (J := fun d => d = s.registry.store.database) s.restarted rfl
  have hstart : Keeps (Registers K) start :=
    (keeps_onRegistry h.rebuild).bind (fun _ => keeps_registers_loadSettings h)
  have hfresh := hstart s.restarted (h.blank hs)
  rw [run_restart]
  rcases hr : start.run s.restarted with ⟨_ | _ | _, fresh⟩ <;> rw [hr] at hkept hfresh
  · exact hfresh
  · exact h.store hkept hs
  · exact h.store hkept hs

/-- What the registry keeps is kept by every event that does not change the settings. -/
theorem keeps_registers_of_ne_updateSettings (now : Instant) {event : Event}
    (hs : ∀ settings, event ≠ .updateSettings settings) : Keeps (Registers K) (event.step now) := by
  cases event with
  | create e =>
    refine ((keeps_onRegistry (h.create e)).bind (fun created => ?_)).ignored
    split
    · exact (keeps_view _).bind (fun _ => keeps_onRegistry (h.update _ _))
    · exact keeps_pure _
  | update id e => exact (keeps_onRegistry (h.update id e)).ignored
  | delete id => exact (keeps_onRegistry (h.delete id)).bind (fun _ => keeps_change (fun _ hs => hs))
  | updateSettings settings => exact absurd rfl (hs settings)
  | restart => exact (keeps_registers_restart h).ignored
  | _ => exact keeps_registers_of_isCalm (h.keptAt now) trivial

end Kept

/-- What the calls that write to the environments keep is kept by every event that does not change the
settings. -/
theorem keeps_stores_of_ne_updateSettings (h : Database.RowsKept J) (now : Instant) {event : Event}
    (hs : ∀ settings, event ≠ .updateSettings settings) : Keeps (Stores J) (event.step now) :=
  keeps_registers_of_ne_updateSettings (Registry.kept_of_rowsKept h) now hs

/-- What the calls of the store keep is kept by every event. -/
theorem keeps_stores (h : Database.Kept J) (now : Instant) (event : Event) : Keeps (Stores J) (event.step now) := by
  cases event with
  | updateSettings settings =>
    exact (keeps_onSettingsOf (h.updateSettings now settings) _).bind (fun _ => keeps_change (fun _ hs => hs))
  | _ => exact keeps_stores_of_ne_updateSettings h.toRowsKept now nofun

/-- Ids are counted from zero on, however long the service runs. -/
theorem stores_sequence_of_run {s₀ s : Service} (hd : s₀.registry.store.database.Sound)
    {events : List (Instant × Event)}
    (hrun : Run Event.step (fun _ _ _ => True) s₀ events s) : Stores (Database.Has (fun t => 0 ≤ t.sequence)) s := by
  refine hrun.inv _ (fun u hu => ?_)
    (fun s now event hs _ => keeps_stores Database.rewrites_sequence.kept now event s hs)
  obtain ⟨t, ht, hsound⟩ := hd
  cases ht.symm.trans hu
  exact hsound.sequence

end Service

end EdgeFleet
