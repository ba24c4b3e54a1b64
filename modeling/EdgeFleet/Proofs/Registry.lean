import EdgeFleet.Proofs.Indices
/-!
# What a step of the registry does

For every step of a registry whose table is sound, each way in which it can end, with the rows and the
indices that it leaves (`Creating`, `Updating`, `Deleting`, `Recording`); how a creation ends is told for any
registry first (`Entering`). Where the indices stood over the table they do so again after every step but a
creation that is cut off.
-/

namespace EdgeFleet

namespace Registry

open Attempt

variable {r r₀ : Registry} {t : EnvironmentTable} {e : Environment} {id : EnvironmentId} {now : Instant}

/-! ## Calls of the store -/

/-- A call of the store is refused where the gateway was told to, and is that of the database else. -/
theorem run_onStoreAs_eq {α : Type} (error : StoreError → RegistryError) (m : StoreMethod) (x : Database.Step α)
    (r : Registry) :
    (onStoreAs error (Gateway.call m x)).run r = match r.store.refusals.lookup m with
      | some err => (.refused (error err), r.withStore { r.store with refusals := r.store.without m })
      | none => ((x.run r.store.database).1.rename error (fun a => a),
          r.withStore { r.store with database := (x.run r.store.database).2 }) := by
  unfold onStoreAs
  rw [run_within]
  cases h : r.store.refusals.lookup m with
  | some err =>
    have hcall : (Gateway.call m x).run r.store = (.refused err, { r.store with refusals := r.store.without m }) := by
      rw [run, Gateway.call, h]
    rw [hcall]
    rfl
  | none =>
    have hcall : (Gateway.call m x).run r.store = (Gateway.direct x).run r.store := by
      rw [run, Gateway.call, h, run]
    rw [hcall, Gateway.direct, run_within, Outcome.rename_id]
    rfl

/-- Such a call is refused without reaching the database, or is that of the database. -/
theorem run_onStoreAs {α : Type} (error : StoreError → RegistryError) (m : StoreMethod) (x : Database.Step α)
    (r : Registry) :
    (∃ err g, g.database = r.store.database ∧
      (onStoreAs error (Gateway.call m x)).run r = (.refused err, r.withStore g)) ∨
    ∃ g, g.database = (x.run r.store.database).2 ∧
      (onStoreAs error (Gateway.call m x)).run r =
        ((x.run r.store.database).1.rename error (fun a => a), r.withStore g) := by
  rw [run_onStoreAs_eq]
  cases r.store.refusals.lookup m with
  | some err => exact .inl ⟨_, { r.store with refusals := r.store.without m }, rfl, rfl⟩
  | none => exact .inr ⟨{ r.store with database := (x.run r.store.database).2 }, rfl, rfl⟩

theorem table_withStore (hd : r.store.database.environments = some t) {g : Gateway}
    (hg : g.database = r.store.database) : (r.withStore g).store.database.environments = some t :=
  (congrArg (·.environments) hg).trans hd

/-- The record of an environment is read, unless the gateway refuses. -/
theorem run_environment? (hd : r.store.database.environments = some t) (h : t.Written) (id : EnvironmentId) :
    ∃ g, g.database = r.store.database ∧
      ((∃ err, (onStore (Gateway.environment? id)).run r = (.refused err, r.withStore g)) ∨
        (onStore (Gateway.environment? id)).run r = (.done (t.record? id), r.withStore g)) := by
  rcases run_onStoreAs .ofStore .environment (Database.environment? id) r with ⟨err, g, hg, hr⟩ | ⟨g, hg, hr⟩
  · exact ⟨g, hg, .inl ⟨err, hr⟩⟩
  · rw [Database.run_environment? hd h] at hg hr
    exact ⟨g, hg, .inr hr⟩

/-- All records are read, unless the gateway refuses. -/
theorem run_all (hd : r.store.database.environments = some t) (h : t.Written) (hfits : t.Fits)
    (error : StoreError → RegistryError) :
    ∃ g, g.database = r.store.database ∧
      ((∃ err, (onStoreAs error Gateway.all).run r = (.refused err, r.withStore g)) ∨
        (onStoreAs error Gateway.all).run r = (.done t.records, r.withStore g)) := by
  rcases run_onStoreAs error .scanAll Database.all r with ⟨err, g, hg, hr⟩ | ⟨g, hg, hr⟩
  · exact ⟨g, hg, .inl ⟨err, hr⟩⟩
  · rw [Database.run_all hd h hfits] at hg hr
    exact ⟨g, hg, .inr hr⟩

/-- The row of an environment that has one is replaced, unless it is refused. -/
theorem run_save (hd : r.store.database.environments = some t) (h : t.Written) (hid : t.holds e.id = true) :
    (∃ err g, g.database = r.store.database ∧
      (onStore (Gateway.save e)).run r = (.refused err, r.withStore g)) ∨
    t.collides e.id.number.toInt (.ofEnvironment e) = false ∧
      ∃ g, g.database.environments = some (t.withRow e.id (.ofEnvironment e)) ∧
        (onStore (Gateway.save e)).run r = (.done e.stored, r.withStore g) := by
  rcases run_onStoreAs .ofStore .save (Database.save e) r with ⟨err, g, hg, hr⟩ | ⟨g, hg, hr⟩
  · exact .inl ⟨err, g, hg, hr⟩
  · obtain ⟨e', hrow, -⟩ := h.row?_eq_some hid
    rw [Database.run_save hd h, if_pos hid, Database.run_replace hd hrow] at hg hr
    split at hr
    · rename_i hc
      rw [if_pos hc] at hg
      exact .inl ⟨_, g, hg, hr⟩
    · rename_i hc
      rw [if_neg hc] at hg
      exact .inr ⟨by rwa [Bool.not_eq_true] at hc, g, by rw [hg]; rfl, hr⟩

theorem run_guard (reason : Registry → Option RegistryError) (r : Registry) :
    (guard reason).run r = (match reason r with
      | some err => .refused err
      | none => .done (), r) := by
  unfold guard
  rw [run_bind_done (run_view reason r)]
  cases reason r <;> rfl

/-! ## How steps end -/

/-- The ends of creating an environment in a registry, which need not stand over its table. -/
inductive Entering (r : Registry) (e : Environment) : Outcome RegistryError Environment × Registry → Prop
  | refused {err : RegistryError} {g : Gateway} (hg : g.database = r.store.database) :
      Entering r e (.refused err, r.withStore g)
  /-- The row is stored under a negative id. -/
  | cutOff {t : EnvironmentTable} {n : Int} {g : Gateway} (hd : r.store.database.environments = some t)
      (hid : Database.idFor? t e = some n) (hn : n < 0) (hfree : t.rows.contains n = false)
      (hc : t.collides n (.ofEnvironment e) = false)
      (hg : g.database = r.store.database.withTable (t.put n (.ofEnvironment e))) :
      Entering r e (.crashed, r.withStore g)
  /-- The row is stored under the next id, which has more than 32 bits. -/
  | unread {err : RegistryError} {t : EnvironmentTable} {n : Int} {g : Gateway}
      (hd : r.store.database.environments = some t) (ha : e.id.isAssigned = false) (hn : t.nextId? = some n)
      (hmost : Decimal.signed32.most < n)
      (hg : g.database = r.store.database.withTable (t.put n (.ofEnvironment e))) :
      Entering r e (.refused err, r.withStore g)
  | entered {t : EnvironmentTable} {id : EnvironmentId} {g : Gateway} (hd : r.store.database.environments = some t)
      (hid : Database.idFor? t e = some id.number.toInt) (hn : 0 ≤ id.number.toInt) (hfree : t.holds id = false)
      (hc : t.collides id.number.toInt (.ofEnvironment e) = false)
      (howner : ∀ k, e.boundEdgeId? = some k → r.owner? k = none)
      (hg : g.database = r.store.database.withTable (t.put id.number.toInt (.ofEnvironment e)))
      (hrefusals : g.refusals = r.store.refusals) :
      Entering r e (.done { e.normalize with id }, (r.withStore g).enterNew { e.normalize with id })

theorem entering (r : Registry) (e : Environment) : Entering r e ((create e).run r) := by
  unfold create
  dsimp only
  cases hconflict : r.conflict? e.normalize (fun _ => false) with
  | some err =>
    rw [run_bind_refused (by rw [run_guard, hconflict])]
    exact .refused (g := r.store) rfl
  | none =>
    rw [run_bind_done (by rw [run_guard, hconflict])]
    have hcall := run_onStoreAs_eq .ofStore .insert (Database.insert e.normalize) r
    change (onStore (Gateway.insert e.normalize)).run r = _ at hcall
    cases hl : r.store.refusals.lookup .insert with
    | some err =>
      rw [hl] at hcall
      rw [run_bind_refused hcall]
      exact .refused rfl
    | none =>
      rw [hl] at hcall
      have hi := Database.inserting r.store.database e.normalize
      generalize (Database.insert e.normalize).run r.store.database = x at hi hcall
      cases hi with
      | refused =>
        rw [run_bind_refused hcall]
        exact .refused rfl
      | cutOff hd hid hn hfree hc =>
        rw [EnvironmentRow.ofEnvironment_normalize] at hcall hc
        rw [run_bind_crashed hcall]
        exact .cutOff hd hid hn hfree hc rfl
      | unread hd ha hn hmost =>
        rw [EnvironmentRow.ofEnvironment_normalize] at hcall
        rw [run_bind_refused hcall]
        exact .unread hd ha hn hmost rfl
      | @inserted t id hd hid hn hfree hc =>
        rw [EnvironmentRow.ofEnvironment_normalize] at hcall hc
        rw [Environment.normalize_normalize] at hcall
        rw [run_bind_done hcall]
        refine .entered hd hid hn hfree hc (fun k hk => ?_) rfl rfl
        -- An edge id that belonged to anyone was refused above.
        rw [← e.boundEdgeId?_normalize] at hk
        unfold conflict? at hconflict
        cases ho : r.owner? k with
        | none => rfl
        | some i => simp [hk, ho] at hconflict

/-- The ends of creating an environment. -/
inductive Creating (r : Registry) (t : EnvironmentTable) (e : Environment) :
    Outcome RegistryError Environment × Registry → Prop
  | refused {err : RegistryError} {g : Gateway} (hg : g.database = r.store.database) :
      Creating r t e (.refused err, r.withStore g)
  /-- The row was stored under an id that has more than 32 bits. -/
  | unreadable {err : RegistryError} {g : Gateway} {n : Int} (hn : Decimal.signed32.most < n)
      (hg : g.database.environments = some (t.put n (.ofEnvironment e))) :
      Creating r t e (.refused err, r.withStore g)
  /-- The row was stored under the negative id that the record brought. -/
  | cutOff {g : Gateway} (hn : e.id.number.toInt < 0) (hfree : t.holds e.id = false)
      (hc : t.collides e.id.number.toInt (.ofEnvironment e) = false)
      (hg : g.database.environments = some (t.put e.id.number.toInt (.ofEnvironment e))) :
      Creating r t e (.crashed, r.withStore g)
  | created {id : EnvironmentId} {g : Gateway} (hid : id.isAssigned = true) (hfree : t.holds id = false)
      (hc : t.collides id.number.toInt (.ofEnvironment e) = false)
      (hg : g.database.environments = some (t.put id.number.toInt (.ofEnvironment e))) :
      Creating r t e
        (.done { e.normalize with id }, (r.withStore g).enterNew { e.normalize with id })

theorem creating (ht : r.store.database.environments = some t) (h : t.Sound) (e : Environment) :
    Creating r t e ((create e).run r) := by
  have he := entering r e
  generalize (create e).run r = x at he
  cases he with
  | refused hg => exact .refused hg
  | cutOff hd hid hn hfree hc hg =>
    cases hd.symm.trans ht
    -- The next id is positive, so this one is that of the record.
    cases ha : e.id.isAssigned with
    | true =>
      rw [Database.idFor?_of_isAssigned ha] at hid
      cases hid
      exact .cutOff hn hfree hc (by rw [hg]; rfl)
    | false =>
      rw [Database.idFor?_of_not_isAssigned ha] at hid
      have hpast := (EnvironmentTable.nextId?_free hid).1
      exact absurd (Int.lt_of_le_of_lt h.sequence hpast) (by omega)
  | unread hd ha hn hmost hg =>
    cases hd.symm.trans ht
    exact .unreadable hmost (by rw [hg]; rfl)
  | entered hd hid hn hfree hc howner hg hrefusals =>
    cases hd.symm.trans ht
    exact .created (Database.isAssigned_of_idFor? hid h.sequence) hfree hc (by rw [hg]; rfl)

/-- The ends of replacing the record of an environment. -/
inductive Updating (r : Registry) (t : EnvironmentTable) (id : EnvironmentId) (e : Environment) :
    Outcome RegistryError Environment × Registry → Prop
  | refused {err : RegistryError} {g : Gateway} (hg : g.database = r.store.database) :
      Updating r t id e (.refused err, r.withStore g)
  | updated {g : Gateway} {r' : Registry} (hid : t.holds id = true)
      (hc : t.collides id.number.toInt (.ofEnvironment e) = false)
      (hg : g.database.environments = some (t.withRow id (.ofEnvironment e)))
      (hr : r' = (((r.withStore g).rebind id (t.edgeIdOf? id) e.boundEdgeId?).note id).seed id e.lastCheckIn) :
      Updating r t id e (.done (r'.overlay { e.stored with id }), r')

theorem updating (hd : r.store.database.environments = some t) (h : t.Written) (id : EnvironmentId) (e : Environment) :
    Updating r t id e ((update id e).run r) := by
  unfold update
  dsimp only
  obtain ⟨g, hg, ⟨err, hr⟩ | hr⟩ := run_environment? hd h id
  · exact (run_bind_refused hr) ▸ .refused hg
  · rw [run_bind_done hr]
    cases hprevious : t.record? id with
    | none => exact .refused hg
    | some previous =>
      obtain ⟨hid, -, hedge⟩ := h.of_record? hprevious
      dsimp only
      -- What is saved is normalized first, which its row and its edge id do not show.
      generalize he' : ({ e with id } : Environment).normalize = e'
      have hrow : EnvironmentRow.ofEnvironment e' = .ofEnvironment e := by
        rw [← he', EnvironmentRow.ofEnvironment_normalize]
        rfl
      have hbound : e'.boundEdgeId? = e.boundEdgeId? := by
        rw [← he', Environment.boundEdgeId?_normalize]
        rfl
      have hstored : e'.stored = { e.stored with id } := by
        rw [← he', Environment.stored_normalize]
        rfl
      have hid' : e'.id = id := by rw [← he']; rfl
      cases hconflict : (r.withStore g).conflict? e' (fun existing => existing = id) with
      | some err =>
        rw [run_bind_refused (by rw [run_guard, hconflict])]
        exact .refused hg
      | none =>
        rw [run_bind_done (by rw [run_guard, hconflict])]
        rcases run_save (r := r.withStore g) (e := e') (table_withStore hd hg) h (by rwa [hid']) with
          ⟨err, g', hg', hr'⟩ | ⟨hc, g', hg', hr'⟩
        · exact (run_bind_refused hr') ▸ .refused (hg'.trans hg)
        · rw [hid', hrow] at hc hg'
          rw [run_bind_done hr', ← hedge, hbound, hstored]
          exact .updated hid hc hg' rfl

/-- Replacing a record reads no clock, and is never cut off. -/
theorem update_ne_crashed (hd : r.store.database.environments = some t) (h : t.Sound) (id : EnvironmentId)
    (e : Environment) : ((update id e).run r).1 ≠ .crashed := by
  have hu := updating hd h.written id e
  generalize (update id e).run r = x at hu
  cases hu <;> exact nofun

/-- The ends of deleting an environment. -/
inductive Deleting (r : Registry) (t : EnvironmentTable) (id : EnvironmentId) :
    Outcome RegistryError Unit × Registry → Prop
  | refused {err : RegistryError} {g : Gateway} (hg : g.database = r.store.database) :
      Deleting r t id (.refused err, r.withStore g)
  | deleted {g : Gateway} (hid : t.holds id = true) (hg : g.database.environments = some (t.without id)) :
      Deleting r t id (.done (), (r.withStore g).forget id)

theorem deleting (hd : r.store.database.environments = some t) (id : EnvironmentId) :
    Deleting r t id ((delete id).run r) := by
  unfold delete
  rcases run_onStoreAs .ofStore .delete (Database.delete id) r with ⟨err, g, hg, hr⟩ | ⟨g, hg, hr⟩
  · exact (run_bind_refused hr) ▸ .refused hg
  · rw [Database.run_delete hd] at hg hr
    split at hr
    · rename_i hid
      rw [if_pos hid] at hg
      exact (run_bind_done hr) ▸ .deleted hid (by rw [hg]; rfl)
    · rename_i hid
      rw [if_neg hid] at hg
      exact (run_bind_refused hr) ▸ .refused hg

/-- The record of an environment after a poll of an agent that describes itself anew. -/
def polled (e : Environment) (agent : Agent) (now : Instant) : Environment :=
  { e with agent, lastCheckIn := Int64.ofInt now.seconds }

/-- The ends of recording a poll of an agent. -/
inductive Recording (r : Registry) (t : EnvironmentTable) (now : Instant) (id : EnvironmentId) (agent : Option Agent) :
    Outcome RegistryError Environment × Registry → Prop
  | refused {err : RegistryError} {g : Gateway} (hg : g.database = r.store.database) :
      Recording r t now id agent (.refused err, r.withStore g)
  | unread {g : Gateway} (hid : t.holds id = true) (hc : now.isReadable = false)
      (hg : g.database = r.store.database) : Recording r t now id agent (.crashed, r.withStore g)
  /-- The agent describes itself as it did before, or not at all. -/
  | heard {e : Environment} {g : Gateway} (ht : t.record? id = some e) (ha : agent.filter (fun a => a ≠ e.agent) = none)
      (hg : g.database = r.store.database) :
      Recording r t now id agent
        (.done (((r.withStore g).hear now id).overlay e), (r.withStore g).hear now id)
  | unsaved {err : RegistryError} {g : Gateway} (hid : t.holds id = true) (hg : g.database = r.store.database) :
      Recording r t now id agent (.refused err, (r.withStore g).hear now id)
  | saved {e : Environment} {a : Agent} {g : Gateway} (ht : t.record? id = some e)
      (ha : agent.filter (fun a => a ≠ e.agent) = some a)
      (hc : t.collides id.number.toInt (.ofEnvironment (polled e a now)) = false)
      (hg : g.database.environments = some (t.withRow id (.ofEnvironment (polled e a now)))) :
      Recording r t now id agent
        (.done (((r.withStore g).hear now id).overlay (polled e a now).stored), (r.withStore g).hear now id)

theorem recording (hd : r.store.database.environments = some t) (h : t.Written)
    (now : Instant) (id : EnvironmentId) (agent : Option Agent) :
    Recording r t now id agent ((recordPoll now id agent).run r) := by
  unfold recordPoll
  obtain ⟨g, hg, ⟨err, hr⟩ | hr⟩ := run_environment? hd h id
  · exact (run_bind_refused hr) ▸ .refused hg
  · rw [run_bind_done hr]
    cases hrecord : t.record? id with
    | none => exact .refused hg
    | some e =>
      obtain ⟨hid, hsame, -⟩ := h.of_record? hrecord
      dsimp only
      cases hc : now.isReadable with
      | false => exact (run_bind_crashed (run_clock_of_not_isReadable hc _)) ▸ .unread hid hc hg
      | true =>
        rw [run_bind_done (run_clock_of_isReadable hc _), run_bind_done (run_change _ _)]
        cases ha : agent.filter (fun a => a ≠ e.agent) with
        | none => exact .heard hrecord ha hg
        | some a =>
          dsimp only
          -- The agent was heard of before the save, so a refused one leaves that behind.
          have htable : ((r.withStore g).hear now id).store.database.environments = some t := table_withStore hd hg
          rcases run_save (e := polled e a now) htable h (by rwa [← hsame] at hid) with
            ⟨err, g', hg', hr'⟩ | ⟨hc', g', hg', hr'⟩
          · exact (run_bind_refused hr') ▸ .unsaved hid (hg'.trans hg)
          · exact (run_bind_done hr') ▸ .saved hrecord ha (hsame ▸ hc') (hsame ▸ hg')

/-! ## What steps keep -/

/-- Whether a registry stands over its table and knows whom another one knew. -/
def Leads (r₀ r : Registry) : Prop := (∃ t, r.Over t) ∧ ∀ id, r₀.contains id = true → r.contains id = true

/-- An environment that has a row is heard of. -/
theorem Over.hear (h : r.Over t) (hid : t.holds id = true) (now : Instant) : (r.hear now id).Over t := by
  refine ⟨h.table, h.sound, h.owner, h.known, fun i => ?_⟩
  rw [isSome_heartbeat?_hear, h.heard]
  by_cases hi : i = id
  · rw [hi, hid, Bool.or_true]
  · simp [hi]

/-- Rows that name the same edge ids as before. -/
theorem Over.rewritten (h : r.Over t) (hid : t.holds id = true)
    (hc : t.collides id.number.toInt (.ofEnvironment e) = false) (hb : e.boundEdgeId? = t.edgeIdOf? id) {g : Gateway}
    (hg : g.database.environments = some (t.withRow id (.ofEnvironment e))) :
    (r.withStore g).Over (t.withRow id (.ofEnvironment e)) := by
  have hholds : ∀ i, (t.withRow id (.ofEnvironment e)).holds i = t.holds i := by
    intro i
    rw [EnvironmentTable.holds_withRow]
    by_cases hi : i = id
    · rw [hi, hid, Bool.or_true]
    · simp [hi]
  refine ⟨hg, h.sound.withRow (h.sound.written.isAssigned hid) hc, fun k i => ?_, fun i => ?_, fun i => ?_⟩
  · rw [EnvironmentTable.edgeIdOf?_withRow]
    apply (h.owner k i).trans
    split
    · rename_i hi
      rw [hi, ← hb]
      rfl
    · rfl
  · exact (h.known i).trans (hholds i).symm
  · exact (h.heard i).trans (hholds i).symm

theorem keeps_leads_get? (id : EnvironmentId) : Keeps r₀.Leads (get? id) := by
  rintro r ⟨⟨t, h⟩, hk⟩
  unfold get?
  obtain ⟨g, hg, ⟨err, hr⟩ | hr⟩ := run_environment? h.table h.sound.written id
  · rw [run_bind_refused hr]
    exact ⟨⟨t, h.withStore hg⟩, hk⟩
  · rw [run_bind_done hr]
    exact ⟨⟨t, h.withStore hg⟩, hk⟩

theorem keeps_leads_list : Keeps r₀.Leads list := by
  rintro r ⟨⟨t, h⟩, hk⟩
  unfold list onStore
  obtain ⟨g, hg, ⟨err, hr⟩ | hr⟩ := run_all h.table h.sound.written h.sound.fits .ofStore
  · rw [run_bind_refused hr]
    exact ⟨⟨t, h.withStore hg⟩, hk⟩
  · rw [run_bind_done hr]
    exact ⟨⟨t, h.withStore hg⟩, hk⟩

theorem keeps_leads_update (id : EnvironmentId) (e : Environment) : Keeps r₀.Leads (update id e) := by
  rintro r ⟨⟨t, h⟩, hk⟩
  have hu := updating h.table h.sound.written id e
  generalize (update id e).run r = x at hu
  cases hu with
  | refused hg => exact ⟨⟨t, h.withStore hg⟩, hk⟩
  | updated hid hc hg hr =>
    have hover := h.rebound hid hc e.lastCheckIn hg
    rw [hr]
    refine ⟨⟨_, hover⟩, fun i hi => ?_⟩
    rw [hover.known, EnvironmentTable.holds_withRow, ← h.known, hk i hi, Bool.or_true]

theorem keeps_leads_recordPoll (now : Instant) (id : EnvironmentId) (agent : Option Agent) :
    Keeps r₀.Leads (recordPoll now id agent) := by
  rintro r ⟨⟨t, h⟩, hk⟩
  have hp := recording h.table h.sound.written now id agent
  generalize (recordPoll now id agent).run r = x at hp
  cases hp with
  | refused hg => exact ⟨⟨t, h.withStore hg⟩, hk⟩
  | unread _ _ hg => exact ⟨⟨t, h.withStore hg⟩, hk⟩
  | heard ht _ hg => exact ⟨⟨t, (h.withStore hg).hear (h.sound.written.of_record? ht).1 now⟩, hk⟩
  | unsaved hid hg => exact ⟨⟨t, (h.withStore hg).hear hid now⟩, hk⟩
  | saved ht _ hc hg =>
    obtain ⟨hid, -, hedge⟩ := h.sound.written.of_record? ht
    have hover := h.rewritten hid hc hedge.symm hg
    exact ⟨⟨_, hover.hear (by rw [EnvironmentTable.holds_withRow, hid, Bool.or_true]) now⟩, hk⟩

/-- The indices are built anew from the records, unless the gateway refuses. -/
theorem rebuilding (hd : r.store.database.environments = some t) (h : t.Sound) :
    ∃ g, g.database = r.store.database ∧
      ((∃ err, rebuild.run r = (.refused err, r.withStore g)) ∨
        rebuild.run r = (.done (), (r.withStore g).reindex t.records)) := by
  unfold rebuild
  obtain ⟨g, hg, ⟨err, hr⟩ | hr⟩ := run_all hd h.written h.fits .storeUnavailable
  · exact ⟨g, hg, .inl ⟨err, run_bind_refused hr⟩⟩
  · exact ⟨g, hg, .inr (run_bind_done hr)⟩

/-- Building the indices anew leaves them over the table, where it comes to that. -/
theorem run_rebuild (hd : r.store.database.environments = some t) (h : t.Sound)
    (hheard : ∀ id, (r.heartbeat? id).isSome = true → t.holds id = true) :
    ∃ g, g.database = r.store.database ∧
      ((∃ err, rebuild.run r = (.refused err, r.withStore g)) ∨
        ∃ r', rebuild.run r = (.done (), r') ∧ r'.Over t) := by
  obtain ⟨g, hg, hr | hr⟩ := rebuilding hd h
  · exact ⟨g, hg, .inl hr⟩
  · exact ⟨g, hg, .inr ⟨_, hr, over_reindex (table_withStore hd hg) h hheard⟩⟩

/-- A registry that is built over a database that refuses nothing. -/
theorem run_rebuild_clear {d : Database} (hd : d.environments = some t) (h : t.Sound) :
    ∃ r', rebuild.run (blank (.clear d)) = (.done (), r') ∧ r'.Over t := by
  have hall : (onStoreAs .storeUnavailable Gateway.all).run (blank (.clear d)) =
      (((Database.all.run d).1.rename (fun err => err) (fun a => a)).rename .storeUnavailable (fun a => a),
        blank (.clear (Database.all.run d).2)) := rfl
  rw [Database.run_all hd h.written h.fits] at hall
  unfold rebuild
  exact ⟨_, run_bind_done hall, over_reindex hd h nofun⟩

theorem keeps_leads_rebuild : Keeps r₀.Leads rebuild := by
  rintro r ⟨⟨t, h⟩, hk⟩
  obtain ⟨g, hg, ⟨err, hr⟩ | ⟨r', hr, hover⟩⟩ := run_rebuild h.table h.sound (fun id hi => by rwa [h.heard] at hi)
  · rw [hr]
    exact ⟨⟨t, h.withStore hg⟩, hk⟩
  · rw [hr]
    refine ⟨⟨t, hover⟩, fun i hi => ?_⟩
    rw [hover.known, ← h.known]
    exact hk i hi

end Registry

end EdgeFleet
