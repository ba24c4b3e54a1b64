import EdgeFleet.Proofs.Service
/-!
# Edge ids that are taken

The index of edge ids `Follows` the rows: it gives an edge id only to an environment whose row carries it.
So an edge id that a row carries is refused to every other environment before the store is written, unless
the index `Lacks` it, and only then the store comes to refuse it (`TellsConflicts`). The index lacks nothing
but edge ids of environments that were created under a negative id: such a creation is cut off between the
store and the index.
-/

namespace EdgeFleet

/-- Whether the next call of a method goes through to the database. -/
def Gateway.Serves (g : Gateway) (m : StoreMethod) : Prop := g.refusals.lookup m = none

/-- To refuse a method does not concern the other ones. -/
theorem Gateway.Serves.refuseNext {g : Gateway} {m m' : StoreMethod} (h : g.Serves m) (hne : m ≠ m') (e : StoreError) :
    (g.refuseNext m' e).Serves m := by
  unfold Serves at h ⊢
  rw [List.lookup_eq_none_iff] at h ⊢
  intro p hp
  obtain rfl | hp := List.mem_cons.1 hp
  · exact bne_iff_ne.2 hne
  · exact h p (List.mem_filter.1 hp).1

/-- The refusal of a database that keeps edge ids apart. -/
def RegistryError.duplicate : RegistryError := .storeUnavailable (.database .duplicateEdgeId)

namespace Database

open Attempt

variable {d : Database} {t : EnvironmentTable} {e : Environment} {id : EnvironmentId}

/-! ## Rows that collide -/

/-- The edge id of a row that collides is carried by a row under another id. -/
theorem exists_of_collides (h : t.Sound) {n : Int} (hc : t.collides n (.ofEnvironment e) = true) :
    ∃ k id, e.boundEdgeId? = some k ∧ t.edgeIdOf? id = some k ∧ id.number.toInt ≠ n := by
  by_contra hnone
  have hapart : t.collides n (.ofEnvironment e) = false := by
    rw [EnvironmentTable.collides_eq_false_iff]
    intro _ k hk m row hrow hm
    obtain ⟨id, e', -, rfl, -⟩ := h.row hrow
    by_contra hne
    exact hnone ⟨k, id, hk, Option.bind_eq_some_iff.2 ⟨row, hrow, hm⟩, hne⟩
  rw [hc] at hapart
  cases hapart

theorem collides_of_add (hd : d.environments = some t)
    (hr : ((add e).run d).1 = .refused (.database .duplicateEdgeId)) : ∃ n, t.collides n (.ofEnvironment e) = true := by
  rw [run_add hd] at hr
  cases hn : idFor? t e with
  | none => simp [hn] at hr
  | some n =>
    refine ⟨n, ?_⟩
    by_contra hc
    simp only [hn, hc, if_false] at hr
    split at hr
    · cases hr
    · split at hr <;> cases hr

/-- A record that is inserted is refused for its edge id only if its row collides. -/
theorem collides_of_insert (hd : d.environments = some t) (h : t.Sound)
    (hr : ((insert e).run d).1 = .refused (.database .duplicateEdgeId)) :
    ∃ n, t.collides n (.ofEnvironment e) = true := by
  unfold insert at hr
  split at hr
  · rw [run_bind_done (run_record? hd h.written e.id)] at hr
    split at hr
    · cases hr
    · exact collides_of_add hd hr
  · exact collides_of_add hd hr

/-- So is a record that takes the place of another one. -/
theorem collides_of_save (hd : d.environments = some t) (h : t.Sound) (hid : t.holds e.id = true)
    (hr : ((save e).run d).1 = .refused (.database .duplicateEdgeId)) :
    t.collides e.id.number.toInt (.ofEnvironment e) = true := by
  obtain ⟨e', hrow, -⟩ := h.written.row?_eq_some hid
  rw [run_save hd h.written, if_pos hid, run_replace hd hrow] at hr
  by_contra hc
  rw [if_neg hc] at hr
  cases hr

end Database

namespace Registry

open Attempt

variable {r r₀ r' : Registry} {t : EnvironmentTable} {e : Environment} {id i existing : EnvironmentId} {k : String}
  {now : Instant} {err : RegistryError} {α : Type} {allowed : String → Prop}

/-! ## Refusals -/

theorem conflict?_eq_some_iff {allowed : EnvironmentId → Bool} :
    r.conflict? e allowed = some err ↔ ∃ k existing, e.boundEdgeId? = some k ∧ r.owner? k = some existing ∧
      allowed existing = false ∧ err = .edgeIdConflict k existing := by
  unfold conflict?
  simp only [Option.bind_eq_bind, Option.bind_eq_some_iff]
  constructor
  · rintro ⟨k, hk, existing, ho, h⟩
    split at h
    · cases h
    · rename_i ha
      exact ⟨k, existing, hk, ho, by simpa using ha, (Option.some.inj h).symm⟩
  · rintro ⟨k, existing, hk, ho, ha, rfl⟩
    exact ⟨k, hk, existing, ho, by simp [ha]⟩

theorem conflict?_eq_none_iff {allowed : EnvironmentId → Bool} :
    r.conflict? e allowed = none ↔
      ∀ k existing, e.boundEdgeId? = some k → r.owner? k = some existing → allowed existing = true := by
  rw [← Option.not_isSome_iff_eq_none, Option.isSome_iff_exists]
  simp only [conflict?_eq_some_iff]
  constructor
  · intro h k existing hk ho
    by_contra ha
    exact h ⟨_, k, existing, hk, ho, by simpa using ha, rfl⟩
  · rintro h ⟨_, k, existing, hk, ho, ha, -⟩
    rw [h k existing hk ho] at ha
    cases ha

/-- The store never refuses as the index does. -/
theorem onStore_ne_edgeIdConflict (x : Gateway.Step α) (r : Registry) :
    ((onStore x).run r).1 ≠ .refused (.edgeIdConflict k existing) := by
  unfold onStore onStoreAs
  rw [run_within]
  intro h
  obtain ⟨err, -, he⟩ := Outcome.rename_eq_refused_iff.1 h
  cases err <;> cases he

/-- A call that is not to be refused is that of the database. -/
theorem run_onStore_of_serves {m : StoreMethod} (hs : r.store.Serves m) (x : Database.Step α) :
    (onStore (Gateway.call m x)).run r = ((x.run r.store.database).1.rename .ofStore (fun a => a),
      r.withStore { r.store with database := (x.run r.store.database).2 }) := by
  have hcall := run_onStoreAs_eq .ofStore m x r
  rwa [show r.store.refusals.lookup m = none from hs] at hcall

/-- A call that goes through is refused for an edge id where the database refuses it for that. -/
theorem refused_of_onStore {m : StoreMethod} {x : Database.Step α} (hs : r.store.Serves m)
    (h : ((onStore (Gateway.call m x)).run r).1 = .refused .duplicate) :
    (x.run r.store.database).1 = .refused (.database .duplicateEdgeId) := by
  rw [run_onStore_of_serves hs] at h
  obtain ⟨err, hx, he⟩ := Outcome.rename_eq_refused_iff.1 h
  rw [hx]
  cases err <;> cases he
  rfl

theorem run_environment?_of_serves (hd : r.store.database.environments = some t) (h : t.Written)
    (hs : r.store.Serves .environment) (id : EnvironmentId) :
    (onStore (Gateway.environment? id)).run r = (.done (t.record? id), r) := by
  have hcall := run_onStore_of_serves hs (Database.environment? id)
  rw [Database.run_environment? hd h] at hcall
  exact hcall

/-- Only the edge id of a record matters. -/
theorem conflict?_congr {e' : Environment} (h : e'.boundEdgeId? = e.boundEdgeId?) (allowed : EnvironmentId → Bool) :
    r.conflict? e' allowed = r.conflict? e allowed := by
  unfold conflict?
  rw [h]

theorem run_guard_of_some {reason : Registry → Option RegistryError} (hc : reason r = some err) :
    (guard reason).run r = (.refused err, r) := by
  rw [run_guard, hc]

theorem run_guard_of_none {reason : Registry → Option RegistryError} (hc : reason r = none) :
    (guard reason).run r = (.done (), r) := by
  rw [run_guard, hc]

/-- A creation that the index refuses leaves everything as it was. -/
theorem run_create_of_conflict (hc : r.conflict? e (fun _ => false) = some err) :
    (create e).run r = (.refused err, r) := by
  rw [← conflict?_congr e.boundEdgeId?_normalize] at hc
  unfold create
  exact run_bind_refused (run_guard_of_some hc)

theorem store_refused_of_create (hc : r.conflict? e (fun _ => false) = none)
    (h : ((create e).run r).1 = .refused err) : ((onStore (Gateway.insert e.normalize)).run r).1 = .refused err := by
  rw [← conflict?_congr e.boundEdgeId?_normalize] at hc
  unfold create at h
  rw [run_bind_done (run_guard_of_none hc)] at h
  rcases run_bind_eq_refused h with h | ⟨_, _, -, h⟩
  · exact h
  · cases h

section Update

variable (hd : r.store.database.environments = some t) (h : t.Sound) (hs : r.store.Serves .environment)
include hd h hs

theorem run_update_of_not_holds (e : Environment) (hid : t.holds id = false) :
    (update id e).run r = (.refused (.notFound id), r) := by
  unfold update
  rw [run_bind_done (run_environment?_of_serves hd h.written hs id), EnvironmentTable.record?_of_not_holds hid]
  rfl

/-- So does an update. -/
theorem run_update_of_conflict (hid : t.holds id = true)
    (hc : r.conflict? e (fun existing => existing = id) = some err) : (update id e).run r = (.refused err, r) := by
  obtain ⟨_, -, hrecord⟩ := h.written.row?_eq_some hid
  have hbound : ({ e with id } : Environment).normalize.boundEdgeId? = e.boundEdgeId? :=
    Environment.boundEdgeId?_normalize _
  rw [← conflict?_congr hbound] at hc
  unfold update
  rw [run_bind_done (run_environment?_of_serves hd h.written hs id), hrecord]
  exact run_bind_refused (run_guard_of_some hc)

theorem store_refused_of_update (hid : t.holds id = true)
    (hc : r.conflict? e (fun existing => existing = id) = none) (hr : ((update id e).run r).1 = .refused err) :
    ((onStore (Gateway.save ({ e with id } : Environment).normalize)).run r).1 = .refused err := by
  obtain ⟨_, -, hrecord⟩ := h.written.row?_eq_some hid
  have hbound : ({ e with id } : Environment).normalize.boundEdgeId? = e.boundEdgeId? :=
    Environment.boundEdgeId?_normalize _
  rw [← conflict?_congr hbound] at hc
  unfold update at hr
  rw [run_bind_done (run_environment?_of_serves hd h.written hs id), hrecord] at hr
  dsimp only at hr
  rw [run_bind_done (run_guard_of_none hc)] at hr
  rcases run_bind_eq_refused hr with hr | ⟨_, _, -, hr⟩
  · exact hr
  · cases hr

end Update

/-! ## What the index tells -/

/-- Whether the index gives edge ids only to environments whose rows carry them. -/
structure Follows (r : Registry) (t : EnvironmentTable) : Prop where
  table : r.store.database.environments = some t
  sound : t.Sound
  owner : ∀ {k id}, r.owner? k = some id → t.edgeIdOf? id = some k

/-- Whether a row carries an edge id that the index gives to nobody. -/
def Lacks (r : Registry) (t : EnvironmentTable) (k : String) : Prop :=
  r.owner? k = none ∧ ∃ id, t.edgeIdOf? id = some k

/-- Whether the index of a registry follows the rows after another one did, and lacks only what that one
lacked, or what is allowed. -/
def Succeeds (r : Registry) (t : EnvironmentTable) (allowed : String → Prop) (r' : Registry) : Prop :=
  ∃ t', r'.Follows t' ∧ ∀ k, r'.Lacks t' k → r.Lacks t k ∨ allowed k

/-- What a registry tells of edge ids that rows carry. -/
structure TellsConflicts (r : Registry) (t : EnvironmentTable) : Prop where
  refusesCreate : ∀ e k existing, ((create e).run r).1 = .refused (.edgeIdConflict k existing) ↔
    e.boundEdgeId? = some k ∧ t.edgeIdOf? existing = some k ∧ ¬ r.Lacks t k
  refusesUpdate : ∀ id e k existing, r.store.Serves .environment →
    (((update id e).run r).1 = .refused (.edgeIdConflict k existing) ↔
      t.holds id = true ∧ e.boundEdgeId? = some k ∧ t.edgeIdOf? existing = some k ∧ existing ≠ id ∧ ¬ r.Lacks t k)
  /-- A refusal changes nothing. -/
  keepsOnCreate : ∀ e k existing, ((create e).run r).1 = .refused (.edgeIdConflict k existing) →
    ((create e).run r).2 = r
  keepsOnUpdate : ∀ id e k existing, r.store.Serves .environment →
    ((update id e).run r).1 = .refused (.edgeIdConflict k existing) → ((update id e).run r).2 = r
  /-- The store refuses an edge id only if the index lacks it. -/
  duplicateCreate : ∀ e, r.store.Serves .insert → ((create e).run r).1 = .refused .duplicate →
    ∃ k, e.boundEdgeId? = some k ∧ r.Lacks t k
  duplicateUpdate : ∀ id e, r.store.Serves .environment → r.store.Serves .save →
    ((update id e).run r).1 = .refused .duplicate → ∃ k, e.boundEdgeId? = some k ∧ r.Lacks t k
  duplicatePoll : ∀ now id agent, r.store.Serves .environment → r.store.Serves .save →
    ((recordPoll now id agent).run r).1 ≠ .refused .duplicate

/-- An index that was built anew from the records lacks nothing. -/
theorem follows_reindex (hd : r.store.database.environments = some t) (h : t.Sound) :
    (r.reindex t.records).Follows t ∧ ∀ k, ¬ (r.reindex t.records).Lacks t k := by
  have howner := r.owner?_reindex_records h
  refine ⟨⟨by rw [store_reindex]; exact hd, h, fun ho => (howner _ _).1 ho⟩, ?_⟩
  rintro k ⟨hl, i, hi⟩
  rw [(howner k i).2 hi] at hl
  cases hl

namespace Follows

theorem owner?_eq_some_iff (h : r.Follows t) : r.owner? k = some i ↔ t.edgeIdOf? i = some k ∧ ¬ r.Lacks t k := by
  constructor
  · intro ho
    refine ⟨h.owner ho, fun hl => ?_⟩
    rw [hl.1] at ho
    cases ho
  · rintro ⟨hi, hl⟩
    cases ho : r.owner? k with
    | none => exact absurd ⟨ho, i, hi⟩ hl
    | some j => rw [h.sound.eq_of_edgeIdOf? (h.owner ho) hi]

/-- An edge id that the index refuses to nobody but other environments is lacked where the store refuses it. -/
theorem lacks_of_collides (h : r.Follows t) {n : Int} {allowed : EnvironmentId → Bool}
    (hc : r.conflict? e allowed = none) (hallowed : ∀ i, allowed i = true → i.number.toInt = n)
    (hcollides : t.collides n (.ofEnvironment e) = true) : ∃ k, e.boundEdgeId? = some k ∧ r.Lacks t k := by
  obtain ⟨k, i, hk, hi, hne⟩ := Database.exists_of_collides h.sound hcollides
  refine ⟨k, hk, ?_, i, hi⟩
  cases ho : r.owner? k with
  | none => rfl
  | some j =>
    have hj : j = i := h.sound.eq_of_edgeIdOf? (h.owner ho) hi
    exact absurd (hallowed i (conflict?_eq_none_iff.1 hc k i hk (hj ▸ ho))) hne

theorem create_iff (h : r.Follows t) : ((create e).run r).1 = .refused (.edgeIdConflict k existing) ↔
    e.boundEdgeId? = some k ∧ t.edgeIdOf? existing = some k ∧ ¬ r.Lacks t k := by
  rw [← h.owner?_eq_some_iff]
  constructor
  · intro hr
    cases hc : r.conflict? e (fun _ => false) with
    | none => exact absurd (store_refused_of_create hc hr) (onStore_ne_edgeIdConflict _ _)
    | some err =>
      rw [run_create_of_conflict hc] at hr
      obtain ⟨_, _, hk, ho, -, rfl⟩ := conflict?_eq_some_iff.1 hc
      cases hr
      exact ⟨hk, ho⟩
  · rintro ⟨hk, ho⟩
    rw [run_create_of_conflict (conflict?_eq_some_iff.2 ⟨k, existing, hk, ho, rfl, rfl⟩)]

theorem update_iff (h : r.Follows t) (hs : r.store.Serves .environment) :
    ((update id e).run r).1 = .refused (.edgeIdConflict k existing) ↔
      t.holds id = true ∧ e.boundEdgeId? = some k ∧ t.edgeIdOf? existing = some k ∧ existing ≠ id ∧ ¬ r.Lacks t k := by
  have howner : t.edgeIdOf? existing = some k ∧ existing ≠ id ∧ ¬ r.Lacks t k ↔
      r.owner? k = some existing ∧ existing ≠ id := by
    rw [h.owner?_eq_some_iff]
    tauto
  rw [howner]
  cases hid : t.holds id with
  | false =>
    rw [run_update_of_not_holds h.table h.sound hs e hid]
    exact ⟨nofun, fun ho => absurd ho.1 (by simp)⟩
  | true =>
    constructor
    · intro hr
      cases hc : r.conflict? e (fun existing => existing = id) with
      | none => exact absurd (store_refused_of_update h.table h.sound hs hid hc hr) (onStore_ne_edgeIdConflict _ _)
      | some err =>
        rw [run_update_of_conflict h.table h.sound hs hid hc] at hr
        obtain ⟨_, _, hk, ho, hne, rfl⟩ := conflict?_eq_some_iff.1 hc
        cases hr
        exact ⟨rfl, hk, ho, by simpa using hne⟩
    · rintro ⟨-, hk, ho, hne⟩
      have hc : r.conflict? e (fun existing => existing = id) = some (.edgeIdConflict k existing) :=
        conflict?_eq_some_iff.2 ⟨k, existing, hk, ho, by simpa using hne, rfl⟩
      rw [run_update_of_conflict h.table h.sound hs hid hc]

theorem lacks_of_create (h : r.Follows t) (hs : r.store.Serves .insert)
    (hr : ((create e).run r).1 = .refused .duplicate) : ∃ k, e.boundEdgeId? = some k ∧ r.Lacks t k := by
  cases hc : r.conflict? e (fun _ => false) with
  | some err =>
    rw [run_create_of_conflict hc] at hr
    obtain ⟨_, _, -, -, -, rfl⟩ := conflict?_eq_some_iff.1 hc
    cases hr
  | none =>
    obtain ⟨n, hn⟩ :=
      Database.collides_of_insert h.table h.sound (refused_of_onStore hs (store_refused_of_create hc hr))
    rw [EnvironmentRow.ofEnvironment_normalize] at hn
    exact h.lacks_of_collides hc nofun hn

theorem lacks_of_update (h : r.Follows t) (hs : r.store.Serves .environment) (hsave : r.store.Serves .save)
    (hr : ((update id e).run r).1 = .refused .duplicate) : ∃ k, e.boundEdgeId? = some k ∧ r.Lacks t k := by
  cases hid : t.holds id with
  | false =>
    rw [run_update_of_not_holds h.table h.sound hs e hid] at hr
    cases hr
  | true =>
    cases hc : r.conflict? e (fun existing => existing = id) with
    | some err =>
      rw [run_update_of_conflict h.table h.sound hs hid hc] at hr
      obtain ⟨_, _, -, -, -, rfl⟩ := conflict?_eq_some_iff.1 hc
      cases hr
    | none =>
      have hcollides := Database.collides_of_save (e := ({ e with id } : Environment).normalize) h.table h.sound hid
        (refused_of_onStore hsave (store_refused_of_update h.table h.sound hs hid hc hr))
      rw [EnvironmentRow.ofEnvironment_normalize] at hcollides
      exact h.lacks_of_collides hc (fun i hi => congrArg (·.number.toInt) (of_decide_eq_true hi)) hcollides

/-- A poll writes a row with the edge id that it had, so the store does not refuse it for that. -/
theorem recordPoll_ne_duplicate (h : r.Follows t) (hs : r.store.Serves .environment) (hsave : r.store.Serves .save)
    (now : Instant) (id : EnvironmentId) (agent : Option Agent) :
    ((recordPoll now id agent).run r).1 ≠ .refused .duplicate := by
  intro hr
  unfold recordPoll at hr
  rw [run_bind_done (run_environment?_of_serves h.table h.sound.written hs id)] at hr
  cases hrecord : t.record? id with
  | none => simp [hrecord, RegistryError.duplicate] at hr
  | some e =>
    obtain ⟨hid, rfl, hedge⟩ := h.sound.written.of_record? hrecord
    simp only [hrecord] at hr
    cases hc : now.isReadable with
    | false =>
      rw [run_bind_crashed (run_clock_of_not_isReadable hc r)] at hr
      cases hr
    | true =>
      rw [run_bind_done (run_clock_of_isReadable hc r), run_bind_done (run_change _ r)] at hr
      cases ha : agent.filter (fun a => a ≠ e.agent) with
      | none =>
        rw [ha] at hr
        cases hr
      | some a =>
        rw [ha] at hr
        rcases run_bind_eq_refused hr with hr | ⟨_, _, -, hr⟩
        · have hcollides := Database.collides_of_save (e := polled e a now) h.table h.sound hid
            (refused_of_onStore (r := r.hear now e.id) hsave hr)
          obtain ⟨k, i, hk, hi, hne⟩ := Database.exists_of_collides h.sound hcollides
          exact hne (congrArg (·.number.toInt) (h.sound.eq_of_edgeIdOf? hi (hedge.trans hk)))
        · cases hr

theorem tellsConflicts (h : r.Follows t) : r.TellsConflicts t where
  refusesCreate _ _ _ := h.create_iff
  refusesUpdate _ _ _ _ hs := h.update_iff hs
  keepsOnCreate e k existing hr := by
    obtain ⟨hk, hi⟩ := h.create_iff.1 hr
    rw [run_create_of_conflict (conflict?_eq_some_iff.2 ⟨k, existing, hk, h.owner?_eq_some_iff.2 hi, rfl, rfl⟩)]
  keepsOnUpdate id e k existing hs hr := by
    obtain ⟨hid, hk, hi, hne, hl⟩ := (h.update_iff hs).1 hr
    have hc : r.conflict? e (fun existing => existing = id) = some (.edgeIdConflict k existing) :=
      conflict?_eq_some_iff.2 ⟨k, existing, hk, h.owner?_eq_some_iff.2 ⟨hi, hl⟩, by simpa using hne, rfl⟩
    rw [run_update_of_conflict h.table h.sound hs hid hc]
  duplicateCreate _ hs hr := h.lacks_of_create hs hr
  duplicateUpdate _ _ hs hsave hr := h.lacks_of_update hs hsave hr
  duplicatePoll now id agent hs hsave := h.recordPoll_ne_duplicate hs hsave now id agent

/-! ## Writes to the index -/

/-- Rows that carry the same edge ids, and an index that gives them to the same environments. -/
theorem succeeds_of_same (h : r.Follows t) {t' : EnvironmentTable} (htable : r'.store.database.environments = some t')
    (ht : t'.Sound) (hrow : ∀ i, t'.edgeIdOf? i = t.edgeIdOf? i) (howner : ∀ k, r'.owner? k = r.owner? k) :
    r.Succeeds t allowed r' := by
  refine ⟨t', ⟨htable, ht, fun {k i} ho => ?_⟩, fun k hl => .inl ?_⟩
  · rw [hrow]
    exact h.owner (howner k ▸ ho)
  · obtain ⟨hl, i, hi⟩ := hl
    exact ⟨(howner k).symm.trans hl, i, (hrow i).symm.trans hi⟩

theorem succeeds_of_kept (h : r.Follows t) {g : Gateway} (hg : g.database = r.store.database) (hstore : r'.store = g)
    (howner : ∀ k, r'.owner? k = r.owner? k) : r.Succeeds t allowed r' :=
  h.succeeds_of_same (by rw [hstore, hg]; exact h.table) h.sound (fun _ => rfl) howner

/-- A row that was added and is entered in the index. -/
theorem succeeds_enterNew (h : r.Follows t) (hid : id.isAssigned = true) (hfree : t.holds id = false)
    (hc : t.collides id.number.toInt (.ofEnvironment e) = false) (stored : Environment) (hs : stored.id = id)
    (hb : stored.boundEdgeId? = e.boundEdgeId?) {g : Gateway}
    (hg : g.database.environments = some (t.put id.number.toInt (.ofEnvironment e))) :
    r.Succeeds t allowed ((r.withStore g).enterNew stored) := by
  have howner : ∀ k, ((r.withStore g).enterNew stored).owner? k =
      if e.boundEdgeId? = some k then some id else r.owner? k := by
    intro k
    rw [owner?_enterNew, hb, hs]
    rfl
  have hnone := EnvironmentTable.edgeIdOf?_of_not_holds hfree
  refine ⟨_, ⟨by rw [store_enterNew]; exact hg, h.sound.put hid hc, fun {k i} ho => ?_⟩, fun k hl => .inl ?_⟩
  · rw [howner] at ho
    rw [EnvironmentTable.edgeIdOf?_put]
    split at ho
    · rename_i hk
      cases ho
      rwa [if_pos rfl]
    · have hi := h.owner ho
      rw [if_neg (by rintro rfl; rw [hnone] at hi; cases hi), hi]
  · obtain ⟨hl, i, hi⟩ := hl
    rw [howner] at hl
    rw [EnvironmentTable.edgeIdOf?_put] at hi
    split at hl
    · cases hl
    · rename_i hk
      split at hi
      · exact absurd hi hk
      · exact ⟨hl, i, hi⟩

/-- A row that was added, of which the index does not learn. -/
theorem succeeds_cutOff (h : r.Follows t) (hallowed : ∀ k, e.boundEdgeId? = some k → allowed k)
    (hid : e.id.isAssigned = true) (hfree : t.holds e.id = false)
    (hc : t.collides e.id.number.toInt (.ofEnvironment e) = false) {g : Gateway}
    (hg : g.database.environments = some (t.put e.id.number.toInt (.ofEnvironment e))) :
    r.Succeeds t allowed (r.withStore g) := by
  have hnone := EnvironmentTable.edgeIdOf?_of_not_holds hfree
  refine ⟨_, ⟨hg, h.sound.put hid hc, fun {k i} ho => ?_⟩, fun k hl => ?_⟩
  · have hi := h.owner ho
    rw [EnvironmentTable.edgeIdOf?_put, if_neg (by rintro rfl; rw [hnone] at hi; cases hi), hi]
  · obtain ⟨hl, i, hi⟩ := hl
    rw [EnvironmentTable.edgeIdOf?_put] at hi
    split at hi
    · exact .inr (hallowed k hi)
    · exact .inl ⟨hl, i, hi⟩

/-- A row in place of the one before, with the environment's edge id moved over. -/
theorem succeeds_rebound (h : r.Follows t) (hid : t.holds id = true)
    (hc : t.collides id.number.toInt (.ofEnvironment e) = false) {seconds : Int64} {g : Gateway}
    (hg : g.database.environments = some (t.withRow id (.ofEnvironment e))) :
    r.Succeeds t allowed ((((r.withStore g).rebind id (t.edgeIdOf? id) e.boundEdgeId?).note id).seed id seconds) := by
  obtain ⟨edgeIndex, he⟩ := (r.withStore g).rebind_eq id (t.edgeIdOf? id) e.boundEdgeId?
  have howner : ∀ k, ((((r.withStore g).rebind id (t.edgeIdOf? id) e.boundEdgeId?).note id).seed id seconds).owner? k =
      if t.edgeIdOf? id = e.boundEdgeId? then r.owner? k
      else if e.boundEdgeId? = some k then some id
      else if t.edgeIdOf? id = some k ∧ r.owner? k = some id then none
      else r.owner? k :=
    (r.withStore g).owner?_rebind id (t.edgeIdOf? id) e.boundEdgeId?
  have hrow : ∀ i, (t.withRow id (.ofEnvironment e)).edgeIdOf? i = if i = id then e.boundEdgeId? else t.edgeIdOf? i :=
    fun i => EnvironmentTable.edgeIdOf?_withRow t id i _
  refine ⟨_, ⟨by rw [he]; exact hg, h.sound.withRow (h.sound.written.isAssigned hid) hc, fun {k i} ho => ?_⟩,
    fun k hl => .inl ?_⟩
  · rw [howner] at ho
    rw [hrow]
    split at ho
    · rename_i hsame
      have hi := h.owner ho
      split
      · rename_i hi'
        rw [← hsame, ← hi', hi]
      · exact hi
    · split at ho
      · rename_i hk
        cases ho
        rwa [if_pos rfl]
      · split at ho
        · cases ho
        · rename_i hfreed
          have hi := h.owner ho
          rw [if_neg (by rintro rfl; exact hfreed ⟨hi, ho⟩), hi]
  · obtain ⟨hl, i, hi⟩ := hl
    rw [howner] at hl
    rw [hrow] at hi
    split at hl
    · rename_i hsame
      refine ⟨hl, ?_⟩
      split at hi
      · exact ⟨id, hsame.trans hi⟩
      · exact ⟨i, hi⟩
    · split at hl
      · cases hl
      · rename_i hk
        split at hi
        · exact absurd hi hk
        · rename_i hne
          split at hl
          · rename_i hfreed
            exact absurd (h.sound.eq_of_edgeIdOf? hi hfreed.1) hne
          · exact ⟨hl, i, hi⟩

/-- A row that was deleted, forgotten in the index. -/
theorem succeeds_forget (h : r.Follows t) (id : EnvironmentId) {g : Gateway}
    (hg : g.database.environments = some (t.without id)) : r.Succeeds t allowed ((r.withStore g).forget id) := by
  have howner : ∀ k, ((r.withStore g).forget id).owner? k = (r.owner? k).filter (fun owner => owner ≠ id) :=
    (r.withStore g).owner?_forget id
  refine ⟨_, ⟨hg, h.sound.without id, fun {k i} ho => ?_⟩, fun k hl => .inl ?_⟩
  · rw [howner, Option.filter_eq_some_iff] at ho
    rw [EnvironmentTable.edgeIdOf?_without, if_neg (by simpa using ho.2), h.owner ho.1]
  · obtain ⟨hl, i, hi⟩ := hl
    rw [howner] at hl
    rw [EnvironmentTable.edgeIdOf?_without] at hi
    split at hi
    · cases hi
    · rename_i hne
      refine ⟨?_, i, hi⟩
      cases ho : r.owner? k with
      | none => rfl
      | some j =>
        -- Only what belonged to the environment itself was forgotten, and this belongs to another one.
        obtain rfl := h.sound.eq_of_edgeIdOf? (h.owner ho) hi
        simp [ho, hne] at hl

/-! ## Steps -/

theorem succeeds_create (h : r.Follows t) (e : Environment)
    (hallowed : ∀ k, e.id.number.toInt < 0 → e.boundEdgeId? = some k → allowed k)
    (hfits : ∀ t' n, ((create e).run r).2.store.database.environments = some t' → t'.rows.contains n = true →
      n ≤ Decimal.signed32.most) : r.Succeeds t allowed ((create e).run r).2 := by
  have hc := creating h.table h.sound e
  generalize (create e).run r = x at hc hfits
  cases hc with
  | refused hg => exact h.succeeds_of_kept hg rfl (fun _ => rfl)
  | @unreadable _ _ n hn hg =>
    have hmost := hfits _ n hg ((Table.contains_insert _ _ _ _).trans (by simp))
    omega
  | cutOff hn hfree hc hg =>
    exact h.succeeds_cutOff (fun k hk => hallowed k hn hk) (EnvironmentId.isAssigned_iff.2 (by omega)) hfree hc hg
  | @created i _ hid hfree hc hg =>
    exact h.succeeds_enterNew hid hfree hc { e.normalize with id := i } rfl e.boundEdgeId?_normalize hg

theorem succeeds_update (h : r.Follows t) (id : EnvironmentId) (e : Environment) :
    r.Succeeds t allowed ((update id e).run r).2 := by
  have hu := updating h.table h.sound.written id e
  generalize (update id e).run r = x at hu
  cases hu with
  | refused hg => exact h.succeeds_of_kept hg rfl (fun _ => rfl)
  | updated hid hc hg hr =>
    subst hr
    exact h.succeeds_rebound hid hc hg

theorem succeeds_delete (h : r.Follows t) (id : EnvironmentId) : r.Succeeds t allowed ((delete id).run r).2 := by
  have hd := deleting h.table id
  generalize (delete id).run r = x at hd
  cases hd with
  | refused hg => exact h.succeeds_of_kept hg rfl (fun _ => rfl)
  | deleted hid hg => exact h.succeeds_forget id hg

theorem succeeds_recordPoll (h : r.Follows t) (now : Instant) (id : EnvironmentId) (agent : Option Agent) :
    r.Succeeds t allowed ((recordPoll now id agent).run r).2 := by
  have hp := recording h.table h.sound.written now id agent
  generalize (recordPoll now id agent).run r = x at hp
  cases hp with
  | refused hg => exact h.succeeds_of_kept hg rfl (fun _ => rfl)
  | unread _ _ hg => exact h.succeeds_of_kept hg rfl (fun _ => rfl)
  | heard _ _ hg => exact h.succeeds_of_kept hg rfl (fun _ => rfl)
  | unsaved _ hg => exact h.succeeds_of_kept hg rfl (fun _ => rfl)
  | @saved e a g ht _ hc hg =>
    obtain ⟨hid, rfl, hedge⟩ := h.sound.written.of_record? ht
    refine h.succeeds_of_same hg (h.sound.withRow (h.sound.written.isAssigned hid) hc) (fun i => ?_) (fun _ => rfl)
    -- What the agent says of itself is no edge id.
    rw [EnvironmentTable.edgeIdOf?_withRow]
    split
    · rename_i hi
      rw [hi, hedge]
      rfl
    · rfl

theorem succeeds_rebuild (h : r.Follows t) : r.Succeeds t allowed (rebuild.run r).2 := by
  obtain ⟨g, hg, ⟨err, hr⟩ | hr⟩ := rebuilding h.table h.sound
  · rw [hr]
    exact h.succeeds_of_kept hg rfl (fun _ => rfl)
  · rw [hr]
    obtain ⟨hfollows, hlacks⟩ := follows_reindex (table_withStore h.table hg) h.sound
    exact ⟨t, hfollows, fun k hl => absurd hl (hlacks k)⟩

end Follows

/-- An operation on the registry, or a fault of the store that it will run into. -/
inductive Operation where
  | create (e : Environment)
  | get (id : EnvironmentId)
  | list
  | update (id : EnvironmentId) (e : Environment)
  | delete (id : EnvironmentId)
  | recordPoll (id : EnvironmentId) (agent : Option Agent)
  | hear (id : EnvironmentId)
  | rebuild
  | refuseNext (method : StoreMethod) (error : StoreError)

namespace Operation

def step (now : Instant) : Operation → Step Unit
  | create e => (Registry.create e).ignored
  | get id => (Registry.get? id).ignored
  | list => Registry.list.ignored
  | update id e => (Registry.update id e).ignored
  | delete id => Registry.delete id
  | recordPoll id agent => (Registry.recordPoll now id agent).ignored
  | hear id => do
    let now ← clock now
    change (·.hear now id)
  | rebuild => Registry.rebuild
  | refuseNext method error => change (fun r => r.withStore (r.store.refuseNext method error))

/-- Whether all ids have 32 bits after an operation. -/
def Fits (r : Registry) (now : Instant) (op : Operation) : Prop :=
  ∀ t n, ((op.step now).run r).2.store.database.environments = some t → t.rows.contains n = true →
    n ≤ Decimal.signed32.most

theorem fits_of_keys {op : Operation}
    (h : ∀ t ∈ ((op.step now).run r).2.store.database.environments, ∀ n ∈ t.rows.keys, n ≤ Decimal.signed32.most) :
    op.Fits r now :=
  fun t n ht hn => h t ht n (Table.mem_keys_iff.2 hn)

end Operation

/-- What an operation does to the index: it comes to lack an edge id only by a creation under a negative id. -/
theorem Follows.step (h : r.Follows t) {op : Operation} (hfits : op.Fits r now) :
    r.Succeeds t (fun k => ∃ e, op = .create e ∧ e.id.number.toInt < 0 ∧ e.boundEdgeId? = some k)
      ((op.step now).run r).2 := by
  cases op with
  | create e =>
    unfold Operation.Fits at hfits
    rw [Operation.step, snd_run_ignored] at hfits ⊢
    exact h.succeeds_create e (fun k hn hk => ⟨e, rfl, hn, hk⟩) hfits
  | get id =>
    rw [Operation.step, snd_run_ignored]
    unfold get?
    obtain ⟨g, hg, ⟨err, hr⟩ | hr⟩ := run_environment? h.table h.sound.written id
    · rw [run_bind_refused hr]
      exact h.succeeds_of_kept hg rfl (fun _ => rfl)
    · rw [run_bind_done hr]
      exact h.succeeds_of_kept hg rfl (fun _ => rfl)
  | list =>
    rw [Operation.step, snd_run_ignored]
    unfold Registry.list onStore
    obtain ⟨g, hg, ⟨err, hr⟩ | hr⟩ := run_all h.table h.sound.written h.sound.fits .ofStore
    · rw [run_bind_refused hr]
      exact h.succeeds_of_kept hg rfl (fun _ => rfl)
    · rw [run_bind_done hr]
      exact h.succeeds_of_kept hg rfl (fun _ => rfl)
  | update id e =>
    rw [Operation.step, snd_run_ignored]
    exact h.succeeds_update id e
  | delete id => exact h.succeeds_delete id
  | recordPoll id agent =>
    rw [Operation.step, snd_run_ignored]
    exact h.succeeds_recordPoll now id agent
  | hear id =>
    rw [Operation.step]
    cases hc : now.isReadable with
    | false =>
      rw [run_bind_crashed (run_clock_of_not_isReadable hc r)]
      exact h.succeeds_of_kept rfl rfl (fun _ => rfl)
    | true =>
      rw [run_bind_done (run_clock_of_isReadable hc r)]
      exact h.succeeds_of_kept rfl rfl (fun _ => rfl)
  | rebuild => exact h.succeeds_rebuild
  | refuseNext method error => exact h.succeeds_of_kept (g := r.store.refuseNext method error) rfl rfl (fun _ => rfl)

/-! ## Runs -/

/-- A registry that was built over a sound database and went through a run in which ids keep to 32 bits tells
a conflict for exactly the edge ids that other rows carry, apart from those that the index lacks. Each of
these came with a creation under a negative id. -/
theorem conflicts_of_run {store : Gateway} (hd : store.database.Sound)
    (hstart : Registry.rebuild.run (.blank store) = (.done (), r₀)) {ops : List (Instant × Operation)}
    (h : Run Operation.step Operation.Fits r₀ ops r) :
    ∃ t, r.store.database.environments = some t ∧ t.Sound ∧ r.TellsConflicts t ∧
      ∀ k, r.Lacks t k → ∃ now e, (now, .create e) ∈ ops ∧ e.id.number.toInt < 0 ∧ e.boundEdgeId? = some k := by
  suffices hrun : ∃ t, r.Follows t ∧
      ∀ k, r.Lacks t k → ∃ now e, (now, .create e) ∈ ops ∧ e.id.number.toInt < 0 ∧ e.boundEdgeId? = some k by
    obtain ⟨t, hfollows, hlacks⟩ := hrun
    exact ⟨t, hfollows.table, hfollows.sound, hfollows.tellsConflicts, hlacks⟩
  induction h with
  | nil =>
    obtain ⟨t, htable, ht⟩ := hd
    obtain ⟨g, hg, ⟨err, hr⟩ | hr⟩ := rebuilding (r := blank store) htable ht
    · rw [hr] at hstart
      cases hstart
    · rw [hr] at hstart
      cases hstart
      obtain ⟨hfollows, hlacks⟩ := follows_reindex (table_withStore htable hg) ht
      exact ⟨t, hfollows, fun k hl => absurd hl (hlacks k)⟩
  | snoc now op _ hfits ih =>
    obtain ⟨t, hfollows, hlacks⟩ := ih
    obtain ⟨t', hfollows', hlacks'⟩ := hfollows.step hfits
    refine ⟨t', hfollows', fun k hl => ?_⟩
    rcases hlacks' k hl with hl | ⟨e, rfl, hn, hk⟩
    · obtain ⟨now', e, hmem, hn, hk⟩ := hlacks k hl
      exact ⟨now', e, by simp [hmem], hn, hk⟩
    · exact ⟨now, e, by simp, hn, hk⟩

/-- An edge id is refused to a third environment once it was given to the first. -/
theorem conflicts_of_created : ∃ r,
    Registry.rebuild.run (.blank (.clear .fresh)) = (.done (), .blank (.clear .fresh)) ∧
    Run Operation.step Operation.Fits (.blank (.clear .fresh))
      [(.ofSeconds 10, .create (Service.edge ⟨0⟩ "A")), (.ofSeconds 20, .create (Service.edge ⟨0⟩ "B"))] r ∧
    ((Registry.create (Service.edge ⟨0⟩ "A")).run r).1 = .refused (.edgeIdConflict "A" ⟨1⟩) ∧
    ((Registry.update ⟨2⟩ (Service.edge ⟨2⟩ "A")).run r).1 = .refused (.edgeIdConflict "A" ⟨1⟩) := by
  have hfresh : (Gateway.clear .fresh).database.Sound := Database.sound_fresh
  have hstart : Registry.rebuild.run (.blank (.clear .fresh)) = (.done (), .blank (.clear .fresh)) := by decide +kernel
  obtain ⟨r, hrun, hserves, hid, hrow⟩ : ∃ r, Run Operation.step Operation.Fits (.blank (.clear .fresh))
      [(.ofSeconds 10, .create (Service.edge ⟨0⟩ "A")), (.ofSeconds 20, .create (Service.edge ⟨0⟩ "B"))] r ∧
      r.store.refusals.lookup .environment = none ∧
      r.store.database.environments.map (·.holds ⟨2⟩) = some true ∧
      r.store.database.environments.bind (·.edgeIdOf? ⟨1⟩) = some "A" :=
    ⟨_, (Run.nil.snoc _ _ (Operation.fits_of_keys (by decide +kernel))).snoc _ _
      (Operation.fits_of_keys (by decide +kernel)), by decide +kernel, by decide +kernel, by decide +kernel⟩
  obtain ⟨t, htable, -, htells, hlacks⟩ := conflicts_of_run hfresh hstart hrun
  rw [htable] at hid hrow
  have hl : ¬ r.Lacks t "A" := by
    intro hl
    obtain ⟨now, e, hmem, hn, -⟩ := hlacks "A" hl
    simp only [List.mem_cons, Prod.mk.injEq, Operation.create.injEq, List.not_mem_nil, or_false] at hmem
    rcases hmem with ⟨-, rfl⟩ | ⟨-, rfl⟩ <;> exact absurd hn (by decide)
  exact ⟨r, hstart, hrun, (htells.refusesCreate _ _ _).2 ⟨by decide, hrow, hl⟩,
    (htells.refusesUpdate _ _ _ _ hserves).2 ⟨by simpa using hid, by decide, hrow, by decide, hl⟩⟩

/-- After a creation under a negative id was cut off, its edge id comes as far as the store, which refuses it. -/
theorem duplicate_past_index : ∃ r,
    Registry.rebuild.run (.blank (.clear .fresh)) = (.done (), .blank (.clear .fresh)) ∧
    Run Operation.step Operation.Fits (.blank (.clear .fresh)) [(.ofSeconds 10, .create (Service.edge ⟨-5⟩ "A"))] r ∧
    r.store.database.environments.bind (·.edgeIdOf? ⟨-5⟩) = some "A" ∧ r.store.Serves .insert ∧
    ((Registry.create (Service.edge ⟨0⟩ "A")).run r).1 = .refused .duplicate :=
  ⟨_, by decide +kernel, Run.nil.snoc _ _ (Operation.fits_of_keys (by decide +kernel)), by decide +kernel,
    by unfold Gateway.Serves; decide +kernel, by decide +kernel⟩

end Registry

end EdgeFleet
