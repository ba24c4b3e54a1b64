import EdgeFleet.Proofs.Store
import EdgeFleet.Registry
/-!
# The indices of the registry

A registry stands `Over` a table of environments when its indices say what the rows say: whom each edge
id belongs to, who is known, and who was heard of. Every write to the indices that goes with a write to
the table keeps that, and indices that are built anew from the records have it.
-/

namespace EdgeFleet

namespace Registry

open Attempt

variable {r : Registry} {t : EnvironmentTable} {e : Environment} {id i : EnvironmentId} {k : String}

/-- A registry is known by its store and by what its indices answer. -/
theorem ext_indices {r' : Registry} (hstore : r.store = r'.store) (howner : ∀ k, r.owner? k = r'.owner? k)
    (hheard : ∀ id, r.heartbeat? id = r'.heartbeat? id) (hknown : ∀ id, r.contains id = r'.contains id) : r = r' := by
  cases r
  cases r'
  obtain rfl := hstore
  obtain rfl := Table.ext_get? howner
  obtain rfl := Table.ext_get? hheard
  obtain rfl := Table.ext_contains hknown
  rfl

/-! ## Writes to the indices -/

theorem contains_note (r : Registry) (id i : EnvironmentId) :
    (r.note id).contains i = (decide (i = id) || r.contains i) :=
  Table.contains_insert r.known i id ()

theorem isSome_heartbeat?_seed (r : Registry) (id i : EnvironmentId) (stored : Int64) :
    ((r.seed id stored).heartbeat? i).isSome = (decide (i = id) || (r.heartbeat? i).isSome) :=
  Table.contains_insert r.heartbeats i id _

theorem isSome_heartbeat?_hear (r : Registry) (now : Instant) (id i : EnvironmentId) :
    ((r.hear now id).heartbeat? i).isSome = (decide (i = id) || (r.heartbeat? i).isSome) :=
  Table.contains_insert r.heartbeats i id _

theorem owner?_bind (r : Registry) (edgeId k : String) (id : EnvironmentId) :
    (r.bind edgeId id).owner? k = if k = edgeId then some id else r.owner? k :=
  Table.get?_insert_eq r.edgeIndex k edgeId id

/-- An edge id that is given to nobody yet goes to the record that is entered. -/
theorem owner?_enter (r : Registry) (e : Environment) (k : String) :
    (r.enter e).owner? k = (r.owner? k).or (if e.boundEdgeId? = some k then some e.id else none) := by
  unfold enter
  have hsame : ((r.note e.id).seed e.id e.lastCheckIn).owner? = r.owner? := rfl
  cases he : e.boundEdgeId? with
  | none => simp [hsame]
  | some edgeId =>
    dsimp only
    rw [hsame]
    by_cases hk : edgeId = k
    · subst hk
      cases ho : r.owner? edgeId with
      | some j => simp [hsame, ho]
      | none => simp [owner?_bind]
    · split
      · simp [hsame, hk]
      · simp [owner?_bind, hsame, hk, Ne.symm hk]

/-- What entering a record does beside the edge ids. -/
theorem enter_eq (r : Registry) (e : Environment) :
    ∃ edgeIndex, r.enter e = { (r.note e.id).seed e.id e.lastCheckIn with edgeIndex } := by
  simp only [enter]
  split
  · split
    · exact ⟨_, rfl⟩
    · exact ⟨_, rfl⟩
  · exact ⟨_, rfl⟩

theorem contains_enter (r : Registry) (e : Environment) (i : EnvironmentId) :
    (r.enter e).contains i = (decide (i = e.id) || r.contains i) := by
  obtain ⟨edgeIndex, he⟩ := r.enter_eq e
  rw [he]
  exact r.contains_note e.id i

theorem isSome_heartbeat?_enter (r : Registry) (e : Environment) (i : EnvironmentId) :
    ((r.enter e).heartbeat? i).isSome = (decide (i = e.id) || (r.heartbeat? i).isSome) := by
  obtain ⟨edgeIndex, he⟩ := r.enter_eq e
  rw [he]
  exact (r.note e.id).isSome_heartbeat?_seed e.id i e.lastCheckIn

theorem store_enter (r : Registry) (e : Environment) : (r.enter e).store = r.store := by
  obtain ⟨edgeIndex, he⟩ := r.enter_eq e
  rw [he]
  rfl

/-- After the indices were built anew an edge id belongs to the first record that names it. -/
theorem owner?_reindex (r : Registry) (es : List Environment) (k : String) :
    (r.reindex es).owner? k = (es.find? (fun e => e.boundEdgeId? = some k)).map (·.id) := by
  have h : ∀ r : Registry, (es.foldl enter r).owner? k =
      (r.owner? k).or ((es.find? (fun e => e.boundEdgeId? = some k)).map (·.id)) := by
    induction es with
    | nil => simp
    | cons e es ih =>
      intro r
      rw [List.foldl_cons, ih, owner?_enter, Option.or_assoc, List.find?_cons]
      by_cases he : e.boundEdgeId? = some k <;> simp [he]
  exact h _

theorem contains_reindex (r : Registry) (es : List Environment) (i : EnvironmentId) :
    (r.reindex es).contains i = true ↔ ∃ e ∈ es, e.id = i := by
  have h : ∀ r : Registry, (es.foldl enter r).contains i = true ↔ r.contains i = true ∨ ∃ e ∈ es, e.id = i := by
    induction es with
    | nil => simp
    | cons e es ih =>
      intro r
      rw [List.foldl_cons, ih, contains_enter]
      simp only [Bool.or_eq_true, decide_eq_true_eq, List.mem_cons, exists_eq_or_imp, eq_comm (a := i)]
      tauto
  rw [reindex, h]
  simp [contains, Table.contains]

theorem isSome_heartbeat?_reindex (r : Registry) (es : List Environment) (i : EnvironmentId) :
    ((r.reindex es).heartbeat? i).isSome = true ↔ (r.heartbeat? i).isSome = true ∨ ∃ e ∈ es, e.id = i := by
  have h : ∀ r : Registry, ((es.foldl enter r).heartbeat? i).isSome = true ↔
      (r.heartbeat? i).isSome = true ∨ ∃ e ∈ es, e.id = i := by
    induction es with
    | nil => simp
    | cons e es ih =>
      intro r
      rw [List.foldl_cons, ih, isSome_heartbeat?_enter]
      simp only [Bool.or_eq_true, decide_eq_true_eq, List.mem_cons, exists_eq_or_imp, eq_comm (a := i)]
      tauto
  exact h _

theorem store_reindex (r : Registry) (es : List Environment) : (r.reindex es).store = r.store := by
  have h : ∀ r : Registry, (es.foldl enter r).store = r.store := by
    induction es with
    | nil => simp
    | cons e es ih =>
      intro r
      rw [List.foldl_cons, ih, store_enter]
  exact h _

/-- An old edge id is freed if it belongs to the environment. -/
theorem owner?_rebind_none (r : Registry) (id : EnvironmentId) (old : Option String) (k : String) :
    (r.rebind id old none).owner? k = if old = some k ∧ r.owner? k = some id then none else r.owner? k := by
  cases old with
  | none => simp [rebind]
  | some former =>
    unfold rebind
    rw [if_neg (by simp)]
    dsimp only
    by_cases hk : former = k
    · subst hk
      by_cases hown : r.owner? former = some id
      · rw [if_pos hown, if_pos ⟨rfl, hown⟩]
        exact r.edgeIndex.get?_erase_self former
      · simp [hown]
    · have herase : ({ r with edgeIndex := r.edgeIndex.erase former } : Registry).owner? k = r.owner? k :=
        r.edgeIndex.get?_erase_of_ne (Ne.symm hk)
      have hother : ¬ (some former = some k ∧ r.owner? k = some id) := by simp [hk]
      rw [if_neg hother]
      split
      · exact herase
      · rfl

/-- Another edge id is given out after the old one was freed. -/
theorem rebind_some (r : Registry) (id : EnvironmentId) {old : Option String} {edgeId : String}
    (h : old ≠ some edgeId) : r.rebind id old (some edgeId) = (r.rebind id old none).bind edgeId id := by
  cases old with
  | none => simp [rebind]
  | some former =>
    unfold rebind
    rw [if_neg h, if_neg (by simp)]

/-- An environment gets another edge id in place of an old one, which is freed if it was its own. -/
theorem owner?_rebind (r : Registry) (id : EnvironmentId) (old new : Option String) (k : String) :
    (r.rebind id old new).owner? k =
      if old = new then r.owner? k
      else if new = some k then some id
      else if old = some k ∧ r.owner? k = some id then none
      else r.owner? k := by
  by_cases hsame : old = new
  · rw [if_pos hsame]
    unfold rebind
    rw [if_pos hsame]
  · rw [if_neg hsame]
    cases new with
    | none => rw [if_neg (by simp), owner?_rebind_none]
    | some edgeId =>
      rw [rebind_some r id hsame, owner?_bind, owner?_rebind_none]
      simp only [Option.some_inj, eq_comm]

/-- An old edge id that is its own is freed. -/
theorem owner?_rebind_of_own {old new : Option String} (hold : ∀ edgeId, old = some edgeId → r.owner? edgeId = some id)
    (k : String) : (r.rebind id old new).owner? k =
      if new = some k then some id else if old = some k then none else r.owner? k := by
  rw [owner?_rebind]
  by_cases hsame : old = new
  · rw [if_pos hsame, ← hsame]
    split
    · rename_i ho
      exact hold k ho
    · rfl
  · rw [if_neg hsame]
    by_cases hk : old = some k
    · simp only [hk, hold k hk, and_self]
    · simp only [hk, false_and]

/-- What noting a new record does to the indices. -/
theorem owner?_enterNew (r : Registry) (e : Environment) (k : String) :
    (r.enterNew e).owner? k = if e.boundEdgeId? = some k then some e.id else r.owner? k := by
  simp only [enterNew]
  cases e.boundEdgeId? with
  | none => rfl
  | some edgeId =>
    simp only [Option.some_inj, eq_comm (a := edgeId)]
    exact r.owner?_bind edgeId k e.id

theorem contains_enterNew (r : Registry) (e : Environment) (i : EnvironmentId) :
    (r.enterNew e).contains i = (decide (i = e.id) || r.contains i) := by
  simp only [enterNew]
  cases e.boundEdgeId? <;> exact r.contains_note e.id i

theorem isSome_heartbeat?_enterNew (r : Registry) (e : Environment) (i : EnvironmentId) :
    ((r.enterNew e).heartbeat? i).isSome = (decide (i = e.id) || (r.heartbeat? i).isSome) := by
  simp only [enterNew]
  cases e.boundEdgeId? <;> exact r.isSome_heartbeat?_seed e.id i e.lastCheckIn

/-- What noting a new record does beside the edge ids. -/
theorem enterNew_eq (r : Registry) (e : Environment) :
    ∃ edgeIndex, r.enterNew e = { (r.note e.id).seed e.id e.lastCheckIn with edgeIndex } := by
  simp only [enterNew]
  cases e.boundEdgeId? <;> exact ⟨_, rfl⟩

theorem store_enterNew (r : Registry) (e : Environment) : (r.enterNew e).store = r.store := by
  simp only [enterNew]
  cases e.boundEdgeId? <;> rfl

theorem rebind_eq (r : Registry) (id : EnvironmentId) (old new : Option String) :
    ∃ edgeIndex, r.rebind id old new = { r with edgeIndex } := by
  unfold rebind
  split
  · exact ⟨_, rfl⟩
  · cases new with
    | none =>
      cases old with
      | none => exact ⟨_, rfl⟩
      | some edgeId =>
        dsimp only
        split <;> exact ⟨_, rfl⟩
    | some edgeId =>
      cases old with
      | none => exact ⟨_, rfl⟩
      | some previous =>
        dsimp only
        split <;> exact ⟨_, rfl⟩

theorem owner?_forget (r : Registry) (id : EnvironmentId) (k : String) :
    (r.forget id).owner? k = (r.owner? k).filter (fun owner => owner ≠ id) :=
  Table.get?_filter r.edgeIndex (fun _ owner => owner ≠ id) k

theorem contains_forget (r : Registry) (id i : EnvironmentId) :
    (r.forget id).contains i = (!decide (i = id) && r.contains i) :=
  Table.contains_erase r.known i id

theorem isSome_heartbeat?_forget (r : Registry) (id i : EnvironmentId) :
    ((r.forget id).heartbeat? i).isSome = (!decide (i = id) && (r.heartbeat? i).isSome) :=
  Table.contains_erase r.heartbeats i id

/-! ## A registry over a table -/

/-- Whether the indices of a registry say what the rows of a sound table say: whom each edge id belongs
to, who is known, and who was heard of. -/
structure Over (r : Registry) (t : EnvironmentTable) : Prop where
  table : r.store.database.environments = some t
  sound : t.Sound
  owner : ∀ k id, r.owner? k = some id ↔ t.edgeIdOf? id = some k
  known : ∀ id, r.contains id = t.holds id
  heard : ∀ id, (r.heartbeat? id).isSome = t.holds id

def withStore (r : Registry) (g : Gateway) : Registry := { r with store := g }

/-- What the gateway is about to refuse does not matter to the indices. -/
theorem Over.withStore (h : r.Over t) {g : Gateway} (hg : g.database = r.store.database) : (r.withStore g).Over t :=
  ⟨(congrArg (·.environments) hg).trans h.table, h.sound, h.owner, h.known, h.heard⟩

/-- Two registries over one table have the same edge ids and the same known environments. -/
theorem Over.indices_eq {r' : Registry} (h : r.Over t) (h' : r'.Over t) :
    r.edgeIndex = r'.edgeIndex ∧ r.known = r'.known := by
  constructor
  · refine Table.ext_get? (fun k => Option.ext (fun id => ?_))
    exact (h.owner k id).trans (h'.owner k id).symm
  · exact Table.ext_contains (fun id => (h.known id).trans (h'.known id).symm)

/-- The environments with a record are those with a row. -/
theorem exists_record_iff (h : t.Sound) (i : EnvironmentId) : (∃ e ∈ t.records, e.id = i) ↔ t.holds i = true := by
  rw [← h.written.isSome_record?, Option.isSome_iff_exists]
  constructor
  · rintro ⟨e, he, rfl⟩
    exact ⟨e, h.written.mem_records.1 he⟩
  · rintro ⟨e, he⟩
    have hid := (h.written.of_record? he).2.1
    exact ⟨e, h.written.mem_records.2 (hid ▸ he), hid⟩

/-- The environments that are known are those with a record, in the same order. -/
theorem Over.map_id_records (h : r.Over t) : t.records.map (·.id) = r.known.keys := by
  have hrecords : (t.records.map (·.id)).Pairwise (fun i j => compare i j = .lt) :=
    List.pairwise_map.2 (h.sound.written.ascending_records.imp EnvironmentId.compare_eq_lt_iff.2)
  have hkeys : r.known.keys.Pairwise (fun i j => compare i j = .lt) := List.pairwise_map.2 r.known.ascending
  have hnodup : (t.records.map (·.id)).Nodup := by
    refine hrecords.imp (fun {i j} hlt heq => ?_)
    rw [heq, EnvironmentId.compare_eq_lt_iff] at hlt
    omega
  refine List.Perm.eq_of_pairwise (fun i j _ _ hij hji => ?_) hrecords hkeys
    ((List.perm_ext_iff_of_nodup hnodup r.known.nodup_keys).2 (fun i => ?_))
  · rw [EnvironmentId.compare_eq_lt_iff] at hij hji
    omega
  · rw [Table.mem_keys_iff, List.mem_map, exists_record_iff h.sound, ← h.known]
    rfl

/-- After the indices were built anew from the records an edge id belongs to the environment whose row
carries it. -/
theorem owner?_reindex_records (r : Registry) (h : t.Sound) (k : String) (i : EnvironmentId) :
    (r.reindex t.records).owner? k = some i ↔ t.edgeIdOf? i = some k := by
  rw [owner?_reindex]
  constructor
  · intro ho
    obtain ⟨e, he, rfl⟩ := Option.map_eq_some_iff.1 ho
    have hr := h.written.mem_records.1 (List.mem_of_find?_eq_some he)
    rw [(h.written.of_record? hr).2.2]
    simpa using List.find?_some he
  · intro ho
    have hi : t.holds i = true := by
      rw [← Bool.not_eq_false]
      intro hn
      rw [EnvironmentTable.edgeIdOf?_of_not_holds hn] at ho
      cases ho
    obtain ⟨e, he, rfl⟩ := (exists_record_iff h i).2 hi
    rw [(h.written.of_record? (h.written.mem_records.1 he)).2.2] at ho
    -- The first record that names the edge id need not be this one, but it has the same id.
    cases hf : t.records.find? (fun e => e.boundEdgeId? = some k) with
    | none =>
      have := List.find?_eq_none.1 hf e he
      simp [ho] at this
    | some e' =>
      have hr' := h.written.mem_records.1 (List.mem_of_find?_eq_some hf)
      have hk' : e'.boundEdgeId? = some k := by simpa using List.find?_some hf
      rw [Option.map_some, h.eq_of_edgeIdOf? ((h.written.of_record? hr').2.2.trans hk')
        ((h.written.of_record? (h.written.mem_records.1 he)).2.2.trans ho)]

/-- Indices that are built anew from the records stand over the table. -/
theorem over_reindex (hd : r.store.database.environments = some t) (h : t.Sound)
    (hheard : ∀ id, (r.heartbeat? id).isSome = true → t.holds id = true) : (r.reindex t.records).Over t := by
  refine ⟨by rw [store_reindex]; exact hd, h, r.owner?_reindex_records h, fun i => ?_, fun i => ?_⟩
  · rw [Bool.eq_iff_iff, contains_reindex, exists_record_iff h]
  · rw [Bool.eq_iff_iff, isSome_heartbeat?_reindex, exists_record_iff h]
    exact ⟨fun hi => hi.elim (hheard i) id, .inr⟩

/-- Whom an edge id belongs to once the row of an environment names an edge id that no other row names. -/
theorem Over.owner_insert (h : r.Over t) (hc : t.collides id.number.toInt (.ofEnvironment e) = false) (k : String)
    (i : EnvironmentId) :
    (if e.boundEdgeId? = some k then some id else if t.edgeIdOf? id = some k then none else r.owner? k) = some i ↔
      (if i = id then e.boundEdgeId? else t.edgeIdOf? i) = some k := by
  by_cases hb : e.boundEdgeId? = some k
  · rw [if_pos hb]
    constructor
    · intro hi
      cases hi
      rwa [if_pos rfl]
    · intro hi
      split at hi
      · rename_i hid
        rw [hid]
      · -- Another row with this edge id is what the table was searched for.
        obtain ⟨row, hr, he⟩ := Option.bind_eq_some_iff.1 hi
        rw [EnvironmentId.toInt_inj.1 (h.sound.eq_of_collides hc hr hb he)]
  · rw [if_neg hb]
    by_cases hi : i = id
    · rw [if_pos hi, hi]
      split
      · exact ⟨nofun, fun ho => absurd ho hb⟩
      · rename_i hid
        rw [h.owner]
        exact ⟨fun ho => absurd ho hid, fun ho => absurd ho hb⟩
    · rw [if_neg hi]
      split
      · rename_i hid
        exact ⟨nofun, fun ho => absurd (h.sound.eq_of_edgeIdOf? ho hid) hi⟩
      · exact h.owner k i

/-- A row that was added, entered in the indices. -/
theorem Over.enterNew (h : r.Over t) (hid : id.isAssigned = true) (hfree : t.holds id = false)
    (hc : t.collides id.number.toInt (.ofEnvironment e) = false) (stored : Environment) (hs : stored.id = id)
    (hb : stored.boundEdgeId? = e.boundEdgeId?) {g : Gateway}
    (hg : g.database.environments = some (t.put id.number.toInt (.ofEnvironment e))) :
    ((r.withStore g).enterNew stored).Over (t.put id.number.toInt (.ofEnvironment e)) := by
  subst hs
  refine ⟨by rw [store_enterNew]; exact hg, h.sound.put hid hc, fun k i => ?_, fun i => ?_, fun i => ?_⟩
  · rw [owner?_enterNew, hb, EnvironmentTable.edgeIdOf?_put]
    have ho := h.owner_insert hc k i
    -- There was no row before, and so no edge id to take away.
    rw [EnvironmentTable.edgeIdOf?_of_not_holds hfree] at ho
    simp only [reduceCtorEq, if_false] at ho
    exact ho
  · rw [contains_enterNew, EnvironmentTable.holds_put, ← h.known]
    rfl
  · rw [isSome_heartbeat?_enterNew, EnvironmentTable.holds_put, ← h.heard]
    rfl

/-- A row in place of the one before, with the environment's edge id moved over. -/
theorem Over.rebound (h : r.Over t) (hid : t.holds id = true)
    (hc : t.collides id.number.toInt (.ofEnvironment e) = false) (seconds : Int64) {g : Gateway}
    (hg : g.database.environments = some (t.withRow id (.ofEnvironment e))) :
    ((((r.withStore g).rebind id (t.edgeIdOf? id) e.boundEdgeId?).note id).seed id seconds).Over
      (t.withRow id (.ofEnvironment e)) := by
  obtain ⟨edgeIndex, he⟩ := (r.withStore g).rebind_eq id (t.edgeIdOf? id) e.boundEdgeId?
  refine ⟨by rw [he]; exact hg, h.sound.withRow (h.sound.written.isAssigned hid) hc, fun k i => ?_,
    fun i => ?_, fun i => ?_⟩
  · rw [EnvironmentTable.edgeIdOf?_withRow]
    have ho : ((r.withStore g).rebind id (t.edgeIdOf? id) e.boundEdgeId?).owner? k = _ :=
      owner?_rebind_of_own (r := r.withStore g) (fun edgeId hk => (h.owner edgeId id).2 hk) k
    exact (Eq.congr_left ho).trans (h.owner_insert hc k i)
  · rw [EnvironmentTable.holds_withRow, ← h.known, ← contains_note r id i, he]
    rfl
  · rw [EnvironmentTable.holds_withRow, ← h.heard, ← isSome_heartbeat?_seed r id i seconds, he]
    rfl

/-- A row that was deleted, forgotten in every index. -/
theorem Over.forget (h : r.Over t) (id : EnvironmentId) {g : Gateway}
    (hg : g.database.environments = some (t.without id)) : ((r.withStore g).forget id).Over (t.without id) := by
  refine ⟨hg, h.sound.without id, fun k i => ?_, fun i => ?_, fun i => ?_⟩
  · rw [owner?_forget, Option.filter_eq_some_iff, EnvironmentTable.edgeIdOf?_without]
    change r.owner? k = some i ∧ _ ↔ _
    rw [h.owner]
    by_cases hi : i = id <;> simp [hi]
  · rw [contains_forget, EnvironmentTable.holds_without, ← h.known]
    rfl
  · rw [isSome_heartbeat?_forget, EnvironmentTable.holds_without, ← h.heard]
    rfl

end Registry

end EdgeFleet
