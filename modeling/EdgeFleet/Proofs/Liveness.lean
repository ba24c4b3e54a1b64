import EdgeFleet.Proofs.Conflicts
import EdgeFleet.Proofs.Credentials
import EdgeFleet.Proofs.Reports
/-!
# When environments were last heard of

A registry is `Current` when the contacts that it knows of are no older than those that the rows tell of, and
not later than the clock. A poll writes the time of the clock over the contact that was known; a record that is
stored, or read again, is merged into it; and a row may be written with an older contact than the one that is
known. As long as the clock does not go back each of these keeps the registry current, so that all reads tell
of the same contacts, and none of them is ever taken back.
-/

namespace EdgeFleet

/-- No list of instants is without one that is not before any of them. -/
theorem Instant.exists_latest (instants : List Instant) : ∃ latest : Instant, ∀ u ∈ instants, u ≤ latest := by
  induction instants with
  | nil => exact ⟨.ofSeconds 0, nofun⟩
  | cons u instants ih =>
    obtain ⟨latest, h⟩ := ih
    refine ⟨max u latest, fun v hv => ?_⟩
    rw [le_iff, nanos_max]
    rcases List.mem_cons.1 hv with rfl | hv
    · omega
    · have := le_iff.1 (h v hv)
      omega

namespace Registry

open Attempt

variable {r r' : Registry} {t : EnvironmentTable} {e : Environment} {id i : EnvironmentId} {now later : Instant}
  {c stored : Int64}

/-! ## Contacts -/

theorem toInt_max (c d : Int64) : (max c d).toInt = max c.toInt d.toInt := by
  change (if c ≤ d then d else c).toInt = _
  split
  · rename_i hle
    rw [Int64.le_iff_toInt_le] at hle
    omega
  · rename_i hlt
    rw [Int64.le_iff_toInt_le] at hlt
    omega

/-- Whether an environment was heard of at a second or since. -/
def HeardSince (r : Registry) (id : EnvironmentId) (c : Int64) : Prop := ∃ c', r.heartbeat? id = some c' ∧ c ≤ c'

/-- Whether nobody was heard of later than an instant. -/
def HeardBy (r : Registry) (now : Instant) : Prop := ∀ id c, r.heartbeat? id = some c → c.toInt ≤ now.seconds

theorem heartbeat?_seed (r : Registry) (id i : EnvironmentId) (stored : Int64) :
    (r.seed id stored).heartbeat? i =
      if i = id then some (match r.heartbeat? id with
        | some cached => max cached stored
        | none => stored)
      else r.heartbeat? i :=
  Table.get?_insert_eq _ _ _ _

theorem heartbeat?_hear (r : Registry) (now : Instant) (id i : EnvironmentId) :
    (r.hear now id).heartbeat? i = if i = id then some (Int64.ofInt now.seconds) else r.heartbeat? i :=
  Table.get?_insert_eq _ _ _ _

theorem HeardSince.seed (h : r.HeardSince i c) (id : EnvironmentId) (stored : Int64) :
    (r.seed id stored).HeardSince i c := by
  obtain ⟨cached, hcached, hle⟩ := h
  unfold HeardSince
  rw [heartbeat?_seed]
  by_cases hi : i = id
  · rw [if_pos hi, ← hi, hcached]
    refine ⟨_, rfl, ?_⟩
    rw [Int64.le_iff_toInt_le] at hle ⊢
    dsimp only
    rw [toInt_max]
    omega
  · rw [if_neg hi]
    exact ⟨cached, hcached, hle⟩

theorem heardSince_seed (r : Registry) (id : EnvironmentId) (stored : Int64) :
    (r.seed id stored).HeardSince id stored := by
  unfold HeardSince
  rw [heartbeat?_seed, if_pos rfl]
  refine ⟨_, rfl, ?_⟩
  cases r.heartbeat? id with
  | none => exact Int64.le_rfl
  | some cached =>
    dsimp only
    rw [Int64.le_iff_toInt_le, toInt_max]
    omega

theorem HeardBy.seed (h : r.HeardBy now) (hs : stored.toInt ≤ now.seconds) (id : EnvironmentId) :
    (r.seed id stored).HeardBy now := by
  intro i c hc
  rw [heartbeat?_seed] at hc
  split at hc
  · obtain rfl := Option.some.inj hc
    cases hcached : r.heartbeat? id with
    | none => exact hs
    | some cached =>
      have hby := h id cached hcached
      dsimp only
      rw [toInt_max]
      omega
  · exact h i c hc

/-- A poll at a clock that did not go back. -/
theorem HeardSince.hear (h : r.HeardSince i c) (hby : r.HeardBy now) (hc : now.isReadable = true) (id : EnvironmentId) :
    (r.hear now id).HeardSince i c := by
  obtain ⟨cached, hcached, hle⟩ := h
  unfold HeardSince
  rw [heartbeat?_hear]
  split
  · refine ⟨_, rfl, Int64.le_trans hle ?_⟩
    rw [Int64.le_iff_toInt_le, Instant.toInt_seconds hc]
    exact hby i cached hcached
  · exact ⟨cached, hcached, hle⟩

theorem heardSince_hear (r : Registry) (now : Instant) (id : EnvironmentId) :
    (r.hear now id).HeardSince id (Int64.ofInt now.seconds) :=
  ⟨_, Table.get?_insert_self _ _ _, Int64.le_rfl⟩

theorem HeardBy.hear (h : r.HeardBy now) (hc : now.isReadable = true) (id : EnvironmentId) :
    (r.hear now id).HeardBy now := by
  intro i c hi
  rw [heartbeat?_hear] at hi
  split at hi
  · obtain rfl := Option.some.inj hi
    exact Int.le_of_eq (Instant.toInt_seconds hc)
  · exact h i c hi

theorem HeardSince.enter (h : r.HeardSince i c) (e : Environment) : (r.enter e).HeardSince i c := by
  obtain ⟨edgeIndex, he⟩ := r.enter_eq e
  rw [he]
  exact HeardSince.seed (r := r.note e.id) h e.id e.lastCheckIn

theorem heardSince_enter (r : Registry) (e : Environment) : (r.enter e).HeardSince e.id e.lastCheckIn := by
  obtain ⟨edgeIndex, he⟩ := r.enter_eq e
  rw [he]
  exact (r.note e.id).heardSince_seed e.id e.lastCheckIn

theorem HeardBy.enter (h : r.HeardBy now) (he : e.lastCheckIn.toInt ≤ now.seconds) : (r.enter e).HeardBy now := by
  obtain ⟨edgeIndex, hr⟩ := r.enter_eq e
  rw [hr]
  exact HeardBy.seed (r := r.note e.id) h he e.id

/-- Indices that are built anew forget no contact. -/
theorem HeardSince.reindex (h : r.HeardSince i c) (es : List Environment) : (r.reindex es).HeardSince i c := by
  have hcleared : ({ r with edgeIndex := ∅, known := ∅ } : Registry).HeardSince i c := h
  exact List.foldlRecOn (motive := fun r => r.HeardSince i c) es Registry.enter hcleared (fun _ h e _ => h.enter e)

/-- They know of the contact that any of the records tells of. -/
theorem heardSince_reindex (r : Registry) {es : List Environment} (he : e ∈ es) :
    (r.reindex es).HeardSince e.id e.lastCheckIn := by
  obtain ⟨before, after, rfl⟩ := List.append_of_mem he
  unfold Registry.reindex
  rw [List.foldl_append, List.foldl_cons]
  exact List.foldlRecOn (motive := fun r => r.HeardSince e.id e.lastCheckIn) after Registry.enter (heardSince_enter _ e)
    (fun _ h e _ => h.enter e)

theorem HeardBy.reindex (h : r.HeardBy now) {es : List Environment}
    (hes : ∀ e ∈ es, e.lastCheckIn.toInt ≤ now.seconds) : (r.reindex es).HeardBy now := by
  have hcleared : ({ r with edgeIndex := ∅, known := ∅ } : Registry).HeardBy now := h
  exact List.foldlRecOn (motive := fun r => r.HeardBy now) es Registry.enter hcleared
    (fun _ h e he => h.enter (hes e he))

/-! ## Registries that are current -/

/-- Whether a registry stands over its table, and the contacts that it knows of are no older than those that the
rows tell of and those that were seen, and not later than an instant. -/
structure Current (r : Registry) (seen : EnvironmentId → Option Int64) (now : Instant) (t : EnvironmentTable) :
    Prop where
  stands : r.Over t
  past : r.HeardBy now
  rows : ∀ id e, t.record? id = some e → r.HeardSince id e.lastCheckIn
  kept : ∀ id c, seen id = some c → r.HeardSince id c

variable {seen : EnvironmentId → Option Int64}

/-- What a record tells of lies in the past too. -/
theorem Current.dated (h : r.Current seen now t) (hr : t.record? id = some e) : e.lastCheckIn.toInt ≤ now.seconds := by
  obtain ⟨c, hc, hle⟩ := h.rows id e hr
  exact Int.le_trans (Int64.le_iff_toInt_le.1 hle) (h.past id c hc)

theorem Current.mono (h : r.Current seen now t) (hle : now ≤ later) : r.Current seen later t := by
  refine ⟨h.stands, fun id c hc => Int.le_trans (h.past id c hc) ?_, h.rows, h.kept⟩
  exact Int.ediv_le_ediv (by decide) hle

theorem Current.withStore (h : r.Current seen now t) {g : Gateway}
    (hg : g.database.environments = r.store.database.environments) : (r.withStore g).Current seen now t :=
  ⟨⟨hg.trans h.stands.table, h.stands.sound, h.stands.owner, h.stands.known, h.stands.heard⟩, h.past, h.rows, h.kept⟩

/-- A step that leaves the database as it was. -/
theorem Current.same (h : r.Current seen now t) {g : Gateway} (hg : g.database = r.store.database) :
    (r.withStore g).Current seen now t :=
  h.withStore (congrArg (·.environments) hg)

/-- Indices that are built anew from records of the past are current. -/
theorem current_reindex (hd : r.store.database.environments = some t) (ht : t.Sound)
    (hheard : ∀ id, (r.heartbeat? id).isSome = true → t.holds id = true) (hpast : r.HeardBy now)
    (hes : ∀ e ∈ t.records, e.lastCheckIn.toInt ≤ now.seconds) (hkept : ∀ id c, seen id = some c → r.HeardSince id c) :
    (r.reindex t.records).Current seen now t := by
  refine ⟨over_reindex hd ht hheard, hpast.reindex hes, fun id e hr => ?_, fun id c hc => (hkept id c hc).reindex _⟩
  obtain ⟨-, rfl, -⟩ := ht.written.of_record? hr
  exact heardSince_reindex r (ht.written.mem_records.2 hr)

theorem Current.reindex (h : r.Current seen now t) : (r.reindex t.records).Current seen now t :=
  current_reindex h.stands.table h.stands.sound (fun id hi => (h.stands.heard id).symm.trans hi) h.past
    (fun _ he => h.dated (h.stands.sound.written.mem_records.1 he)) h.kept

theorem Current.hear (h : r.Current seen now t) (hid : t.holds id = true) (hc : now.isReadable = true) :
    (r.hear now id).Current seen now t :=
  ⟨h.stands.hear hid now, h.past.hear hc id, fun i e hr => (h.rows i e hr).hear h.past hc id,
    fun i c hi => (h.kept i c hi).hear h.past hc id⟩

/-- The row of an environment that was heard of is written with a contact that is known. -/
theorem Current.rewritten (h : r.Current seen now t) (hid : t.holds id = true)
    (hc : t.collides id.number.toInt (.ofEnvironment e) = false) (hb : e.boundEdgeId? = t.edgeIdOf? id)
    (hlast : r.HeardSince id e.lastCheckIn) {g : Gateway}
    (hg : g.database.environments = some (t.withRow id (.ofEnvironment e))) :
    (r.withStore g).Current seen now (t.withRow id (.ofEnvironment e)) := by
  refine ⟨h.stands.rewritten hid hc hb hg, h.past, fun i e' hr => ?_, h.kept⟩
  rw [EnvironmentTable.record?_withRow] at hr
  split at hr
  · rename_i hi
    cases hr
    rw [hi]
    exact hlast
  · exact h.rows i e' hr

/-- A row in place of the one before, with its contact merged into the one that was known. -/
theorem Current.updated (h : r.Current seen now t) (hid : t.holds id = true)
    (hc : t.collides id.number.toInt (.ofEnvironment e) = false) (hdate : e.lastCheckIn.toInt ≤ now.seconds)
    {g : Gateway} (hg : g.database.environments = some (t.withRow id (.ofEnvironment e)))
    (hr : r' = (((r.withStore g).rebind id (t.edgeIdOf? id) e.boundEdgeId?).note id).seed id e.lastCheckIn) :
    r'.Current seen now (t.withRow id (.ofEnvironment e)) := by
  have hover := h.stands.rebound hid hc e.lastCheckIn hg
  rw [← hr] at hover
  obtain ⟨edgeIndex, he⟩ := (r.withStore g).rebind_eq id (t.edgeIdOf? id) e.boundEdgeId?
  rw [he] at hr
  have hsince : ∀ {i c}, r.HeardSince i c → r'.HeardSince i c := fun hi => by
    rw [hr]
    exact hi.seed id e.lastCheckIn
  refine ⟨hover, ?_, fun i e' hrecord => ?_, fun i c hi => hsince (h.kept i c hi)⟩
  · rw [hr]
    exact h.past.seed hdate id
  · rw [EnvironmentTable.record?_withRow] at hrecord
    split at hrecord
    · rename_i hi
      cases hrecord
      rw [hi, hr]
      exact heardSince_seed _ id e.lastCheckIn
    · exact hsince (h.rows i e' hrecord)

/-- A row that was added, with its contact. -/
theorem Current.entered (h : r.Current seen now t) (hid : id.isAssigned = true) (hfree : t.holds id = false)
    (hc : t.collides id.number.toInt (.ofEnvironment e) = false) (hdate : e.lastCheckIn.toInt ≤ now.seconds)
    {g : Gateway} (hg : g.database.environments = some (t.put id.number.toInt (.ofEnvironment e))) :
    ((r.withStore g).enterNew { e.normalize with id }).Current seen now (t.put id.number.toInt (.ofEnvironment e)) := by
  have hover := h.stands.enterNew hid hfree hc { e.normalize with id } rfl e.boundEdgeId?_normalize hg
  obtain ⟨edgeIndex, he⟩ := (r.withStore g).enterNew_eq { e.normalize with id }
  rw [he] at hover ⊢
  refine ⟨hover, h.past.seed hdate id, fun i e' hrecord => ?_, fun i c hi => (h.kept i c hi).seed id _⟩
  rw [EnvironmentTable.record?_put] at hrecord
  split at hrecord
  · rename_i hi
    cases hrecord
    rw [hi]
    exact heardSince_seed _ id e.lastCheckIn
  · exact (h.rows i e' hrecord).seed id _

/-- An environment that is forgotten, unless its contact was seen. -/
theorem Current.forget (h : r.Current seen now t) (hseen : seen id = none) {g : Gateway}
    (hg : g.database.environments = some (t.without id)) :
    ((r.withStore g).forget id).Current seen now (t.without id) := by
  have hsince : ∀ {i c}, i ≠ id → r.HeardSince i c → ((r.withStore g).forget id).HeardSince i c := by
    rintro i c hi ⟨c', hc', hle⟩
    exact ⟨c', (Table.get?_erase_of_ne _ hi).trans hc', hle⟩
  refine ⟨h.stands.forget id hg, fun i c hc => ?_, fun i e hr => ?_, fun i c hc => ?_⟩
  · have hi : (r.heartbeats.erase id).get? i = some c := hc
    rw [Table.get?_erase_eq] at hi
    split at hi
    · cases hi
    · exact h.past i c hi
  · rw [EnvironmentTable.record?_without] at hr
    split at hr
    · cases hr
    · exact hsince (by assumption) (h.rows i e hr)
  · refine hsince (fun hi => ?_) (h.kept i c hc)
    rw [hi, hseen] at hc
    cases hc

/-! ## Steps -/

/-- At a clock that cannot be read nobody is heard of. -/
theorem keeps_recordPoll_of_unread {K : Registry → Prop}
    (hstore : ∀ {r g}, g.database = r.store.database → K r → K (r.withStore g)) (hc : now.isReadable = false)
    (id : EnvironmentId) (agent : Option Agent) : Keeps K (recordPoll now id agent) := by
  refine (keeps_read hstore (fun _ => Database.keeps_environment? id) _ _).bind (fun e? r hr => ?_)
  cases e? with
  | none => exact hr
  | some e =>
    dsimp only
    rw [run_bind_crashed (run_clock_of_not_isReadable hc r)]
    exact hr

theorem Current.recordPoll (h : r.Current seen now t) (hc : now.isReadable = true) (id : EnvironmentId)
    (agent : Option Agent) : ∃ t', ((Registry.recordPoll now id agent).run r).2.Current seen now t' := by
  have hp := recording h.stands.table h.stands.sound.written now id agent
  generalize (Registry.recordPoll now id agent).run r = x at hp
  cases hp with
  | refused hg | unread _ _ hg => exact ⟨t, h.same hg⟩
  | heard ht _ hg => exact ⟨t, (h.same hg).hear (h.stands.sound.written.of_record? ht).1 hc⟩
  | unsaved hid hg => exact ⟨t, (h.same hg).hear hid hc⟩
  | saved ht _ hc' hg =>
    obtain ⟨hid, -, hedge⟩ := h.stands.sound.written.of_record? ht
    exact ⟨_, (h.hear hid hc).rewritten hid hc' hedge.symm (r.heardSince_hear now id) hg⟩

theorem Current.rebuild (h : r.Current seen now t) : ∃ t', (Registry.rebuild.run r).2.Current seen now t' := by
  obtain ⟨g, hg, ⟨err, hr⟩ | hr⟩ := rebuilding h.stands.table h.stands.sound
  · rw [hr]
    exact ⟨t, h.same hg⟩
  · rw [hr]
    exact ⟨t, (h.same hg).reindex⟩

theorem Current.update (h : r.Current seen now t) (hdate : e.lastCheckIn.toInt ≤ now.seconds) (id : EnvironmentId) :
    ∃ t', ((Registry.update id e).run r).2.Current seen now t' := by
  have hu := updating h.stands.table h.stands.sound.written id e
  generalize (Registry.update id e).run r = x at hu
  cases hu with
  | refused hg => exact ⟨t, h.same hg⟩
  | updated hid hc hg hr => exact ⟨_, h.updated hid hc hdate hg hr⟩

theorem Current.delete (h : r.Current seen now t) (hseen : ((Registry.delete id).run r).1 = .done () → seen id = none) :
    ∃ t', ((Registry.delete id).run r).2.Current seen now t' := by
  have hd := deleting h.stands.table id
  generalize (Registry.delete id).run r = x at hd hseen
  cases hd with
  | refused hg => exact ⟨t, h.same hg⟩
  | deleted hid hg => exact ⟨_, h.forget (hseen rfl) hg⟩

theorem keeps_current_update (hdate : e.lastCheckIn.toInt ≤ now.seconds) (id : EnvironmentId) :
    Keeps (fun r => ∃ t, r.Current seen now t) (Registry.update id e) :=
  fun _ ⟨_, h⟩ => h.update hdate id

theorem current_withStore {g : Gateway} (hg : g.database.environments = r.store.database.environments)
    (h : ∃ t, r.Current seen now t) : ∃ t, (r.withStore g).Current seen now t :=
  h.imp (fun _ h => h.withStore hg)

theorem current_same {g : Gateway} (hg : g.database = r.store.database) (h : ∃ t, r.Current seen now t) :
    ∃ t, (r.withStore g).Current seen now t :=
  current_withStore (congrArg (·.environments) hg) h

/-- A registry that is current stays so through the steps that bring no record and take none away. -/
theorem keptAt_current : KeptAt now (fun r => ∃ t, r.Current seen now t) where
  get id := keeps_get?_of_store current_same id
  list := keeps_list_of_store current_same
  recordPoll id agent := by
    cases hc : now.isReadable with
    | false => exact keeps_recordPoll_of_unread current_same hc id agent
    | true =>
      rintro r ⟨t, h⟩
      exact h.recordPoll hc id agent
  rebuild := fun _ ⟨_, h⟩ => h.rebuild
  store := current_same

/-! ## What is read -/

/-- The record that is shown of an environment tells of the last contact that is known. -/
theorem heartbeat?_of_overlay (hid : e.id = id) (h : (r.heartbeat? id).isSome = true) :
    r.heartbeat? id = some (r.overlay e).lastCheckIn := by
  subst hid
  obtain ⟨c, hc⟩ := Option.isSome_iff_exists.1 h
  unfold overlay
  rw [hc]

/-- A change answers the contact that is known then. -/
theorem Over.heartbeat?_of_update (h : r.Over t) {a : Environment} (hu : (Registry.update id e).run r = (.done a, r')) :
    a.id = id ∧ r'.heartbeat? id = some a.lastCheckIn := by
  have hends := updating h.table h.sound.written id e
  rw [hu] at hends
  cases hends with
  | updated hid hc hg hr =>
    have hover := h.rebound hid hc e.lastCheckIn hg
    rw [← hr] at hover
    refine ⟨id_overlay _ _, heartbeat?_of_overlay rfl ?_⟩
    rw [hover.heard, EnvironmentTable.holds_withRow, decide_eq_true rfl, Bool.true_or]

/-- A poll that is recorded answers the contact that is known then, which is this one. -/
theorem Over.heartbeat?_of_recordPoll (h : r.Over t) {agent : Option Agent} {a : Environment}
    (hp : (Registry.recordPoll now id agent).run r = (.done a, r')) :
    a.id = id ∧ r'.heartbeat? id = some a.lastCheckIn := by
  have hends := recording h.table h.sound.written now id agent
  rw [hp] at hends
  have hheard : ∀ g, (((r.withStore g).hear now id).heartbeat? id).isSome = true := fun g => by
    rw [heartbeat?_hear, if_pos rfl]
    rfl
  cases hends with
  | heard ht _ _ =>
    have hid := (h.sound.written.of_record? ht).2.1
    exact ⟨(id_overlay _ _).trans hid, heartbeat?_of_overlay hid (hheard _)⟩
  | @saved e b g ht _ _ _ =>
    have hid : (polled e b now).stored.id = id := (h.sound.written.of_record? ht).2.1
    exact ⟨(id_overlay _ _).trans hid, heartbeat?_of_overlay hid (hheard g)⟩

theorem Over.tended (h : r.Over t) : r.Tended t :=
  ⟨h.table, h.sound.written, fun id hi => (h.heard id).symm.trans hi⟩

end Registry

namespace Service

open Attempt

variable {s s' s₀ : Service} {t : EnvironmentTable} {id : EnvironmentId} {now first : Instant}
  {seen : EnvironmentId → Option Int64}

/-- What a service reads of the contacts with its environments at an instant. -/
structure Live (s : Service) (now : Instant) : Prop where
  known : ∀ id, s.registry.contains id = s.rows.contains id.number.toInt
  heard : ∀ id, (s.registry.heartbeat? id).isSome = s.registry.contains id
  /-- A contact is not older than the one in the row, and lies in the past. -/
  between : ∀ id c, s.registry.heartbeat? id = some c → c.toInt ≤ now.seconds ∧
    ∃ row e, s.rows.get? id.number.toInt = some row ∧ row.record? id.number.toInt = some e ∧ e.lastCheckIn ≤ c
  got : s.registry.store.Serves .environment → ∀ id, s.registry.contains id = true →
    ∃ e, (get id).run s = (.done e, s) ∧ e.id = id ∧ s.registry.heartbeat? id = some e.lastCheckIn
  /-- The environments that are known are listed in the order of their ids, each as it is read alone. -/
  listed : s.registry.store.Serves .scanAll → ∃ es, list.run s = (.done es, s) ∧
    es.map (·.id) = s.registry.known.keys ∧ es.Pairwise (fun e e' => e.id.number.toInt < e'.id.number.toInt) ∧
    (∀ e ∈ es, s.registry.heartbeat? e.id = some e.lastCheckIn) ∧
    (s.registry.store.Serves .environment → ∀ e ∈ es, (get e.id).run s = (.done e, s))

/-- A service whose registry is current reads the contacts that are known. -/
theorem live_of_current (h : s.registry.Current seen now t) : s.Live now := by
  have hrows : s.rows = t.rows := rows_of_environments h.stands.table
  have hget : s.registry.store.Serves .environment → ∀ e, t.record? e.id = some e →
      (get e.id).run s = (.done (s.registry.overlay e), s) := by
    intro hserves e hr
    have hread := run_onRegistry (s.registry.run_get? h.stands.tended hserves e.id)
    rw [hr] at hread
    exact run_bind_done hread
  have hheartbeat :
      ∀ e, t.record? e.id = some e → s.registry.heartbeat? e.id = some (s.registry.overlay e).lastCheckIn := by
    intro e hr
    refine Registry.heartbeat?_of_overlay rfl ?_
    rw [h.stands.heard, (h.stands.sound.written.of_record? hr).1]
  refine ⟨fun id => ?_, fun id => ?_, fun id c hc => ⟨h.past id c hc, ?_⟩, fun hserves id hid => ?_, fun hserves => ?_⟩
  · rw [h.stands.known, hrows]
    rfl
  · rw [h.stands.heard, h.stands.known]
  · have hid : t.holds id = true := by rw [← h.stands.heard, hc]; rfl
    obtain ⟨e, hrow, hrecord⟩ := h.stands.sound.written.row?_eq_some hid
    obtain ⟨c', hc', hle⟩ := h.rows id _ hrecord
    cases hc.symm.trans hc'
    rw [EnvironmentTable.record?, hrow] at hrecord
    exact ⟨_, _, hrows.symm ▸ hrow, hrecord, hle⟩
  · rw [h.stands.known, ← h.stands.sound.written.isSome_record?] at hid
    obtain ⟨e, hr⟩ := Option.isSome_iff_exists.1 hid
    obtain ⟨-, rfl, -⟩ := h.stands.sound.written.of_record? hr
    exact ⟨_, hget hserves e hr, Registry.id_overlay _ _, hheartbeat e hr⟩
  · have hrecord : ∀ e ∈ t.records, t.record? e.id = some e := fun e he => h.stands.sound.written.mem_records.1 he
    refine ⟨_, run_onRegistry (s.registry.run_list h.stands.tended hserves h.stands.sound.fits), ?_, ?_, ?_,
      fun hread => ?_⟩
    · rw [← h.stands.map_id_records, List.map_map]
      exact List.map_congr_left (fun e _ => s.registry.id_overlay e)
    · refine List.pairwise_map.2 (h.stands.sound.written.ascending_records.imp (fun {e e'} hlt => ?_))
      rw [Registry.id_overlay, Registry.id_overlay]
      exact hlt
    · rw [List.forall_mem_map]
      intro e he
      rw [Registry.id_overlay]
      exact hheartbeat e (hrecord e he)
    · rw [List.forall_mem_map]
      intro e he
      rw [Registry.id_overlay]
      exact hget hread e (hrecord e he)

/-! ## Runs of events -/

/-- Whether the contact that an event brings with a record lies in the past. -/
def Event.Dated (now : Instant) : Event → Prop
  | create e | update _ e => e.lastCheckIn.toInt ≤ now.seconds
  | _ => True

/-- Whether an event creates an environment under a negative id that the store takes. -/
def Event.CutsOff (s : Service) : Event → Prop
  | create e => e.id.number.toInt < 0 ∧ ((Service.create e).run s).1 = .crashed
  | _ => False

/-- Whether an event deletes an environment. -/
def Event.Removes (s : Service) (id : EnvironmentId) : Event → Prop
  | delete i => i = id ∧ ((Service.delete i).run s).1 = .done ()
  | _ => False

/-- Whether an event, at an instant, brings contacts of the past and ids of 32 bits only, and does not start the
service anew. -/
structure Event.Timely (s : Service) (now : Instant) (event : Event) : Prop where
  fits : event.Fits now s
  dated : event.Dated now
  goesOn : event ≠ .restart

/-- Whether an event can happen in a run that takes no contact back. -/
def Event.Onward (s : Service) (now : Instant) (event : Event) : Prop := event.Timely s now ∧ ¬ event.CutsOff s

theorem current_create (h : s.registry.Current seen now t) {e : Environment}
    (hfits : ∀ n, ((create e).run s).2.rows.contains n = true → n ≤ Decimal.signed32.most)
    (hdate : e.lastCheckIn.toInt ≤ now.seconds) :
    (((create e).run s).1 ≠ .crashed ∧ ∃ t', ((create e).run s).2.registry.Current seen now t') ∨
      (((create e).run s).1 = .crashed ∧ e.id.number.toInt < 0 ∧
        ((create e).run s).2.registry.store.database.Sound ∧
        ((create e).run s).2.rows.contains e.id.number.toInt = true ∧
        ((create e).run s).2.registry.contains e.id = false) :=
  keeps_or_cuts_off_create (K := fun r => ∃ t', r.Current seen now t') h.stands e hfits (fun _ hg => ⟨t, h.same hg⟩)
    (fun _ _ hid hfree hc hg => ⟨_, h.entered hid hfree hc hdate hg⟩)
    (fun id key => Registry.keeps_current_update (e := { e.normalize with id, edgeKey := key }) hdate id)

/-- A registry stays current through every event at that instant, unless a creation is cut off. -/
theorem current_step (h : s.registry.Current seen now t) {event : Event} (honward : event.Onward s now)
    (hkeeps : ∀ id c, seen id = some c → ¬ event.Removes s id) :
    ∃ t', ((event.step now).run s).2.registry.Current seen now t' := by
  obtain ⟨htimely, hcut⟩ := honward
  cases event with
  | create e =>
    have hfits := htimely.fits
    unfold Event.Fits at hfits
    rw [Event.step, snd_run_ignored] at hfits ⊢
    rcases current_create h hfits htimely.dated with ⟨-, hcurrent⟩ | ⟨hcrash, hneg, -⟩
    · exact hcurrent
    · exact absurd ⟨hneg, hcrash⟩ hcut
  | update id e =>
    rw [Event.step, snd_run_ignored]
    exact keeps_onRegistry (Registry.keeps_current_update htimely.dated id) s ⟨t, h⟩
  | delete id =>
    have hseen : ((Registry.delete id).run s.registry).1 = .done () → seen id = none := by
      intro hdone
      cases hid : seen id with
      | none => rfl
      | some c =>
        refine absurd ⟨rfl, ?_⟩ (hkeeps id c hid)
        unfold Service.delete
        rw [run_bind_done (run_onRegistry (Prod.ext hdone rfl))]
        rfl
    have hdeleted : Registers (fun r => ∃ t', r.Current seen now t') ((onRegistry (Registry.delete id)).run s).2 := by
      unfold onRegistry
      rw [run_within]
      exact h.delete hseen
    exact holds_bind (J := Registers (fun r => ∃ t', r.Current seen now t')) hdeleted
      (fun _ hs => hs) (fun _ _ hs => hs)
  | updateSettings settings =>
    exact keeps_registers_updateSettings (K := fun r => ∃ t', r.Current seen now t')
      Registry.current_withStore now settings
      s ⟨t, h⟩
  | restart => exact absurd rfl htimely.goesOn
  | _ =>
    refine keeps_registers_of_isCalm (K := fun r => ∃ t', r.Current seen now t') Registry.keptAt_current ?_ s ⟨t, h⟩
    trivial

/-- A registry that is current at first is current after every run of events at a clock that does not go back,
and no contact that was seen is taken back. -/
theorem current_of_run (h₀ : ∃ t, s₀.registry.Current seen first t) {events : List (Instant × Event)}
    (h : Run Event.step (fun s now event => event.Onward s now ∧
      ∀ id c, seen id = some c → ¬ event.Removes s id) s₀ events s)
    (hclock : (first :: events.map Prod.fst).Pairwise (· ≤ ·)) (hnow : ∀ u ∈ first :: events.map Prod.fst, u ≤ now) :
    ∃ t, s.registry.Current seen now t := by
  induction h generalizing now with
  | nil =>
    obtain ⟨t, ht⟩ := h₀
    exact ⟨t, ht.mono (hnow first List.mem_cons_self)⟩
  | snoc later event _ ha ih =>
    rw [List.map_append, ← List.cons_append, List.pairwise_append] at hclock
    obtain ⟨hclock, -, hlater⟩ := hclock
    obtain ⟨t, ht⟩ := ih hclock (fun u hu => hlater u hu later List.mem_cons_self)
    obtain ⟨t', ht'⟩ := current_step ht ha.1 ha.2
    exact ⟨t', ht'.mono (hnow later (by simp))⟩

/-- A start over records of the past leaves a registry that is current. -/
theorem current_of_start (hd : s.registry.store.database.environments = some t) (ht : t.Sound)
    (hheard : s.registry.heartbeats = ∅) (hpast : ∀ e ∈ t.records, e.lastCheckIn.toInt ≤ first.seconds)
    (hstart : start.run s = (.done (), s₀)) : ∃ t, s₀.registry.Current (fun _ => none) first t := by
  have hnone : ∀ id, s.registry.heartbeat? id = none := by
    intro id
    unfold Registry.heartbeat?
    rw [hheard]
    rfl
  unfold start at hstart
  obtain ⟨g, hg, ⟨err, hr⟩ | hr⟩ := Registry.rebuilding hd ht
  · rw [run_bind_refused (run_onRegistry hr)] at hstart
    cases hstart
  · rw [run_bind_done (run_onRegistry hr)] at hstart
    have hrebuilt : ((s.registry.withStore g).reindex t.records).Current (fun _ => none) first t := by
      refine Registry.current_reindex (Registry.table_withStore hd hg) ht (fun id hi => ?_) (fun id c hc => ?_)
        hpast nofun
      · cases (congrArg Option.isSome (hnone id)).symm.trans hi
      · cases (hnone id).symm.trans hc
    have hloaded := keeps_loadSettings (I := Registers (fun r => ∃ t, r.Current (fun _ => none) first t))
      (fun hs hg => Registry.current_withStore hg hs) (fun _ hs => hs)
      { s with registry := (s.registry.withStore g).reindex t.records } ⟨t, hrebuilt⟩
    rwa [hstart] at hloaded

/-- From any start over a sound database with contacts of the past, in every run of events at a clock that does not
go back, in which ids keep to 32 bits, no record brings a contact of the future and no creation is cut off: all
reads tell of the contacts that are known, as do the answers to changes and to polls. The known contacts lie
between those in the rows and the clock, and a contact is not taken back before its environment is deleted. The
next event ends that exactly if it is a creation that is cut off. -/
theorem live_of_run {store : Gateway} {range : PortRange} {keepAlive : Nat} {issuer : Issuer}
    {enrollment : EnrollmentConfig} (hd : store.database.Sound)
    (hpast : ∀ t, store.database.environments = some t → ∀ e ∈ t.records, e.lastCheckIn.toInt ≤ first.seconds)
    (hstart : start.run (assemble (.blank store) range keepAlive issuer enrollment) = (.done (), s₀))
    {events : List (Instant × Event)} (h : Run Event.step (fun s now event => event.Onward s now) s₀ events s)
    (hclock : (first :: events.map Prod.fst).Pairwise (· ≤ ·)) (hnow : ∀ u ∈ first :: events.map Prod.fst, u ≤ now) :
    s.Live now ∧
    (∀ id e a s', (update id e).run s = (.done a, s') → a.id = id ∧ s'.registry.heartbeat? id = some a.lastCheckIn) ∧
    (∀ id agent a r, (Registry.recordPoll now id agent).run s.registry = (.done a, r) →
      a.id = id ∧ r.heartbeat? id = some a.lastCheckIn) ∧
    (∀ id c more s', s.registry.heartbeat? id = some c →
      Run Event.step (fun s now event => event.Onward s now ∧ ¬ event.Removes s id) s more s' →
      (now :: more.map Prod.fst).Pairwise (· ≤ ·) → s'.registry.HeardSince id c) ∧
    ∀ event : Event, event.Timely s now → (((event.step now).run s).2.Live now ↔ ¬ event.CutsOff s) := by
  obtain ⟨t₀, htable, ht₀⟩ := hd
  obtain ⟨t, ht⟩ := current_of_run (current_of_start (s := assemble (.blank store) range keepAlive issuer enrollment)
    htable ht₀ rfl (hpast t₀ htable) hstart)
    (h.imp (fun _ _ _ ha => ⟨ha, nofun⟩)) hclock hnow
  refine ⟨live_of_current ht, fun id e a s' hu => ?_, fun id agent a r hp => ht.stands.heartbeat?_of_recordPoll hp,
    fun id c more s' hc hmore hlater => ?_, fun event htimely => ⟨fun hlive hcut => ?_, fun hcut => ?_⟩⟩
  · obtain ⟨r, hr, rfl⟩ := run_onRegistry_eq_done hu
    exact ht.stands.heartbeat?_of_update hr
  · -- From here on the contact is one that was seen.
    have hseen : s.registry.Current (fun i => if i = id then some c else none) now t := by
      refine ⟨ht.stands, ht.past, ht.rows, fun i c' hi => ?_⟩
      split at hi
      · rename_i hid
        cases hi
        exact ⟨c, hid ▸ hc, Int64.le_rfl⟩
      · cases hi
    have hkeeps : Run Event.step (fun s now event => event.Onward s now ∧
        ∀ i c', (if i = id then some c else none) = some c' → ¬ event.Removes s i) s more s' := by
      refine hmore.imp (fun s now event ha => ⟨ha.1, fun i c' hi => ?_⟩)
      split at hi
      · rename_i hid
        exact hid ▸ ha.2
      · cases hi
    obtain ⟨latest, hlatest⟩ := Instant.exists_latest (now :: more.map Prod.fst)
    obtain ⟨t', ht'⟩ := current_of_run ⟨t, hseen⟩ hkeeps hlater hlatest
    exact ht'.kept id c (if_pos rfl)
  · cases event with
    | create e =>
      have hfits := htimely.fits
      unfold Event.Fits at hfits
      rw [Event.step, snd_run_ignored] at hfits hlive
      rcases current_create ht hfits htimely.dated with ⟨hdone, -⟩ | ⟨-, -, -, hrow, hknown⟩
      · exact hdone hcut.2
      · have hsame := hlive.known e.id
        rw [hrow, hknown] at hsame
        cases hsame
    | _ => exact hcut.elim
  · obtain ⟨t', ht'⟩ := current_step ht ⟨htimely, hcut⟩ nofun
    exact live_of_current ht'

/-- An environment that was polled keeps that contact when an older one is written to its row, and when the
indices are built anew. -/
theorem live_of_older_update : ∃ s,
    Run Event.step (fun s now event => event.Onward s now) (overFresh Coordinator.hourly)
      [(.ofSeconds 10, .create (edge ⟨0⟩ "A")), (.ofSeconds 20, .poll "A" none),
        (.ofSeconds 30, .update ⟨1⟩ { edge ⟨1⟩ "A" with lastCheckIn := 5 }), (.ofSeconds 40, .rebuild)] s ∧
    s.Live (.ofSeconds 50) ∧ s.registry.heartbeat? ⟨1⟩ = some 20 ∧
    (s.rows.get? 1).map (·.lastCheckIn) = some (.whole 5) := by
  obtain ⟨s, hrun, hheard, hrow⟩ :
      ∃ s, Run Event.step (fun s now event => event.Onward s now) (overFresh Coordinator.hourly)
      [(.ofSeconds 10, .create (edge ⟨0⟩ "A")), (.ofSeconds 20, .poll "A" none),
        (.ofSeconds 30, .update ⟨1⟩ { edge ⟨1⟩ "A" with lastCheckIn := 5 }), (.ofSeconds 40, .rebuild)] s ∧
      s.registry.heartbeat? ⟨1⟩ = some 20 ∧ (s.rows.get? 1).map (·.lastCheckIn) = some (.whole 5) :=
    ⟨_, (((Run.nil.snoc _ _ ⟨⟨Event.fits_of_keys (by decide +kernel), by unfold Event.Dated; decide, nofun⟩,
            fun hcut => absurd hcut.1 (by decide)⟩).snoc _ _
          ⟨⟨Event.fits_of_keys (by decide +kernel), trivial, nofun⟩, id⟩).snoc _ _
        ⟨⟨Event.fits_of_keys (by decide +kernel), by unfold Event.Dated; decide, nofun⟩, id⟩).snoc _ _
      ⟨⟨Event.fits_of_keys (by decide +kernel), trivial, nofun⟩, id⟩, by decide +kernel, by decide +kernel⟩
  have hstart : start.run (overFresh Coordinator.hourly) = (.done (), overFresh Coordinator.hourly) := by decide +kernel
  have hfresh : (Gateway.clear .fresh).database.Sound := Database.sound_fresh
  have hpast : ∀ t, (Gateway.clear .fresh).database.environments = some t →
      ∀ e ∈ t.records, e.lastCheckIn.toInt ≤ (Instant.ofSeconds 0).seconds := by
    rintro t ht e he
    cases ht
    cases he
  have hlive : s.Live (.ofSeconds 50) := (live_of_run hfresh hpast hstart hrun (by decide) (by decide)).1
  exact ⟨s, hrun, hlive, hheard, hrow⟩

/-- An environment that was created under a negative id is listed, but is not known and was never heard of. -/
theorem unknown_environment_listed : ∃ s e,
    start.run (overFresh Coordinator.hourly) = (.done (), overFresh Coordinator.hourly) ∧
    Run Event.step (fun s now event => event.Timely s now) (overFresh Coordinator.hourly)
      [(.ofSeconds 10, .create (edge ⟨-5⟩ "A"))] s ∧
    list.run s = (.done [e], s) ∧ (get ⟨-5⟩).run s = (.done e, s) ∧ e.id = ⟨-5⟩ ∧
    s.registry.known.keys = [] ∧ s.registry.heartbeat? ⟨-5⟩ = none :=
  ⟨_, edge ⟨-5⟩ "A", by decide +kernel,
    Run.nil.snoc _ _ ⟨Event.fits_of_keys (by decide +kernel), by unfold Event.Dated; decide, nofun⟩, by decide +kernel,
    by decide +kernel, rfl, by decide +kernel, by decide +kernel⟩

end Service

end EdgeFleet
