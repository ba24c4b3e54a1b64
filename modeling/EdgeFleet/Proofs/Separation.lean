import EdgeFleet.Proofs.Consistency
import EdgeFleet.Proofs.Persistence
import EdgeFleet.Proofs.Requests
/-!
# Events about one environment

What the service does for one environment touches nothing that belongs to another: not the row, the edge
ids, the contact, the tunnel, the port or the jobs. Two services `AgreeBut` for an environment when they
differ at most in what belongs to that one, and every event that concerns only it keeps to that.
-/

namespace EdgeFleet

/-- Whether two tables differ at most in the row of one environment, and in the ids that were held. -/
structure EnvironmentTable.AgreeBut (id : EnvironmentId) (t t' : EnvironmentTable) : Prop where
  hasIndex : t'.hasIndex = t.hasIndex
  row : ∀ {n}, n ≠ id.number.toInt → t'.rows.get? n = t.rows.get? n

namespace EnvironmentTable.AgreeBut

variable {t t' : EnvironmentTable} {id : EnvironmentId}

theorem refl (id : EnvironmentId) (t : EnvironmentTable) : t.AgreeBut id t := ⟨rfl, fun _ => rfl⟩

theorem insert (h : t.AgreeBut id t') (row : EnvironmentRow) (sequence : Int) :
    t.AgreeBut id { t' with rows := t'.rows.insert id.number.toInt row, sequence } :=
  ⟨h.hasIndex, fun hn => (Table.get?_insert_of_ne t'.rows row hn).trans (h.row hn)⟩

theorem erase (h : t.AgreeBut id t') : t.AgreeBut id { t' with rows := t'.rows.erase id.number.toInt } :=
  ⟨h.hasIndex, fun hn => (Table.get?_erase_of_ne t'.rows hn).trans (h.row hn)⟩

/-- What two tables do not agree on is gone once the row is taken away. -/
theorem rows_without (h : t.AgreeBut id t') (hrow : t.rows.contains id.number.toInt = false) :
    (t'.without id).rows = t.rows := by
  refine Table.ext_get? (fun n => (Table.get?_erase_eq t'.rows n id.number.toInt).trans ?_)
  split
  · rename_i hn
    rw [hn, Table.contains_eq_false_iff.1 hrow]
  · exact h.row ‹_›

end EnvironmentTable.AgreeBut

namespace Database

open Attempt

variable {d₀ : Database} {id : EnvironmentId} {e : Environment}

/-- Whether the tables of environments of two databases differ at most in the row of one environment. -/
def AgreeBut (id : EnvironmentId) (d d' : Database) : Prop :=
  d'.Has (fun t' => ∀ t, d.environments = some t → t.AgreeBut id t')

/-! ## Calls of the store for one environment -/

/-- Saving a record under an id that was given out writes the row of that id. -/
theorem keeps_agreeBut_save (hid : e.id = id) (ha : id.isAssigned = true) : Keeps (d₀.AgreeBut id) (save e) := by
  subst hid
  have hadd : Keeps (d₀.AgreeBut e.id) (add e) := by
    refine keeps_withTable _ (fun {d} t ht hd => ?_)
    rw [if_pos ha, run_bind_done (run_orRefuse_some _ e.id.number.toInt d)]
    dsimp only
    split
    · exact hd
    · refine holds_putTable (has_withTable (fun u hu => (hd _ ht u hu).insert _ _)) (fun _ => ?_)
      split
      · exact Keeps.of_eq (fun _ => rfl)
      · split
        · exact keeps_refuse _
        · exact keeps_pure _
  have hreplace : Keeps (d₀.AgreeBut e.id) (replace e) := by
    refine keeps_withTable _ (fun {d} t ht hd => ?_)
    dsimp only
    split
    · exact hd
    · refine holds_putTable (has_withTable (fun u hu => ?_)) (fun _ => keeps_ofExcept _)
      exact (hd _ ht u hu).insert _ t.sequence
  unfold save
  rw [if_pos ha]
  refine (keeps_record? _).bind (fun record => ?_)
  split
  · exact hreplace
  · exact hadd

theorem keeps_agreeBut_delete (id : EnvironmentId) : Keeps (d₀.AgreeBut id) (delete id) := by
  refine keeps_withTable _ (fun t ht hd => ?_)
  split
  · exact has_withTable (fun u hu => (hd _ ht u hu).erase)
  · exact hd

/-- The record that is read of an environment has its id. -/
theorem id_of_environment? {d d' : Database} (h : (environment? id).run d = (.done (some e), d')) : e.id = id := by
  unfold environment? record? at h
  obtain ⟨record, d₁, hrecord, h⟩ := run_bind_eq_done h
  obtain ⟨t, d₂, -, hread⟩ := run_bind_eq_done hrecord
  cases record with
  | none => cases h
  | some record =>
    have hok : record = .ok e := by
      rw [run_map] at h
      cases record with
      | error c => cases h
      | ok e' =>
        cases h
        rfl
    subst hok
    cases hrow : t.rows.get? id.number.toInt with
    | none =>
      rw [hrow] at hread
      cases hread
    | some row =>
      rw [hrow] at hread
      dsimp only at hread
      rw [run_map] at hread
      cases hr : row.read id.number.toInt with
      | error fault =>
        rw [hr] at hread
        cases hread
      | ok record =>
        rw [hr] at hread
        cases hread
        exact EnvironmentRow.id_of_read hr

end Database

namespace Registry

open Attempt

variable {r₀ r : Registry} {id : EnvironmentId} {e : Environment}

/-- Whether two registries differ at most in what they keep for one environment. -/
structure AgreeBut (id : EnvironmentId) (r r' : Registry) : Prop where
  database : r.store.database.AgreeBut id r'.store.database
  owner : ∀ {k i}, i ≠ id → (r'.owner? k = some i ↔ r.owner? k = some i)
  heard : ∀ {i}, i ≠ id → r'.heartbeat? i = r.heartbeat? i
  known : ∀ {i}, i ≠ id → r'.contains i = r.contains i

namespace AgreeBut

theorem refl (id : EnvironmentId) (r : Registry) : AgreeBut id r r := by
  refine ⟨fun t ht u hu => ?_, fun _ => Iff.rfl, fun _ => rfl, fun _ => rfl⟩
  cases ht.symm.trans hu
  exact .refl id t

theorem withStore (h : AgreeBut id r₀ r) {g : Gateway} (hg : r₀.store.database.AgreeBut id g.database) :
    AgreeBut id r₀ (r.withStore g) :=
  ⟨hg, h.owner, h.heard, h.known⟩

/-! ## Changes of the indices for one environment -/

theorem note (h : AgreeBut id r₀ r) : AgreeBut id r₀ (r.note id) := by
  refine ⟨h.database, h.owner, h.heard, fun {i} hi => ?_⟩
  rw [contains_note, ← h.known hi]
  simp [hi]

theorem heardAt (h : AgreeBut id r₀ r) (seconds : Int64) :
    AgreeBut id r₀ { r with heartbeats := r.heartbeats.insert id seconds } :=
  ⟨h.database, h.owner, fun hi => (Table.get?_insert_of_ne r.heartbeats seconds hi).trans (h.heard hi), h.known⟩

/-- Giving out an edge id that is nobody's, or the environment's own. -/
theorem bind (h : AgreeBut id r₀ r) {k : String} (hk : ∀ i, r.owner? k = some i → i = id) :
    AgreeBut id r₀ (r.bind k id) := by
  refine ⟨h.database, fun {k' i} hi => ?_, h.heard, h.known⟩
  rw [owner?_bind, ← h.owner hi]
  split
  · rename_i hkk
    rw [hkk]
    exact ⟨fun he => absurd (Option.some.inj he).symm hi, fun he => absurd (hk i he) hi⟩
  · rfl

/-- Taking an edge id away that is the environment's own. -/
theorem free (h : AgreeBut id r₀ r) {k : String} (hk : r.owner? k = some id) :
    AgreeBut id r₀ { r with edgeIndex := r.edgeIndex.erase k } := by
  refine ⟨h.database, fun {k' i} hi => ?_, h.heard, h.known⟩
  rw [← h.owner hi]
  change (r.edgeIndex.erase k).get? k' = some i ↔ _
  rw [Table.get?_erase_eq]
  split
  · rename_i hkk
    rw [hkk, hk]
    exact ⟨nofun, fun he => absurd (Option.some.inj he).symm hi⟩
  · rfl

theorem rebind (h : AgreeBut id r₀ r) (old : Option String) {new : Option String}
    (hnew : ∀ k i, new = some k → r.owner? k = some i → i = id) : AgreeBut id r₀ (r.rebind id old new) := by
  unfold Registry.rebind
  by_cases hsame : old = new
  · rw [if_pos hsame]
    exact h
  · rw [if_neg hsame]
    cases old with
    | none =>
      cases new with
      | none => exact h
      | some k => exact h.bind (fun i hi => hnew k i rfl hi)
    | some former =>
      dsimp only
      by_cases howner : r.owner? former = some id
      · rw [if_pos howner]
        cases new with
        | none => exact h.free howner
        | some k =>
          refine (h.free howner).bind (fun i hi => ?_)
          -- What is left of the index was there before.
          change (r.edgeIndex.erase former).get? k = some i at hi
          rw [Table.get?_erase_eq] at hi
          split at hi
          · cases hi
          · exact hnew k i rfl hi
      · rw [if_neg howner]
        cases new with
        | none => exact h
        | some k => exact h.bind (fun i hi => hnew k i rfl hi)

/-- Entering a record whose edge id is nobody's. -/
theorem enterNew (h : AgreeBut id r₀ r) (hid : e.id = id) (howner : ∀ k, e.boundEdgeId? = some k → r.owner? k = none) :
    AgreeBut id r₀ (r.enterNew e) := by
  unfold Registry.enterNew
  rw [hid]
  cases hk : e.boundEdgeId? with
  | none => exact h.note.heardAt _
  | some k =>
    have hbound : AgreeBut id r₀ (r.bind k id) := h.bind (fun i hi => by rw [howner k hk] at hi; cases hi)
    exact hbound.note.heardAt _

theorem forget (h : AgreeBut id r₀ r) : AgreeBut id r₀ (r.forget id) := by
  refine ⟨h.database, fun {k i} hi => ?_, fun hi => (Table.get?_erase_of_ne r.heartbeats hi).trans (h.heard hi),
    fun {i} hi => ?_⟩
  · rw [owner?_forget, Option.filter_eq_some_iff, ← h.owner hi]
    simp [hi]
  · rw [contains_forget, ← h.known hi]
    simp [hi]

/-- What two registries do not agree on is gone once the environment is forgotten. -/
theorem forget_eq (h : AgreeBut id r₀ r) (howner : ∀ k, r₀.owner? k ≠ some id) (hheard : r₀.heartbeat? id = none)
    (hknown : r₀.contains id = false) :
    (r.forget id).edgeIndex = r₀.edgeIndex ∧ (r.forget id).known = r₀.known ∧
    (r.forget id).heartbeats = r₀.heartbeats := by
  refine ⟨Table.ext_get? (fun k => Option.ext (fun i => ?_)), Table.ext_contains (fun i => ?_),
    Table.ext_get? (fun i => ?_)⟩
  · change (r.forget id).owner? k = some i ↔ r₀.owner? k = some i
    rw [owner?_forget, Option.filter_eq_some_iff]
    by_cases hi : i = id
    · simp [hi, howner]
    · rw [← h.owner hi]
      simp [hi]
  · change (r.forget id).contains i = r₀.contains i
    rw [contains_forget]
    by_cases hi : i = id
    · simp [hi, hknown]
    · rw [← h.known hi]
      simp [hi]
  · refine (Table.get?_erase_eq r.heartbeats i id).trans ?_
    split
    · rename_i hi
      rw [hi]
      exact hheard.symm
    · exact h.heard ‹_›

end AgreeBut

/-- A row that is put for one environment. -/
theorem agreeBut_put {t : EnvironmentTable} {g : Gateway} {row : EnvironmentRow}
    (hd : r.store.database.environments = some t)
    (hg : g.database = r.store.database.withTable (t.put id.number.toInt row)) : r.AgreeBut id (r.withStore g) := by
  refine (AgreeBut.refl id r).withStore (fun u hu v hv => ?_)
  rw [hg] at hu
  cases hu
  cases hd.symm.trans hv
  exact (EnvironmentTable.AgreeBut.refl id t).insert _ _

/-! ## Steps of the registry for one environment -/

/-- A call of the store that keeps to the environment leaves the indices. -/
theorem agreeBut_onStoreAs {α : Type} {x : Database.Step α} (hx : Keeps (r₀.store.database.AgreeBut id) x)
    (h : AgreeBut id r₀ r) (error : StoreError → RegistryError) (m : StoreMethod) :
    ∃ o g, (onStoreAs error (Gateway.call m x)).run r = (o, r.withStore g) ∧ AgreeBut id r₀ (r.withStore g) := by
  rcases run_onStoreAs error m x r with ⟨err, g, hg, hr⟩ | ⟨g, hg, hr⟩
  · exact ⟨_, g, hr, h.withStore (by rw [hg]; exact h.database)⟩
  · exact ⟨_, g, hr, h.withStore (by rw [hg]; exact hx _ h.database)⟩

theorem keeps_agreeBut_onStoreAs {α : Type} {x : Database.Step α} (hx : Keeps (r₀.store.database.AgreeBut id) x)
    (error : StoreError → RegistryError) (m : StoreMethod) :
    Keeps (r₀.AgreeBut id) (onStoreAs error (Gateway.call m x)) := by
  intro r h
  obtain ⟨o, g, hr, hg⟩ := agreeBut_onStoreAs hx h error m
  rw [hr]
  exact hg

theorem keeps_agreeBut_get? (id i : EnvironmentId) : Keeps (r₀.AgreeBut id) (get? i) :=
  (keeps_agreeBut_onStoreAs (Database.keeps_environment? i) _ _).bind (fun _ => keeps_view _)

theorem keeps_agreeBut_list (id : EnvironmentId) : Keeps (r₀.AgreeBut id) list :=
  (keeps_agreeBut_onStoreAs Database.keeps_all _ _).bind (fun _ => keeps_view _)

/-- Replacing the record of an environment: an edge id that belongs to another one is refused before it is
given out. -/
theorem keeps_agreeBut_update (ha : id.isAssigned = true) (e : Environment) : Keeps (r₀.AgreeBut id) (update id e) := by
  refine (keeps_agreeBut_onStoreAs (Database.keeps_environment? id) _ _).bind (fun previous => ?_)
  cases previous with
  | none => exact keeps_refuse _
  | some previous =>
    intro r h
    dsimp only
    generalize he : ({ e with id } : Environment).normalize = e'
    have hid : e'.id = id := by rw [← he]; rfl
    cases hconflict : r.conflict? e' (fun existing => existing = id) with
    | some err =>
      rw [run_bind_refused (by rw [run_guard, hconflict])]
      exact h
    | none =>
      rw [run_bind_done (by rw [run_guard, hconflict])]
      obtain ⟨o, g, hr, hg⟩ := agreeBut_onStoreAs (Database.keeps_agreeBut_save hid ha) h .ofStore .save
      change (onStore (Gateway.save e')).run r = _ at hr
      cases o with
      | refused err =>
        rw [run_bind_refused hr]
        exact hg
      | crashed =>
        rw [run_bind_crashed hr]
        exact hg
      | done stored =>
        rw [run_bind_done hr, run_bind_done (run_change _ _)]
        refine ((hg.rebind _ (fun k i hk hi => ?_)).note).heardAt _
        -- Whoever had the edge id before was the environment itself.
        unfold conflict? at hconflict
        change r.owner? k = some i at hi
        simpa [hk, hi] using hconflict

/-- The record that is read of an environment has its id. -/
theorem id_of_environment? {r r' : Registry} {e? : Option Environment}
    (h : (onStore (Gateway.environment? id)).run r = (.done e?, r')) : ∀ e, e? = some e → e.id = id := by
  rintro e rfl
  rcases run_onStoreAs .ofStore .environment (Database.environment? id) r with ⟨err, g, hg, hr⟩ | ⟨g, hg, hr⟩
  · cases h.symm.trans hr
  · have hdone := congrArg Prod.fst (hr.symm.trans h)
    obtain ⟨e', he, rfl⟩ := Outcome.rename_eq_done_iff.1 hdone
    exact Database.id_of_environment? (Prod.ext he rfl)

theorem keeps_agreeBut_recordPoll (ha : id.isAssigned = true) (now : Instant) (agent : Option Agent) :
    Keeps (r₀.AgreeBut id) (recordPoll now id agent) := by
  refine (keeps_agreeBut_onStoreAs (Database.keeps_environment? id) _ _).bind_of
    (fun _ _ _ => id_of_environment?) (fun e? hid => ?_)
  cases e? with
  | none => exact keeps_refuse _
  | some e =>
    refine (keeps_clock now).bind (fun now => ?_)
    refine (keeps_change (fun r h => h.heardAt (Int64.ofInt now.seconds))).bind (fun _ => ?_)
    split
    · refine (keeps_agreeBut_onStoreAs ?_ _ _).bind (fun _ => keeps_view _)
      exact Database.keeps_agreeBut_save (hid e rfl) ha
    · exact keeps_view _

theorem keeps_agreeBut_delete (id : EnvironmentId) : Keeps (r₀.AgreeBut id) (delete id) := by
  refine (keeps_agreeBut_onStoreAs (Database.keeps_agreeBut_delete id) _ _).bind (fun _ => ?_)
  exact fun r h => h.forget

end Registry

namespace TunnelBoard

variable {issuer : Issuer} {known : EnvironmentId → Bool} {strands : Prop} {b b' : TunnelBoard}
  {id i : EnvironmentId} {t : Tunnel} {port : UInt16}

/-! ## Where ports get stranded -/

theorem AgreeBut.stranded_iff (h : AgreeBut i b b') (hne : id ≠ i) : b'.Stranded id ↔ b.Stranded id := by
  unfold Stranded
  rw [h.tunnel hne, h.port hne]

/-- Keeping a tunnel with the port that the one before held. -/
theorem stranded_keep_iff (ht : t.port = (b.tunnel? i).bind Tunnel.port) :
    (b.keep i t).Stranded id ↔ b.Stranded id := by
  by_cases hi : id = i
  · have hk : ((b.keep i t).tunnel? i).bind Tunnel.port = t.port := by
      rw [tunnel?_keep_self]
      rfl
    unfold Stranded
    rw [hi, hk, ht]
    rfl
  · exact (AgreeBut.keep b i t).stranded_iff hi

/-- A tunnel with a port is not stranded. -/
theorem not_stranded_keep (hp : t.port = some port) : ¬ (b.keep id t).Stranded id := by
  rintro ⟨hnone, -⟩
  rw [tunnel?_keep_self, Option.bind_some, hp] at hnone
  cases hnone

/-- A port that a tunnel holds is given back together with it, so none is stranded that way. -/
theorem stranded_of_givenBack (ha : AgreeBut i b b')
    (hp : b'.pool.port? i = if i = i ∧ ((b.tunnel? i).bind Tunnel.port).isSome = true then none else b.pool.port? i)
    (h : b'.Stranded id) : b.Stranded id := by
  by_cases hi : id = i
  · subst hi
    obtain ⟨-, hlent⟩ := h
    rw [hp] at hlent
    split at hlent
    · cases hlent
    · rename_i hnone
      exact ⟨by simpa using hnone, hlent⟩
  · exact (ha.stranded_iff hi).1 h

theorem stranded_of_drop (b : TunnelBoard) (h : (b.drop i).Stranded id) : b.Stranded id :=
  stranded_of_givenBack (.drop b i) (b.port?_drop i i) h

/-- A port is stranded after a change only where it was before, or where the change strands it. -/
theorem Change.stranded (hc : Change issuer known strands b b') (hs : ¬ strands) (h : b'.Stranded id) :
    b.Stranded id := by
  have hreserve : ∀ {i t u port c}, b.reserve? i t = some (port, c) → u.port = some port →
      (c.keep i u).Stranded id → b.Stranded id := by
    intro i t u port c hr hu hk
    by_cases hi : id = i
    · exact absurd (hi ▸ hk) (not_stranded_keep hu)
    · exact (((AgreeBut.reserve hr).trans (.keep c i u)).stranded_iff hi).1 hk
  cases hc with
  | lend hl => exact absurd hl hs
  | begin now hk ht => exact (stranded_keep_iff (by rw [ht]; rfl)).1 h
  | ask ht _ hr => exact hreserve hr rfl h
  | activate now seconds ht hr => exact hreserve hr rfl h
  | use now seconds ht hp => exact (stranded_keep_iff (by rw [ht]; rfl)).1 h
  | close i => exact stranded_of_givenBack (.close b i) (b.port?_close i i) h
  | drop i => exact b.stranded_of_drop h
  | count => exact h
  | setKeepAlive seconds => exact h

theorem Changes.stranded (hc : Changes issuer known strands b b') (hs : ¬ strands) (h : b'.Stranded id) :
    b.Stranded id := by
  induction hc with
  | refl => exact h
  | tail _ hc ih => exact ih (hc.stranded hs h)

end TunnelBoard

/-- Whether credentials can be made at an instant: the clock can be read, and the calendar has the end of
their validity. -/
def Issuer.IssuesAt (i : Issuer) (now : Instant) : Prop := now.isReadable = true ∧ (now.plus? i.validity).isSome = true

instance (i : Issuer) (now : Instant) : Decidable (i.IssuesAt now) := inferInstanceAs (Decidable (_ ∧ _))

namespace Coordinator

open Attempt

variable {issuer : Issuer} {now : Instant} {id : EnvironmentId} {α : Type}

/-- A call strands no port at an instant at which credentials can be made. -/
theorem Call.not_strands (hi : issuer.IssuesAt now) (call : Call) (s : Coordinator) : ¬ call.Strands issuer now s := by
  rintro ⟨i, hasks, -, -, hcrash⟩
  cases call with
  | require j =>
    cases hasks
    exact require_ne_crashed issuer now s i hi.1 hi.2 hcrash
  | await j =>
    cases hasks
    rw [Call.step, run_await] at hcrash
    split at hcrash
    · exact require_ne_crashed issuer now (s.looked i) i hi.1 hi.2 hcrash
    · split at hcrash <;> cases hcrash
  | _ => cases hasks

/-- Whether two states differ at most in the tunnel and the port of one environment, and no port of it was
stranded on the way from one to the other if it was `calm`. -/
structure AgreeBut (id : EnvironmentId) (calm : Prop) (s s' : Coordinator) : Prop where
  board : s.board.AgreeBut id s'.board
  jobs : s'.jobs = s.jobs
  stranded : calm → s'.board.Stranded id → s.board.Stranded id

/-- Whether a step at an instant is about one environment; it is calm if credentials can be made. -/
def Concerns (issuer : Issuer) (now : Instant) (id : EnvironmentId) (x : Step α) : Prop :=
  ∀ s, AgreeBut id (issuer.IssuesAt now) s (x.run s).2

theorem concerns_step (issuer : Issuer) (now : Instant) (call : Call) (h : call.subject? = some id) :
    Concerns issuer now id (call.step issuer now) := by
  intro s
  refine ⟨agreeBut_step h, jobs_step issuer now call s, fun hi hs => ?_⟩
  exact (changes_step issuer now call s).stranded (call.not_strands hi s) hs

theorem Concerns.of_ignored {x : Step α} (h : Concerns issuer now id x.ignored) : Concerns issuer now id x := by
  intro s
  have hs := h s
  rwa [snd_run_ignored] at hs

end Coordinator

/-- Whether two boards of jobs differ at most in the queue of one environment. -/
def JobBoard.AgreeBut (id : EnvironmentId) (b b' : JobBoard) : Prop := ∀ i, i ≠ id → b'.queues.get? i = b.queues.get? i

namespace JobBoard.AgreeBut

variable {b b' : JobBoard} {id : EnvironmentId}

theorem attach (h : b.AgreeBut id b') (job : Job) : b.AgreeBut id (b'.attach id job) :=
  fun i hi => (Table.get?_insert_of_ne b'.queues _ hi).trans (h i hi)

theorem acknowledge (h : b.AgreeBut id b') (job : JobId) : b.AgreeBut id (b'.acknowledge id job).2 := by
  intro i hi
  simp only [JobBoard.acknowledge]
  split
  · exact (Table.get?_erase_of_ne b'.queues hi).trans (h i hi)
  · exact (Table.get?_insert_of_ne b'.queues _ hi).trans (h i hi)

theorem forget (h : b.AgreeBut id b') : b.AgreeBut id (b'.forget id) :=
  fun i hi => (Table.get?_erase_of_ne b'.queues hi).trans (h i hi)

/-- What two boards do not agree on is gone once the queue is taken away. -/
theorem forget_eq (h : b.AgreeBut id b') (hqueue : b.queues.get? id = none) : b'.forget id = b := by
  refine congrArg JobBoard.mk (Table.ext_get? (fun i => (Table.get?_erase_eq b'.queues i id).trans ?_))
  split
  · rename_i hi
    rw [hi, hqueue]
  · exact h i ‹_›

end JobBoard.AgreeBut

namespace Service

open Attempt

variable {s u : Service} {id : EnvironmentId} {now : Instant} {calm : Prop} {α : Type}

/-! ## Events about one environment -/

/-- Whether two services differ at most in what they keep for one environment, and no port of it was stranded
on the way from one to the other if it was `calm`. -/
structure AgreeBut (id : EnvironmentId) (calm : Prop) (s u : Service) : Prop where
  registry : s.registry.AgreeBut id u.registry
  board : s.board.AgreeBut id u.board
  jobs : s.jobs.AgreeBut id u.jobs
  issuer : u.issuer = s.issuer
  stranded : calm → u.board.Stranded id → s.board.Stranded id

/-- Whether an event is about one environment alone, or about none. An agent that polls is that of the
environment which its edge id belongs to. -/
def Event.Concerns (id : EnvironmentId) (s : Service) : Event → Prop
  | get i | update i _ | delete i | recordActivity i | requireTunnel i | stopTunnel i | await i | attachJob i _
  | acknowledgeJob i _ => i = id
  | poll edgeId _ => ∀ i, s.registry.owner? edgeId = some i → i = id
  | coordinate call => call.subject? = some id
  | list | refuseNext _ _ => True
  | create _ | detachJob _ | updateSettings _ | rebuild | restart => False

theorem keeps_agreeBut_onRegistry {x : Registry.Step α} (hx : Keeps (s.registry.AgreeBut id) x) :
    Keeps (AgreeBut id calm s) (onRegistry x) :=
  hx.within (fun _ h => h.registry) (fun _ _ h hr => ⟨hr, h.board, h.jobs, h.issuer, h.stranded⟩) _

theorem keeps_agreeBut_withIssuer {x : Issuer → Coordinator.Step α} (hi : calm → s.issuer.IssuesAt now)
    (hx : ∀ issuer, Coordinator.Concerns issuer now id (x issuer)) : Keeps (AgreeBut id calm s) (withIssuer x) := by
  intro u h
  have hc := hx u.issuer ⟨⟨u.registry.known, none⟩, u.board, u.jobs⟩
  refine ⟨h.registry, h.board.trans hc.board, fun i hne => ?_, h.issuer, fun hcalm hs => ?_⟩
  · exact (congrArg (·.queues.get? i) hc.jobs).trans (h.jobs i hne)
  · exact h.stranded hcalm (hc.stranded (h.issuer ▸ hi hcalm) hs)

theorem keeps_agreeBut_onTunnels {x : Coordinator.Step α} (hi : calm → s.issuer.IssuesAt now)
    (hx : ∀ issuer, Coordinator.Concerns issuer now id x) : Keeps (AgreeBut id calm s) (onTunnels x) :=
  keeps_agreeBut_withIssuer (x := fun _ => x) hi hx

theorem concerns_advanceTunnel (issuer : Issuer) (now : Instant) (id : EnvironmentId) :
    Coordinator.Concerns issuer now id (advanceTunnel now id) := by
  intro s
  rcases snd_run_advanceTunnel issuer now id s with h | ⟨call, hcall, h⟩ <;> rw [h]
  · exact ⟨.refl id s.board, rfl, fun _ hs => hs⟩
  · have hc := Coordinator.concerns_step issuer now call hcall (s.looked id)
    exact ⟨hc.board, hc.jobs, hc.stranded⟩

theorem concerns_details (issuer : Issuer) (now : Instant) (id : EnvironmentId) :
    Coordinator.Concerns issuer now id (Coordinator.details now id) :=
  .of_ignored (Coordinator.concerns_step issuer now (.details id) rfl)

theorem keeps_agreeBut_get (id : EnvironmentId) : Keeps (AgreeBut id calm s) (Service.get id) := by
  refine (keeps_agreeBut_onRegistry (Registry.keeps_agreeBut_get? id id)).bind (fun e? => ?_)
  cases e? with
  | none => exact keeps_refuse _
  | some e => exact keeps_pure e

/-- A poll of the environment's agent. -/
theorem keeps_agreeBut_poll (ha : id.isAssigned = true) (hi : calm → s.issuer.IssuesAt now) (edgeId : String)
    (agent : Option Agent) (h : AgreeBut id calm s u) (howner : ∀ i, u.registry.owner? edgeId = some i → i = id) :
    AgreeBut id calm s ((Service.poll now edgeId agent).run u).2 := by
  unfold Service.poll
  rw [run_bind_done (run_view _ u)]
  cases ho : u.registry.owner? edgeId with
  | none => exact h
  | some i =>
    cases howner i ho
    refine Keeps.bind (I := AgreeBut id calm s) ?_ (fun e => ?_) u h
    · exact (keeps_agreeBut_onRegistry (Registry.keeps_agreeBut_recordPoll ha now agent)).renamed _
    · refine (keeps_agreeBut_onTunnels hi (concerns_advanceTunnel · now id)).bind (fun _ => ?_)
      refine (keeps_agreeBut_onTunnels hi (concerns_details · now id)).bind (fun d => ?_)
      exact (keeps_view _).bind (fun settings => keeps_pure _)

/-- An event that concerns one environment leaves the others as they are. -/
theorem AgreeBut.step (ha : id.isAssigned = true) (h : AgreeBut id calm s u) {event : Event}
    (hi : calm → s.issuer.IssuesAt now) (hc : event.Concerns id u) : AgreeBut id calm s ((event.step now).run u).2 := by
  have hcall : ∀ call : Coordinator.Call, call.subject? = some id →
      Keeps (AgreeBut id calm s) (withIssuer (fun issuer => call.step issuer now)) :=
    fun call h => keeps_agreeBut_withIssuer hi (fun issuer => Coordinator.concerns_step issuer now call h)
  cases event with
  | create | detachJob | updateSettings | rebuild | restart => exact hc.elim
  | get i =>
    cases hc
    exact (keeps_agreeBut_get id).ignored u h
  | list => exact (keeps_agreeBut_onRegistry (Registry.keeps_agreeBut_list id)).ignored u h
  | update i e =>
    cases hc
    exact (keeps_agreeBut_onRegistry (Registry.keeps_agreeBut_update ha e)).ignored u h
  | delete i =>
    cases hc
    refine (keeps_agreeBut_onRegistry (Registry.keeps_agreeBut_delete id)).bind
      (fun _ => keeps_change (fun v hv => ?_)) u h
    refine ⟨hv.registry, hv.board.trans (.drop v.board id), hv.jobs.forget, hv.issuer, fun hcalm hs => ?_⟩
    exact hv.stranded hcalm (v.board.stranded_of_drop hs)
  | poll edgeId agent =>
    rw [Event.step, snd_run_ignored]
    exact keeps_agreeBut_poll ha hi edgeId agent h hc
  | recordActivity i =>
    cases hc
    refine ((keeps_view _).bind (fun seconds => ?_)).ignored u h
    exact keeps_agreeBut_onTunnels hi
      (fun _ => .of_ignored (Coordinator.concerns_step _ now (.keepAlive id seconds) rfl))
  | requireTunnel i =>
    cases hc
    exact ((hcall (.require id) rfl).bind
      (fun _ => keeps_agreeBut_onTunnels hi (concerns_details · now id))).ignored u h
  | stopTunnel i =>
    cases hc
    exact hcall (.stop id) rfl u h
  | await i =>
    cases hc
    refine ((keeps_agreeBut_get id).bind (fun e => (keeps_view _).bind (fun settings => ?_))).ignored u h
    exact (hcall (.await id) rfl).bind (fun _ => keeps_pure _)
  | attachJob i job =>
    cases hc
    refine keeps_attachJob (fun v hv _ => ?_) u h
    exact ⟨hv.registry, hv.board, hv.jobs.attach job, hv.issuer, hv.stranded⟩
  | acknowledgeJob i job =>
    cases hc
    rw [Event.step, snd_run_ignored]
    exact ⟨h.registry, h.board, h.jobs.acknowledge job, h.issuer, h.stranded⟩
  | coordinate call => exact hcall call hc u h
  | refuseNext method error => exact ⟨h.registry.withStore h.registry.database, h.board, h.jobs, h.issuer, h.stranded⟩

end Service

end EdgeFleet
