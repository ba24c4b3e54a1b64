import EdgeFleet.Proofs.Creation
import EdgeFleet.Proofs.Enrollment
import EdgeFleet.Proofs.Liveness
/-!
# Environments that are given an enrollment key

A record of an edge kind that brings no enrollment key is stored twice: as it is first, since its id is not known
before, and then with the key that names the id. The second time changes the key alone, in the indices nothing and in
the row no other column, so the environment is stored as it would be without a key (`enrolled_of_run`). Every other
record is stored once, with the key that it brings.
-/

namespace EdgeFleet

namespace EnrollmentConfig

/-- What the enrollment key of an environment says. -/
def keyOf (c : EnrollmentConfig) (id : EnvironmentId) : EnrollmentKey := ⟨c.apiUrl, c.tunnelAddress, c.fingerprint, id⟩

/-- Whether none of the texts has a bar, which is what stands between the fields of a key. -/
def Barless (c : EnrollmentConfig) : Prop :=
  '|' ∉ c.apiUrl.toList ∧ '|' ∉ c.tunnelAddress.toList ∧ '|' ∉ c.fingerprint.toList

theorem Barless.decode_text {c : EnrollmentConfig} (h : c.Barless) (id : EnvironmentId) :
    EnrollmentKey.decode (c.keyOf id).text.toList = .ok (c.keyOf id) := by
  apply EnrollmentKey.decode_text
  simp only [EnrollmentKey.texts, keyOf, List.mem_append, not_or]
  exact ⟨⟨h.1, h.2.1⟩, h.2.2⟩

end EnrollmentConfig

namespace EnvironmentTable

theorem withRow_put (t : EnvironmentTable) (id : EnvironmentId) (row row' : EnvironmentRow) :
    (t.put id.number.toInt row).withRow id row' = t.put id.number.toInt row' := by
  unfold withRow put
  rw [Table.insert_insert]

end EnvironmentTable

/-- A record with another enrollment key. -/
def Environment.withKey (e : Environment) (key : String) : Environment := { e with edgeKey := key }

/-- The row of a record with another enrollment key. -/
def EnvironmentRow.withKey (row : EnvironmentRow) (key : String) : EnvironmentRow := { row with edgeKey := key }

namespace Registry

open Attempt

variable {r r' : Registry} {t : EnvironmentTable} {c a : Environment} {g : Gateway} {key : String}

/-! ## Storing a record again -/

theorem max_of_le {c d : Int64} (h : d ≤ c) : max c d = c := by
  rw [Int64.le_iff_toInt_le] at h
  rw [← Int64.toInt_inj, toInt_max]
  omega

theorem heardSince_enterNew (r : Registry) (e : Environment) : (r.enterNew e).HeardSince e.id e.lastCheckIn := by
  obtain ⟨edgeIndex, he⟩ := r.enterNew_eq e
  rw [he]
  exact (r.note e.id).heardSince_seed e.id e.lastCheckIn

/-- A record that was entered is not news to any of the indices. -/
theorem noted_again (r : Registry) (e : Environment) (k : Option String) :
    (((r.enterNew e).rebind e.id k k).note e.id).seed e.id e.lastCheckIn = r.enterNew e := by
  have hrebind : (r.enterNew e).rebind e.id k k = r.enterNew e := if_pos rfl
  rw [hrebind]
  apply ext_indices
  · rfl
  · intro k
    rfl
  · intro i
    obtain ⟨c, hc, hle⟩ := r.heardSince_enterNew e
    have hnoted : ((r.enterNew e).note e.id).heartbeat? e.id = some c := hc
    rw [heartbeat?_seed, hnoted]
    split
    · rename_i hi
      rw [hi, hc]
      exact congrArg some (max_of_le hle)
    · rfl
  · intro i
    change ((r.enterNew e).note e.id).contains i = _
    rw [contains_note, contains_enterNew, ← Bool.or_assoc, Bool.or_self]

/-- A record that was entered just now is stored again with an enrollment key: the row has the key then, and the
indices are what they were. -/
theorem update_withKey (r : Registry) (hg : g.database.environments = some (t.put c.id.number.toInt (.ofEnvironment c)))
    (ha : c.id.isAssigned = true) (hc : t.collides c.id.number.toInt (.ofEnvironment c) = false)
    (hunheard : r.heartbeat? c.id = none)
    (hu : (update c.id (c.withKey key)).run ((r.withStore g).enterNew c) = (.done a, r')) :
    a = c.stored.withKey key ∧
      ∃ g', g'.database =
          g.database.withTable (t.put c.id.number.toInt ((EnvironmentRow.ofEnvironment c).withKey key)) ∧
        r' = (r.withStore g').enterNew c := by
  have hid : c.id = c.id := rfl
  have hbound : (c.withKey key).boundEdgeId? = c.boundEdgeId? := rfl
  have hcollides : (t.put c.id.number.toInt (.ofEnvironment c)).collides c.id.number.toInt
      (.ofEnvironment (c.withKey key)) = false :=
    EnvironmentTable.collides_put hc rfl
  rcases update_entered r hg (t.row?_put c.id _) ha hid hbound hcollides with
    ⟨⟨err, g', -, hrefused⟩, -⟩ | ⟨g', r₂, hg', hr₂, hdone⟩
  · rw [hrefused] at hu
    cases hu
  · rw [hdone] at hu
    obtain ⟨ha, rfl⟩ := Prod.mk.inj hu
    have hr' : r₂ = (r.withStore g').enterNew c := hr₂.trans ((r.withStore g').noted_again c c.boundEdgeId?)
    have hunchanged : r₂.overlay (c.stored.withKey key) = c.stored.withKey key := by
      rw [hr']
      exact overlay_enterNew hunheard rfl rfl
    refine ⟨(Outcome.done.inj ha).symm.trans hunchanged, g', ?_, hr'⟩
    rw [hg', EnvironmentTable.withRow_put]
    rfl

end Registry

namespace Service

open Attempt

variable {s s' s₀ u : Service} {t : EnvironmentTable} {e c r : Environment} {g : Gateway}

/-! ## What keys are written with -/

theorem closed_enrollment (c : EnrollmentConfig) : Closed (fun s => s.enrollment = c) where
  registry _ _ hs := hs
  tunnels _ _ hs := hs
  jobs hs _ := hs
  settings _ hs := hs
  store hs _ := hs

theorem enrollment_of_run {c : EnrollmentConfig} (h₀ : s₀.enrollment = c) {events : List (Instant × Event)}
    (h : Run Event.step (fun _ _ _ => True) s₀ events s) : s.enrollment = c :=
  h.inv (fun s => s.enrollment = c) h₀ (fun s now event hs _ =>
    (closed_enrollment c).step_of_beside (fun _ _ hs => hs) (fun _ hs => hs) (fun hs => hs) now event s hs)

/-! ## Creations -/

/-- Stores a new environment with the enrollment key that it brings, if it brings one. -/
def createPlain (e : Environment) : Step Environment := onRegistry (Registry.create e)

/-- Whether a record is to be given an enrollment key: it is of one of the two edge kinds, and brings none. -/
def Keyless (e : Environment) : Prop :=
  (e.kind = .edgeAgentOnDocker ∨ e.kind = .edgeAgentOnKubernetes) ∧ e.edgeKey = ""

theorem keyless_iff {e : Environment} : Keyless e ↔ e.kind.isEdge = true ∧ e.edgeKey = "" := by
  rw [Keyless, EnvironmentKind.isEdge_iff]

/-- What a plain creation does: a row is put under an id that had none, and the record is entered in the indices. -/
structure Entered (s : Service) (t : EnvironmentTable) (e c : Environment) (g : Gateway) (u : Service) : Prop where
  record : c = { e.normalize with id := c.id }
  assigned : Database.idFor? t e = some c.id.number.toInt
  free : t.holds c.id = false
  apart : t.collides c.id.number.toInt (.ofEnvironment c) = false
  database : g.database = s.registry.store.database.withTable (t.put c.id.number.toInt (.ofEnvironment c))
  service : u = { s with registry := (s.registry.withStore g).enterNew c }

theorem entered_of_createPlain (h : s.registry.Tended t) (hc : (createPlain e).run s = (.done c, u)) :
    ∃ g, Entered s t e c g u := by
  obtain ⟨r, hcreated, rfl⟩ := run_onRegistry_eq_done hc
  have hends := Registry.entering s.registry e
  rw [hcreated] at hends
  cases hends with
  | @entered t' id g hd hid _ hfree hcollides _ hg =>
    cases hd.symm.trans h.table
    have hrow : EnvironmentRow.ofEnvironment { e.normalize with id } = .ofEnvironment e :=
      EnvironmentRow.ofEnvironment_normalize e
    exact ⟨g, rfl, hid, hfree, by rwa [hrow], by rwa [hrow], rfl⟩

theorem Entered.row (h : Entered s t e c g u) : EnvironmentRow.ofEnvironment c = .ofEnvironment e := by
  rw [h.record]
  exact EnvironmentRow.ofEnvironment_normalize e

theorem Entered.boundEdgeId? (h : Entered s t e c g u) : c.boundEdgeId? = e.boundEdgeId? := by
  rw [h.record]
  exact e.boundEdgeId?_normalize

/-- The rows of a service whose registry entered a record over a row. -/
theorem rows_enterNew {n : Int} {row : EnvironmentRow} {d : Database} (c : Environment)
    (hg : g.database = d.withTable (t.put n row)) :
    ({ s with registry := (s.registry.withStore g).enterNew c } : Service).rows = t.rows.insert n row := by
  have htable : ((s.registry.withStore g).enterNew c).store.database.environments = some (t.put n row) := by
    rw [Registry.store_enterNew]
    change g.database.environments = _
    rw [hg]
    rfl
  exact rows_of_environments (s := { s with registry := (s.registry.withStore g).enterNew c }) htable

/-- Over another store the indices are the same. -/
theorem withStore_enterNew (s : Service) (c : Environment) (g g' : Gateway) :
    ({ s with registry := (s.registry.withStore g).enterNew c } : Service).withStore g' =
      { s with registry := (s.registry.withStore g').enterNew c } :=
  congrArg (fun r => ({ s with registry := r } : Service)) (s.registry.enterNew_withStore c g g')

/-- What a creation that gives an enrollment key answers and leaves. -/
structure Enrolled (s : Service) (e r : Environment) (s' : Service) : Prop where
  /-- The id is the one that the record brings, or else the next. -/
  assigned : ∃ t, s.registry.store.database.environments = some t ∧ Database.idFor? t e = some r.id.number.toInt
  key : r.edgeKey = s.keyFor r.id
  asked : (enrollmentKey r.id).run s' = (.done r.edgeKey, s')
  read : s.enrollment.Barless → ∀ u, (readEnrollmentKey r.edgeKey).run u = (.done (s.enrollment.keyOf r.id), u)
  row : s'.rows.get? r.id.number.toInt = some ((EnvironmentRow.ofEnvironment e).withKey r.edgeKey)
  owner : ∀ k, e.boundEdgeId? = some k → s'.registry.owner? k = some r.id
  /-- But for the key, the record is the one that a plain creation answers, in the form in which it is stored, and
  all that is left is what that creation leaves. -/
  plain : ∃ c u, (createPlain e).run s = (.done c, u) ∧ r = c.stored.withKey r.edgeKey ∧
    u.rows.get? r.id.number.toInt = some (.ofEnvironment e) ∧
    (∀ n, n ≠ r.id.number.toInt → s'.rows.get? n = u.rows.get? n) ∧ s'.withStore u.registry.store = u
  reported : s'.Reports r

theorem enrolled (h : s.registry.Tended t) (hkeyless : Keyless e) (hc : (create e).run s = (.done r, s')) :
    Enrolled s e r s' := by
  obtain ⟨hreports, hstored⟩ := reports_create h hc
  rw [keyless_iff] at hkeyless
  rw [hstored.2 (.inl hkeyless)] at hreports
  unfold create at hc
  obtain ⟨c, u, hplain, hrest⟩ := run_bind_eq_done hc
  obtain ⟨g, hentered⟩ := entered_of_createPlain h hplain
  have hkind : c.kind.isEdge = true ∧ c.edgeKey = "" := by
    rw [hentered.record]
    exact hkeyless
  rw [if_pos hkind, run_bind_done (run_view _ _)] at hrest
  obtain ⟨r', hkeyed, rfl⟩ := run_onRegistry_eq_done hrest
  obtain rfl := hentered.service
  obtain ⟨rfl, g', hg', rfl⟩ := Registry.update_withKey s.registry (by rw [hentered.database]; rfl)
    (Database.isAssigned_of_idFor? hentered.assigned h.written.sequence) hentered.apart (h.unheard hentered.free) hkeyed
  rw [hentered.database] at hg'
  have hrows := rows_enterNew (s := s) c hentered.database
  have hrows' := rows_enterNew (s := s) c hg'
  refine ⟨⟨t, h.table, hentered.assigned⟩, rfl, ?_, fun hbarless u => ?_, ?_, fun k hk => ?_, ?_, hreports⟩
  · have hknown : ((s.registry.withStore g').enterNew c).contains c.id = true := by
      rw [Registry.contains_enterNew, decide_eq_true rfl, Bool.true_or]
    have hensured := run_ensureKnown c.id { s with registry := (s.registry.withStore g').enterNew c }
    rw [if_pos hknown] at hensured
    exact run_bind_done hensured
  · change (ofExcept ((EnrollmentKey.decode (s.enrollment.keyOf c.id).text.toList).mapError _)).run u = _
    rw [hbarless.decode_text]
    rfl
  · have hrow := (congrArg (·.get? c.id.number.toInt) hrows').trans (Table.get?_insert_self _ _ _)
    rwa [hentered.row] at hrow
  · exact (Registry.owner?_enterNew _ c k).trans (if_pos (hentered.boundEdgeId?.trans hk))
  · refine ⟨c, _, hplain, rfl, ?_, fun n hn => ?_, ?_⟩
    · rw [hrows, hentered.row]
      exact Table.get?_insert_self _ _ _
    · have hne : n ≠ c.id.number.toInt := hn
      rw [hrows, Table.get?_insert_of_ne _ _ hne]
      exact (congrArg (·.get? n) hrows').trans (Table.get?_insert_of_ne _ _ hne)
    · have hstore : ((s.registry.withStore g).enterNew c).store = g := Registry.store_enterNew _ c
      change Service.withStore _ ((s.registry.withStore g).enterNew c).store = _
      rw [hstore]
      exact s.withStore_enterNew c g' g

/-- Any other record is stored with the enrollment key that it brings. -/
theorem created_plain (h : s.registry.Tended t) (hkeyed : ¬ Keyless e) (hc : (create e).run s = (.done r, s')) :
    (createPlain e).run s = (.done r, s') ∧ r.edgeKey = e.edgeKey ∧
      s'.rows.get? r.id.number.toInt = some (.ofEnvironment e) := by
  unfold create at hc
  obtain ⟨c, u, hplain, hrest⟩ := run_bind_eq_done hc
  obtain ⟨g, hentered⟩ := entered_of_createPlain h hplain
  have hkind : ¬ (c.kind.isEdge = true ∧ c.edgeKey = "") := by
    rw [hentered.record]
    exact fun h => hkeyed (keyless_iff.2 h)
  rw [if_neg hkind] at hrest
  cases hrest
  have hrows := rows_enterNew (s := s) r hentered.database
  refine ⟨hplain, by rw [hentered.record]; rfl, ?_⟩
  obtain rfl := hentered.service
  rw [hrows, hentered.row]
  exact Table.get?_insert_self _ _ _

/-- From any start over a database whose environments were written for records, in every run of events, refused or cut
off as they may be, the texts that keys are written with stay what they were. A creation that is done has given the
record of an edge kind without an enrollment key the one that names its id, which is read back as that where no text
has a bar, and has changed nothing else of what a plain creation leaves. Every other creation is a plain one. -/
theorem enrolled_of_run {store : Gateway} {range : PortRange} {keepAlive : Nat} {issuer : Issuer}
    {enrollment : EnrollmentConfig} (hd : store.database.Written)
    (hstart : start.run (assemble (.blank store) range keepAlive issuer enrollment) = (.done (), s₀))
    {events : List (Instant × Event)} (h : Run Event.step (fun _ _ _ => True) s₀ events s)
    (hc : (create e).run s = (.done r, s')) :
    s.enrollment = enrollment ∧ (Keyless e → Enrolled s e r s') ∧
      (¬ Keyless e → (createPlain e).run s = (.done r, s') ∧ r.edgeKey = e.edgeKey ∧
        s'.rows.get? r.id.number.toInt = some (.ofEnvironment e)) := by
  obtain ⟨t, ht⟩ := tended_of_run hd hstart h
  refine ⟨enrollment_of_run ?_ h, fun hkeyless => enrolled ht hkeyless hc, fun hkeyed => created_plain ht hkeyed hc⟩
  have hfirst : Keeps (fun u => u.enrollment = enrollment) start :=
    (closed_enrollment enrollment).toCoreClosed.start (fun _ _ hs => hs)
  have hkept := hfirst (assemble (.blank store) range keepAlive issuer enrollment) rfl
  rwa [hstart] at hkept

/-- An environment that gets the next id is given the key of that id, and one with its own key keeps it. -/
theorem enrolled_of_next_id : ∃ s s' s'' r r',
    Run Event.step (fun _ _ _ => True) (overFresh Coordinator.hourly) [(.ofSeconds 10, .create (edge ⟨7⟩ "A"))] s ∧
    (create (edge ⟨0⟩ "B")).run s = (.done r, s') ∧ r.id = ⟨8⟩ ∧
    (readEnrollmentKey r.edgeKey).run s' = (.done ⟨"api", "tunnel", "key", ⟨8⟩⟩, s') ∧
    s'.registry.owner? "B" = some ⟨8⟩ ∧ s'.Reports r ∧
    (create { edge ⟨0⟩ "C" with edgeKey := "own" }).run s = (.done r', s'') ∧ r'.edgeKey = "own" := by
  obtain ⟨s, s', s'', r, r', hrun, hcreate, hid, hown⟩ : ∃ s s' s'' r r',
      Run Event.step (fun _ _ _ => True) (overFresh Coordinator.hourly) [(.ofSeconds 10, .create (edge ⟨7⟩ "A"))] s ∧
      (create (edge ⟨0⟩ "B")).run s = (.done r, s') ∧ r.id = ⟨8⟩ ∧
      (create { edge ⟨0⟩ "C" with edgeKey := "own" }).run s = (.done r', s'') :=
    ⟨_, _, _, { edge ⟨8⟩ "B" with edgeKey := (overFresh Coordinator.hourly).keyFor ⟨8⟩ },
      { edge ⟨8⟩ "C" with edgeKey := "own" }, Run.nil.snoc _ _ trivial, Prod.ext (by decide +kernel) rfl, rfl,
      Prod.ext (by decide +kernel) rfl⟩
  have hstart : start.run (overFresh Coordinator.hourly) = (.done (), overFresh Coordinator.hourly) := by decide +kernel
  have hfresh : (Gateway.clear .fresh).database.Written := ⟨.empty, rfl, EnvironmentTable.sound_empty.written⟩
  obtain ⟨hconfig, henrolled, -⟩ := enrolled_of_run hfresh hstart hrun hcreate
  obtain ⟨-, -, hplain⟩ := enrolled_of_run hfresh hstart hrun hown
  have hread := (henrolled ⟨.inl rfl, rfl⟩).read
  rw [hconfig, hid] at hread
  have howner := (henrolled ⟨.inl rfl, rfl⟩).owner "B" rfl
  rw [hid] at howner
  obtain ⟨-, hkey, -⟩ := hplain (fun hkeyless => absurd hkeyless.2 (by decide))
  exact ⟨s, s', s'', r, r', hrun, hcreate, hid, hread ⟨by decide, by decide, by decide⟩ s', howner,
    (henrolled ⟨.inl rfl, rfl⟩).reported, hown, hkey⟩

end Service

end EdgeFleet
