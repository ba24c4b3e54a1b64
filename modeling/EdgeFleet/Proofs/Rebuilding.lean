import Mathlib.Order.Bounds.Defs
import EdgeFleet.Proofs.Failures
import EdgeFleet.Proofs.Liveness
/-!
# Indices that are built anew

Each index is treated in its own way when all are built anew from a list of records. Whom the edge ids belong to and
who is known is told by the list alone; the contacts that the list tells of are merged into those that were known
before. Nothing is asked of the list: its records may share ids and edge ids, and come in any order. Indices that were
built from a list are the ones that it is built to again (`reindex_reindex`).
-/

namespace EdgeFleet

theorem Environment.boundEdgeId?_eq_some_iff {e : Environment} {k : String} :
    e.boundEdgeId? = some k ↔ e.edgeId = some k ∧ k ≠ "" := by
  simp [boundEdgeId?, Option.filter_eq_some_iff]

namespace Registry

variable {r r' : Registry} {es : List Environment} {e : Environment} {id i : EnvironmentId} {c stored : Int64}

/-! ## Edge ids -/

theorem owner?_reindex_of_ne (r : Registry) (es : List Environment) {k : String} (hk : k ≠ "") :
    (r.reindex es).owner? k = (es.find? (fun e => e.edgeId = some k)).map (·.id) := by
  rw [owner?_reindex]
  simp only [Environment.boundEdgeId?_eq_some_iff, hk, not_false_eq_true, and_true, ne_eq]

/-- The empty edge id is none. -/
theorem owner?_reindex_empty (r : Registry) (es : List Environment) : (r.reindex es).owner? "" = none := by
  have hnobody : es.find? (fun e => e.boundEdgeId? = some "") = none := by
    rw [List.find?_eq_none]
    intro e _
    simp [Environment.boundEdgeId?_eq_some_iff]
  rw [owner?_reindex, hnobody]
  rfl

/-! ## Contacts -/

/-- Whether a contact with an environment was known of, or is told of by one of the records. -/
def Tells (r : Registry) (es : List Environment) (id : EnvironmentId) (c : Int64) : Prop :=
  r.heartbeat? id = some c ∨ ∃ e ∈ es, e.id = id ∧ e.lastCheckIn = c

theorem heartbeat?_enter (r : Registry) (e : Environment) (i : EnvironmentId) :
    (r.enter e).heartbeat? i = (r.seed e.id e.lastCheckIn).heartbeat? i := by
  obtain ⟨edgeIndex, he⟩ := r.enter_eq e
  rw [he]
  rfl

theorem max_eq_or (c d : Int64) : max c d = c ∨ max c d = d := by
  change (if c ≤ d then d else c) = c ∨ (if c ≤ d then d else c) = d
  split
  · exact .inr rfl
  · exact .inl rfl

/-- A merge makes up no contact. -/
theorem of_heartbeat?_seed (h : (r.seed id stored).heartbeat? i = some c) :
    r.heartbeat? i = some c ∨ id = i ∧ stored = c := by
  rw [heartbeat?_seed] at h
  split at h
  · rename_i hi
    subst hi
    cases hcached : r.heartbeat? i with
    | none =>
      rw [hcached] at h
      exact .inr ⟨rfl, Option.some.inj h⟩
    | some cached =>
      rw [hcached] at h
      dsimp only at h
      rcases max_eq_or cached stored with hmax | hmax
      · rw [hmax] at h
        exact .inl h
      · rw [hmax] at h
        exact .inr ⟨rfl, Option.some.inj h⟩
  · exact .inl h

theorem tells_of_reindex (h : (r.reindex es).heartbeat? i = some c) : r.Tells es i c := by
  have hcleared : ∀ c, ({ r with edgeIndex := ∅, known := ∅ } : Registry).heartbeat? i = some c → r.Tells es i c :=
    fun _ => .inl
  have hall : ∀ c, (r.reindex es).heartbeat? i = some c → r.Tells es i c := by
    refine List.foldlRecOn (motive := fun r' => ∀ c, r'.heartbeat? i = some c → r.Tells es i c) es enter hcleared
      (fun r' ih e he c hc => ?_)
    rw [heartbeat?_enter] at hc
    rcases of_heartbeat?_seed hc with hc | ⟨hid, hc⟩
    · exact ih c hc
    · exact .inr ⟨e, he, hid, hc⟩
  exact hall c h

theorem le_of_tells (h : (r.reindex es).heartbeat? i = some c) {d : Int64} (hd : r.Tells es i d) : d ≤ c := by
  have hsince : (r.reindex es).HeardSince i d := by
    rcases hd with hd | ⟨e, he, rfl, rfl⟩
    · exact HeardSince.reindex ⟨d, hd, Int64.le_rfl⟩ es
    · exact r.heardSince_reindex he
  obtain ⟨c', hc', hle⟩ := hsince
  rw [h] at hc'
  cases hc'
  exact hle

/-- The contact that is known then is the last one that was known of or is told of. -/
theorem isGreatest_of_reindex (h : (r.reindex es).heartbeat? i = some c) : IsGreatest {c | r.Tells es i c} c :=
  ⟨tells_of_reindex h, fun _ hd => le_of_tells h hd⟩

theorem exists_heartbeat?_reindex (r : Registry) (he : e ∈ es) : ∃ c, (r.reindex es).heartbeat? e.id = some c :=
  Option.isSome_iff_exists.1 ((r.isSome_heartbeat?_reindex es e.id).2 (.inr ⟨e, he, rfl⟩))

theorem heartbeat?_reindex_of_not_listed (r : Registry) (h : ∀ e ∈ es, e.id ≠ i) :
    (r.reindex es).heartbeat? i = r.heartbeat? i := by
  have hcleared : ({ r with edgeIndex := ∅, known := ∅ } : Registry).heartbeat? i = r.heartbeat? i := rfl
  refine List.foldlRecOn (motive := fun r' => r'.heartbeat? i = r.heartbeat? i) es enter hcleared (fun r' ih e he => ?_)
  rw [heartbeat?_enter, heartbeat?_seed, if_neg (Ne.symm (h e he)), ih]

/-- A list that was merged tells of nothing later. -/
theorem heartbeat?_reindex_reindex (r : Registry) (es : List Environment) (i : EnvironmentId) :
    ((r.reindex es).reindex es).heartbeat? i = (r.reindex es).heartbeat? i := by
  by_cases hlisted : ∃ e ∈ es, e.id = i
  · obtain ⟨e, he, rfl⟩ := hlisted
    obtain ⟨c, hc⟩ := r.exists_heartbeat?_reindex he
    obtain ⟨d, hd⟩ := (r.reindex es).exists_heartbeat?_reindex he
    have hcd : c ≤ d := le_of_tells hd (.inl hc)
    have hdc : d ≤ c := by
      rcases tells_of_reindex hd with hsame | htold
      · rw [hc] at hsame
        cases hsame
        exact Int64.le_rfl
      · exact le_of_tells hc (.inr htold)
    rw [hc, hd, Int64.le_antisymm hcd hdc]
  · exact heartbeat?_reindex_of_not_listed _ (fun e he hid => hlisted ⟨e, he, hid⟩)

theorem reindex_reindex (r : Registry) (es : List Environment) : (r.reindex es).reindex es = r.reindex es := by
  apply ext_indices
  · exact store_reindex _ es
  · intro k
    rw [owner?_reindex, owner?_reindex]
  · exact r.heartbeat?_reindex_reindex es
  · intro i
    rw [Bool.eq_iff_iff, contains_reindex, contains_reindex]

/-! ## Building them from a scan -/

/-- What the indices become when they are built anew from a list of records. -/
structure Rebuilt (es : List Environment) (r r' : Registry) : Prop where
  /-- An edge id belongs to the first record that names it. -/
  owner : ∀ k, k ≠ "" → r'.owner? k = (es.find? (fun e => e.edgeId = some k)).map (·.id)
  nobody : r'.owner? "" = none
  known : ∀ id, r'.contains id = true ↔ ∃ e ∈ es, e.id = id
  heard : ∀ e ∈ es, ∃ c, r'.heartbeat? e.id = some c ∧ IsGreatest {c | r.Tells es e.id c} c
  others : ∀ id, (∀ e ∈ es, e.id ≠ id) → r'.heartbeat? id = r.heartbeat? id

theorem rebuilt_reindex (r : Registry) (es : List Environment) : Rebuilt es r (r.reindex es) where
  owner _ hk := r.owner?_reindex_of_ne es hk
  nobody := r.owner?_reindex_empty es
  known := r.contains_reindex es
  heard _ he := by
    obtain ⟨c, hc⟩ := r.exists_heartbeat?_reindex he
    exact ⟨c, hc, isGreatest_of_reindex hc⟩
  others _ h := r.heartbeat?_reindex_of_not_listed h

end Registry

namespace Hosted

open Attempt

variable {σ : Type} {S : EnvironmentStore σ} {h : Hosted σ} {es : List Environment} {s : σ}

theorem run_rebuild (hscan : S.all.run h.store = (.done es, s)) :
    (rebuild S).run h = (.done (), ⟨h.indices.reindex es, s⟩) := by
  have hall : (onStoreAs .storeUnavailable S.all).run h = (.done es, ⟨h.indices, s⟩) := by
    unfold onStoreAs
    rw [run_within, hscan]
    rfl
  unfold rebuild
  rw [run_bind_done hall]
  rfl

/-- From any state of the indices, and over any store, the indices are built to what the list says that a scan
answers; built again from a scan with the same answer they stay as they are. The registry does this over its gateway. -/
theorem rebuilt_of_scan (hscan : S.all.run h.store = (.done es, s)) :
    (∃ r', (rebuild S).run h = (.done (), ⟨r', s⟩) ∧ Registry.Rebuilt es h.indices r' ∧
      ∀ s', S.all.run s = (.done es, s') → (rebuild S).run ⟨r', s⟩ = (.done (), ⟨r', s'⟩)) ∧
    hosted Registry.rebuild = rebuild .gateway := by
  refine ⟨⟨_, run_rebuild hscan, h.indices.rebuilt_reindex es, fun s' hagain => ?_⟩, hosted_rebuild⟩
  rw [run_rebuild (h := ⟨h.indices.reindex es, s⟩) hagain, Registry.reindex_reindex]

/-- Two records with the same edge id, two with the same id, and one with an empty edge id. -/
theorem rebuilt_of_odd_list : ∃ (S : EnvironmentStore Unit) (r r' : Registry) (es : List Environment),
    S.all.run () = (.done es, ()) ∧ es.map (fun e => (e.id, e.edgeId)) =
      [(⟨1⟩, some "A"), (⟨2⟩, some "A"), (⟨3⟩, some ""), (⟨1⟩, some "B")] ∧
    r.owner? "Z" = some ⟨9⟩ ∧ r.heartbeat? ⟨1⟩ = some 15 ∧
    (rebuild S).run ⟨r, ()⟩ = (.done (), ⟨r', ()⟩) ∧ (rebuild S).run ⟨r', ()⟩ = (.done (), ⟨r', ()⟩) ∧
    r'.owner? "A" = some ⟨1⟩ ∧ r'.owner? "B" = some ⟨1⟩ ∧ r'.owner? "" = none ∧ r'.owner? "Z" = none ∧
    r'.contains ⟨3⟩ = true ∧ r'.contains ⟨9⟩ = false ∧ r'.heartbeat? ⟨9⟩ = some 0 ∧
    ∃ c, r'.heartbeat? ⟨1⟩ = some c ∧ 20 ≤ c := by
  let es : List Environment := [{ Service.edge ⟨1⟩ "A" with lastCheckIn := 10 }, Service.edge ⟨2⟩ "A",
    Service.edge ⟨3⟩ "", { Service.edge ⟨1⟩ "B" with lastCheckIn := 20 }]
  let S : EnvironmentStore Unit := ⟨fun _ => .answer none, .answer, .answer, fun _ => .answer (), .answer es⟩
  let r : Registry := ((Registry.blank (.clear .fresh)).enterNew (Service.edge ⟨9⟩ "Z")).seed ⟨1⟩ 15
  have hscan : S.all.run () = (.done es, ()) := rfl
  obtain ⟨⟨r', hrun, hbuilt, hagain⟩, -⟩ := rebuilt_of_scan (h := ⟨r, ()⟩) hscan
  obtain ⟨c, hc, hgreatest⟩ := hbuilt.heard { Service.edge ⟨1⟩ "B" with lastCheckIn := 20 } (by simp [es])
  refine ⟨S, r, r', es, hscan, rfl, by decide, by decide, hrun, hagain () hscan, ?_, ?_, hbuilt.nobody, ?_, ?_, ?_, ?_,
    c, hc, ?_⟩
  · exact (hbuilt.owner "A" (by decide)).trans (by decide)
  · exact (hbuilt.owner "B" (by decide)).trans (by decide)
  · exact (hbuilt.owner "Z" (by decide)).trans (by decide)
  · exact (hbuilt.known ⟨3⟩).2 (by simp [es, Service.edge])
  · rw [← Bool.not_eq_true, hbuilt.known]
    simp [es, Service.edge]
  · exact (hbuilt.others ⟨9⟩ (by simp [es, Service.edge])).trans (by decide)
  · exact hgreatest.2 (.inr ⟨_, by simp [es], rfl, rfl⟩)

end Hosted

end EdgeFleet
