import EdgeFleet.Table
import Mathlib.Data.List.Induction
import Mathlib.Data.List.Nodup
/-!
# Laws of tables

What every write does to every look-up, with keys compared by equality, the sizes of tables, two of
which with the same keys have the same size, and the tables of lists, whose order does not matter where
no key comes twice.
-/

namespace EdgeFleet.Table

variable {κ α β : Type} [Ord κ]

/-! ## Look-ups -/

theorem lookup_map (f : κ → α → β) (k : κ) [Std.LawfulEqOrd κ] (l : List (κ × α)) :
    lookup k (l.map (fun e => (e.1, f e.1 e.2))) = (lookup k l).map (f k) := by
  induction l with
  | nil => rfl
  | cons q r ih =>
    simp only [List.map_cons, lookup]
    split
    · rename_i h
      rw [Std.LawfulEqCmp.eq_of_compare h]; rfl
    · exact ih

theorem get?_mapValues [Std.LawfulEqOrd κ] (t : Table κ α) (f : κ → α → β) (k : κ) :
    (t.mapValues f).get? k = (t.get? k).map (f k) :=
  lookup_map f k t.entries

/-- A filtered table has the entries that pass. -/
theorem get?_filter [Std.LawfulEqOrd κ] (t : Table κ α) (p : κ → α → Bool) (k : κ) :
    (t.filter p).get? k = (t.get? k).filter (p k) := by
  refine Option.ext (fun v => ?_)
  rw [← mem_entries_iff, Option.filter_eq_some_iff, ← mem_entries_iff]
  simp [filter, List.mem_filter]

variable [Std.TransOrd κ] [Std.LawfulEqOrd κ]

theorem get?_insert_eq [DecidableEq κ] (t : Table κ α) (k k' : κ) (v : α) :
    (t.insert k' v).get? k = if k = k' then some v else t.get? k := by
  split
  · rename_i h; rw [h, get?_insert_self]
  · rename_i h; exact get?_insert_of_ne t v h

omit [Std.TransOrd κ] in
theorem get?_erase_eq [DecidableEq κ] (t : Table κ α) (k k' : κ) :
    (t.erase k').get? k = if k = k' then none else t.get? k := by
  split
  · rename_i h; rw [h, get?_erase_self]
  · rename_i h; exact get?_erase_of_ne t h

/-- Writing what is there changes nothing. -/
theorem insert_of_get? {t : Table κ α} {k : κ} {v : α} (h : t.get? k = some v) : t.insert k v = t := by
  refine ext_get? (fun k' => ?_)
  rw [get?_insert]
  split
  · rename_i hc; rw [Std.LawfulEqCmp.eq_of_compare hc, h]
  · rfl

/-- Of two values that are put under a key the later one counts. -/
theorem insert_insert (t : Table κ α) (k : κ) (v v' : α) : (t.insert k v).insert k v' = t.insert k v' := by
  apply ext_get?
  intro k'
  simp only [get?_insert]
  split <;> rfl

/-- What was put under a key is gone once the key is erased. -/
theorem erase_insert (t : Table κ α) (k : κ) (v : α) : (t.insert k v).erase k = t.erase k := by
  apply ext_get?
  intro k'
  rw [get?_erase, get?_erase]
  split
  · rfl
  · rename_i hc
    have hne : k' ≠ k := fun h => hc (h ▸ Std.ReflCmp.compare_self)
    exact get?_insert_of_ne t v hne

/-! ## Keys -/

omit [Std.TransOrd κ] [Std.LawfulEqOrd κ] in
theorem contains_iff {t : Table κ α} {k : κ} : t.contains k = true ↔ ∃ v, t.get? k = some v :=
  Option.isSome_iff_exists

omit [Std.TransOrd κ] [Std.LawfulEqOrd κ] in
theorem contains_eq_false_iff {t : Table κ α} {k : κ} : t.contains k = false ↔ t.get? k = none := by
  simp [contains]

theorem contains_insert [DecidableEq κ] (t : Table κ α) (k k' : κ) (v : α) :
    (t.insert k' v).contains k = (decide (k = k') || t.contains k) := by
  simp only [contains, get?_insert_eq]
  split <;> simp [*]

omit [Std.TransOrd κ] in
theorem contains_erase [DecidableEq κ] (t : Table κ α) (k k' : κ) :
    (t.erase k').contains k = (!decide (k = k') && t.contains k) := by
  simp only [contains, get?_erase_eq]
  split <;> simp [*]

omit [Std.TransOrd κ] in
theorem mem_keys_iff {t : Table κ α} {k : κ} : k ∈ t.keys ↔ t.contains k = true := by
  simp only [keys, List.mem_map, contains_iff, ← mem_entries_iff]
  constructor
  · rintro ⟨⟨k', v⟩, hm, rfl⟩; exact ⟨v, hm⟩
  · rintro ⟨v, hm⟩; exact ⟨(k, v), hm, rfl⟩

omit [Std.LawfulEqOrd κ] in
theorem nodup_keys (t : Table κ α) : t.keys.Nodup := by
  refine List.pairwise_map.2 (t.ascending.imp (fun {a b} hab e => ?_))
  rw [e] at hab
  simp [Std.ReflOrd.compare_self] at hab

/-- Tables of keys alone are equal where their keys are. -/
theorem ext_contains {t t' : Table κ Unit} (h : ∀ k, t.contains k = t'.contains k) : t = t' := by
  refine ext_get? (fun k => ?_)
  have hk := h k
  unfold contains at hk
  cases ht : t.get? k <;> cases ht' : t'.get? k <;> simp_all

/-- Two tables with the same keys have the same size. -/
theorem size_eq_of_contains {t : Table κ α} {t' : Table κ β} (h : ∀ k, t.contains k = t'.contains k) :
    t.size = t'.size := by
  have e : t.mapValues (fun _ _ => ()) = t'.mapValues (fun _ _ => ()) := by
    refine ext_contains (fun k => ?_)
    simpa [contains, get?_mapValues] using h k
  have := congrArg size e
  simpa [size, mapValues] using this

/-! ## Tables of lists -/

theorem ofList_concat (l : List (κ × α)) (e : κ × α) : ofList (l ++ [e]) = (ofList l).insert e.1 e.2 := by
  unfold ofList
  rw [List.foldl_append]
  rfl

/-- Of pairs with different keys none is lost. -/
theorem get?_ofList {l : List (κ × α)} (h : (l.map (·.1)).Nodup) (k : κ) (v : α) :
    (ofList l).get? k = some v ↔ (k, v) ∈ l := by
  -- A later pair wins over an earlier one, so the list is taken apart from its end.
  induction l using List.reverseRecOn with
  | nil => simp [ofList, empty, get?, lookup]
  | append_singleton l e ih =>
    obtain ⟨k', v'⟩ := e
    rw [List.map_append, List.nodup_append] at h
    obtain ⟨hl, -, hne⟩ := h
    rw [ofList_concat, get?_insert, List.mem_append, List.mem_singleton, Prod.mk.injEq]
    split
    · rename_i hc
      obtain rfl : k = k' := Std.LawfulEqCmp.eq_of_compare hc
      have hnot : (k, v) ∉ l := fun hm => hne k (List.mem_map_of_mem hm) k (List.mem_singleton_self k) rfl
      simp only [hnot, false_or, true_and, Option.some.injEq, eq_comm]
    · rename_i hc
      have hk : k ≠ k' := fun hk => hc (hk ▸ Std.ReflCmp.compare_self)
      rw [ih hl]
      simp only [hk, false_and, or_false]

/-- A table is made of its entries in any order. -/
theorem ofList_of_perm {t : Table κ α} {l : List (κ × α)} (h : l.Perm t.entries) : ofList l = t := by
  have hkeys : (l.map (·.1)).Nodup := (h.map _).nodup_iff.2 t.nodup_keys
  refine ext_get? (fun k => Option.ext (fun v => ?_))
  rw [get?_ofList hkeys, h.mem_iff, mem_entries_iff]

end EdgeFleet.Table
