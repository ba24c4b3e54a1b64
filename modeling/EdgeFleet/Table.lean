/-!
# Finite tables

A `Table κ α` maps finitely many keys to values. It is kept as a list of pairs in strictly
ascending key order, so a table has one representation: two tables that answer every look-up
alike are equal (`Table.ext_get?`), and the order in which entries are listed is the order of
the keys. `get?_insert` and `get?_erase` say what the two writes do to every look-up.
-/

namespace EdgeFleet

/-- A finite map, listed in strictly ascending key order. -/
structure Table (κ α : Type) [Ord κ] where
  entries : List (κ × α)
  ascending : entries.Pairwise (fun a b => compare a.1 b.1 = .lt)

namespace Table

variable {κ α β : Type} [Ord κ]

instance [DecidableEq κ] [DecidableEq α] : DecidableEq (Table κ α) := fun a b =>
  decidable_of_iff (a.entries = b.entries) ⟨fun h => by cases a; cases b; simp_all, fun h => h ▸ rfl⟩

instance [Repr κ] [Repr α] : Repr (Table κ α) := ⟨fun t n => reprPrec t.entries n⟩

def empty : Table κ α := ⟨[], .nil⟩

instance : EmptyCollection (Table κ α) := ⟨empty⟩
instance : Inhabited (Table κ α) := ⟨empty⟩

/-- The value under a key in a list of pairs. -/
def lookup (k : κ) : List (κ × α) → Option α
  | [] => none
  | (k', v) :: r => if compare k k' = .eq then some v else lookup k r

/-- The value under a key. -/
def get? (t : Table κ α) (k : κ) : Option α := lookup k t.entries

/-- Whether the table has an entry under a key. -/
def contains (t : Table κ α) (k : κ) : Bool := (t.get? k).isSome

def size (t : Table κ α) : Nat := t.entries.length

/-- The keys in ascending order. -/
def keys (t : Table κ α) : List κ := t.entries.map (·.1)

/-- The values, in the order of their keys. -/
def values (t : Table κ α) : List α := t.entries.map (·.2)

/-- Puts a pair where its key belongs, replacing an entry with that key. -/
def place (k : κ) (v : α) : List (κ × α) → List (κ × α)
  | [] => [(k, v)]
  | (k', v') :: r =>
    match compare k k' with
    | .lt => (k, v) :: (k', v') :: r
    | .eq => (k, v) :: r
    | .gt => (k', v') :: place k v r

theorem mem_place {k : κ} {v : α} {l : List (κ × α)} {p : κ × α} (h : p ∈ place k v l) :
    p = (k, v) ∨ p ∈ l := by
  induction l with
  | nil => simpa [place] using h
  | cons q r ih =>
    simp only [place] at h
    split at h
    · simpa using h
    · simp only [List.mem_cons] at h ⊢
      exact h.imp id .inr
    · simp only [List.mem_cons] at h ⊢
      rcases h with rfl | h
      · exact .inr (.inl rfl)
      · exact (ih h).imp id .inr

variable [Std.TransOrd κ] [Std.LawfulEqOrd κ]

theorem pairwise_place (k : κ) (v : α) {l : List (κ × α)}
    (h : l.Pairwise (fun a b => compare a.1 b.1 = .lt)) :
    (place k v l).Pairwise (fun a b => compare a.1 b.1 = .lt) := by
  induction l with
  | nil => simp [place]
  | cons q r ih =>
    obtain ⟨hq, hr⟩ := List.pairwise_cons.1 h
    simp only [place]
    split
    · rename_i hlt
      refine List.pairwise_cons.2 ⟨?_, h⟩
      intro p hp
      rcases List.mem_cons.1 hp with rfl | hp
      · exact hlt
      · exact Std.TransCmp.lt_trans hlt (hq p hp)
    · rename_i heq
      have hk : k = q.1 := Std.LawfulEqCmp.eq_of_compare heq
      subst hk
      exact List.pairwise_cons.2 ⟨hq, hr⟩
    · rename_i hgt
      refine List.pairwise_cons.2 ⟨?_, ih hr⟩
      intro p hp
      rcases mem_place hp with rfl | hp
      · exact Std.OrientedCmp.gt_iff_lt.1 hgt
      · exact hq p hp

/-- The table with a value under a key, replacing what was there. -/
def insert (t : Table κ α) (k : κ) (v : α) : Table κ α :=
  ⟨place k v t.entries, pairwise_place k v t.ascending⟩

omit [Std.TransOrd κ] [Std.LawfulEqOrd κ] in
/-- The entries that satisfy a test. -/
def filter (t : Table κ α) (p : κ → α → Bool) : Table κ α :=
  ⟨t.entries.filter (fun e => p e.1 e.2), t.ascending.filter _⟩

omit [Std.TransOrd κ] [Std.LawfulEqOrd κ] in
/-- The table without an entry under a key. -/
def erase (t : Table κ α) (k : κ) : Table κ α := t.filter (fun k' _ => compare k k' != .eq)

omit [Std.TransOrd κ] [Std.LawfulEqOrd κ] in
/-- Every value replaced by its image. -/
def mapValues (t : Table κ α) (f : κ → α → β) : Table κ β :=
  ⟨t.entries.map (fun e => (e.1, f e.1 e.2)), List.pairwise_map.2 t.ascending⟩

/-- The table of a list of pairs, the last of two with one key winning. -/
def ofList (l : List (κ × α)) : Table κ α := l.foldl (fun t e => t.insert e.1 e.2) empty

/-! ## Look-ups -/

omit [Std.TransOrd κ] [Std.LawfulEqOrd κ] in
@[simp] theorem get?_empty (k : κ) : (∅ : Table κ α).get? k = none := rfl

theorem lookup_place (k k' : κ) (v : α) (l : List (κ × α)) :
    lookup k (place k' v l) = if compare k k' = .eq then some v else lookup k l := by
  induction l with
  | nil => simp [place, lookup]
  | cons q r ih =>
    simp only [place]
    split
    · simp [lookup]
    · rename_i heq
      have hk : k' = q.1 := Std.LawfulEqCmp.eq_of_compare heq
      subst hk
      simp only [lookup]
      split <;> rfl
    · rename_i hgt
      simp only [lookup, ih]
      by_cases hq : compare k q.1 = .eq
      · have hk : k = q.1 := Std.LawfulEqCmp.eq_of_compare hq
        subst hk
        have : compare q.1 k' ≠ .eq := by
          intro h
          rw [Std.OrientedCmp.gt_iff_lt, h] at hgt
          cases hgt
        simp [this, Std.ReflCmp.compare_self]
      · simp [hq]

/-- After an insertion a look-up finds the new value under its key and else what was there. -/
theorem get?_insert (t : Table κ α) (k k' : κ) (v : α) :
    (t.insert k' v).get? k = if compare k k' = .eq then some v else t.get? k :=
  lookup_place k k' v t.entries

@[simp] theorem get?_insert_self (t : Table κ α) (k : κ) (v : α) : (t.insert k v).get? k = some v := by
  rw [get?_insert, if_pos Std.ReflCmp.compare_self]

theorem get?_insert_of_ne (t : Table κ α) {k k' : κ} (v : α) (h : k ≠ k') :
    (t.insert k' v).get? k = t.get? k := by
  rw [get?_insert, if_neg (fun hc => h (Std.LawfulEqCmp.eq_of_compare hc))]

omit [Std.TransOrd κ] in
theorem lookup_filter_ne (k k' : κ) (l : List (κ × α)) :
    lookup k (l.filter (fun e => compare k' e.1 != .eq)) =
      if compare k' k = .eq then none else lookup k l := by
  induction l with
  | nil => simp [lookup]
  | cons q r ih =>
    by_cases hq : compare k' q.1 = .eq
    · have hk : k' = q.1 := Std.LawfulEqCmp.eq_of_compare hq
      subst hk
      simp only [List.filter_cons, Std.ReflCmp.compare_self, bne_self_eq_false, lookup]
      by_cases h : compare q.1 k = .eq
      · simpa [h] using ih
      · have h' : compare k q.1 ≠ .eq :=
          fun hc => h (Std.LawfulEqCmp.eq_of_compare hc ▸ Std.ReflCmp.compare_self)
        simpa [h, h'] using ih
    · simp only [List.filter_cons, bne_iff_ne, ne_eq, hq, not_false_eq_true, if_true, lookup, ih]
      by_cases hk : compare k q.1 = .eq
      · have e : k = q.1 := Std.LawfulEqCmp.eq_of_compare hk
        subst e
        simp [hq]
      · simp [hk]

omit [Std.TransOrd κ] in
/-- After an erasure a look-up finds nothing under the key and else what was there. -/
theorem get?_erase (t : Table κ α) (k k' : κ) :
    (t.erase k').get? k = if compare k' k = .eq then none else t.get? k :=
  lookup_filter_ne k k' t.entries

omit [Std.TransOrd κ] in
@[simp] theorem get?_erase_self (t : Table κ α) (k : κ) : (t.erase k).get? k = none := by
  rw [get?_erase, if_pos Std.ReflCmp.compare_self]

omit [Std.TransOrd κ] in
theorem get?_erase_of_ne (t : Table κ α) {k k' : κ} (h : k ≠ k') : (t.erase k').get? k = t.get? k := by
  rw [get?_erase, if_neg (fun hc => h (Std.LawfulEqCmp.eq_of_compare hc).symm)]

/-! ## Entries and look-ups -/

omit [Std.TransOrd κ] in
theorem lookup_eq_some_iff {l : List (κ × α)} (h : l.Pairwise (fun a b => compare a.1 b.1 = .lt))
    (k : κ) (v : α) : lookup k l = some v ↔ (k, v) ∈ l := by
  induction l with
  | nil => simp [lookup]
  | cons q r ih =>
    obtain ⟨hq, hr⟩ := List.pairwise_cons.1 h
    obtain ⟨kq, vq⟩ := q
    simp only [lookup, List.mem_cons, Prod.mk.injEq]
    by_cases hk : compare k kq = .eq
    · have e : k = kq := Std.LawfulEqCmp.eq_of_compare hk
      subst e
      have hn : (k, v) ∉ r := fun hm => by
        have := hq _ hm
        simp [Std.ReflCmp.compare_self] at this
      simp [Std.ReflCmp.compare_self, hn, eq_comm]
    · have e : k ≠ kq := fun e => hk (e ▸ Std.ReflCmp.compare_self)
      simp [hk, e, ih hr]

omit [Std.TransOrd κ] in
/-- The entries are exactly the pairs that look-ups find. -/
theorem mem_entries_iff (t : Table κ α) (k : κ) (v : α) : (k, v) ∈ t.entries ↔ t.get? k = some v :=
  (lookup_eq_some_iff t.ascending k v).symm

theorem eq_of_lookup {l l' : List (κ × α)} (h : l.Pairwise (fun a b => compare a.1 b.1 = .lt))
    (h' : l'.Pairwise (fun a b => compare a.1 b.1 = .lt))
    (e : ∀ k, lookup k l = lookup k l') : l = l' := by
  induction l generalizing l' with
  | nil =>
    cases l' with
    | nil => rfl
    | cons q r => simpa [lookup, Std.ReflCmp.compare_self] using e q.1
  | cons p r ih =>
    cases l' with
    | nil => simpa [lookup, Std.ReflCmp.compare_self] using e p.1
    | cons q r' =>
      obtain ⟨hp, hr⟩ := List.pairwise_cons.1 h
      obtain ⟨hq, hr'⟩ := List.pairwise_cons.1 h'
      have m1 : p ∈ q :: r' := (lookup_eq_some_iff h' p.1 p.2).1
        (by rw [← e, lookup_eq_some_iff h]; simp)
      have m2 : q ∈ p :: r := (lookup_eq_some_iff h q.1 q.2).1
        (by rw [e, lookup_eq_some_iff h']; simp)
      have hpq : p = q := by
        rcases List.mem_cons.1 m1 with rfl | m1
        · rfl
        · rcases List.mem_cons.1 m2 with rfl | m2
          · rfl
          · have a := hq p m1
            have b := hp q m2
            rw [← Std.OrientedCmp.gt_iff_lt, a] at b
            cases b
      subst hpq
      congr 1
      refine ih hr hr' (fun k => ?_)
      by_cases hk : compare k p.1 = .eq
      · have ek : k = p.1 := Std.LawfulEqCmp.eq_of_compare hk
        have none_of : ∀ {m : List (κ × α)},
            (∀ x ∈ m, compare p.1 x.1 = .lt) → lookup k m = none := by
          intro m hm
          induction m with
          | nil => rfl
          | cons x m ihm =>
            have hx := hm x (by simp)
            simp only [lookup, ek, hx]
            simpa [ek] using ihm (fun y hy => hm y (by simp [hy]))
        rw [none_of hp, none_of hq]
      · simpa [lookup, hk] using e k

/-- Two tables that answer every look-up alike are equal. -/
theorem ext_get? {t t' : Table κ α} (h : ∀ k, t.get? k = t'.get? k) : t = t' := by
  obtain ⟨l, hl⟩ := t
  obtain ⟨l', hl'⟩ := t'
  have e : l = l' := eq_of_lookup hl hl' h
  subst e
  rfl

end Table

end EdgeFleet
