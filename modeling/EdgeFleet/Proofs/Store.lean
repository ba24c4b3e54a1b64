import EdgeFleet.Proofs.Attempt
import EdgeFleet.Proofs.Rows
import EdgeFleet.Proofs.Table
import EdgeFleet.Store.Gateway
/-!
# What a call of the store does

A table of environments is `Sound` when every row was written for a record, under an id that was given
out, and no two rows share an edge id; every call of the store keeps that. The ways in which a call can
end are told by equations and by an inversion lemma (`Inserting`); a call that the gateway refuses
leaves the database as it was.
-/

namespace EdgeFleet

namespace EnvironmentId

theorem toInt_inj {i j : EnvironmentId} : i.number.toInt = j.number.toInt ↔ i = j := by
  constructor
  · intro h
    cases i
    cases j
    exact congrArg mk (Int32.toInt_inj.1 h)
  · rintro rfl
    rfl

theorem isAssigned_iff {i : EnvironmentId} : i.isAssigned = true ↔ i.number.toInt ≠ 0 := by
  rw [isAssigned, bne_iff_ne, ← Int32.toInt_zero, ne_eq, ne_eq, Int32.toInt_inj]

theorem compare_eq_lt_iff {i j : EnvironmentId} : compare i j = .lt ↔ i.number.toInt < j.number.toInt := by
  change compare i.number j.number = .lt ↔ _
  rw [Std.compare_eq_lt]
  exact Int32.lt_iff_toInt_lt

theorem exists_toInt {n : Int} (h : Decimal.signed32.least ≤ n) (h' : n ≤ Decimal.signed32.most) :
    (⟨Int32.ofInt n⟩ : EnvironmentId).number.toInt = n :=
  Int32.toInt_ofInt_of_le h (Int.lt_add_one_of_le h')

end EnvironmentId

namespace EnvironmentTable

variable {t : EnvironmentTable} {id : EnvironmentId} {e : Environment}

def row? (t : EnvironmentTable) (id : EnvironmentId) : Option EnvironmentRow := t.rows.get? id.number.toInt

/-- Whether an environment has a row. -/
def holds (t : EnvironmentTable) (id : EnvironmentId) : Bool := t.rows.contains id.number.toInt

def edgeIdOf? (t : EnvironmentTable) (id : EnvironmentId) : Option String := (t.row? id).bind (·.edgeId)

def record? (t : EnvironmentTable) (id : EnvironmentId) : Option Environment :=
  (t.row? id).bind (·.record? id.number.toInt)

/-- The records of all rows that can be read. -/
def records (t : EnvironmentTable) : List Environment := t.rows.entries.filterMap (fun p => p.2.record? p.1)

/-- The table with a row in place of another one. -/
def withRow (t : EnvironmentTable) (id : EnvironmentId) (row : EnvironmentRow) : EnvironmentTable :=
  { t with rows := t.rows.insert id.number.toInt row }

def without (t : EnvironmentTable) (id : EnvironmentId) : EnvironmentTable :=
  { t with rows := t.rows.erase id.number.toInt }

/-- Whether a table holds only rows that were written for records, under ids that were given out, and
keeps edge ids apart. -/
structure Sound (t : EnvironmentTable) : Prop where
  hasIndex : t.hasIndex = true
  sequence : 0 ≤ t.sequence
  row : ∀ {n row}, t.rows.get? n = some row →
    ∃ (id : EnvironmentId) (e : Environment), id.isAssigned = true ∧ id.number.toInt = n ∧ row = .ofEnvironment e
  apart : ∀ {n n' row row' edgeId}, t.rows.get? n = some row → t.rows.get? n' = some row' →
    row.edgeId = some edgeId → row'.edgeId = some edgeId → n = n'

theorem sound_empty : empty.Sound where
  hasIndex := rfl
  sequence := Int.le_refl 0
  row h := by cases h
  apart h := by cases h

/-- Whether a table holds only rows that were written for records, under ids that records brought or that
were counted on from there. Edge ids may be shared, and ids that were counted may have more than 32 bits. -/
structure Written (t : EnvironmentTable) : Prop where
  sequence : 0 ≤ t.sequence
  row : ∀ {n row}, t.rows.get? n = some row →
    Decimal.signed32.least ≤ n ∧ n ≠ 0 ∧ ∃ e : Environment, row = .ofEnvironment e

/-- Whether all ids of a table have 32 bits. -/
def Fits (t : EnvironmentTable) : Prop := ∀ n, t.rows.contains n = true → n ≤ Decimal.signed32.most

theorem Sound.written (h : t.Sound) : t.Written where
  sequence := h.sequence
  row hr := by
    obtain ⟨id, e, ha, rfl, he⟩ := h.row hr
    exact ⟨id.number.le_toInt, EnvironmentId.isAssigned_iff.1 ha, e, he⟩

theorem Sound.fits (h : t.Sound) : t.Fits := by
  intro n hn
  obtain ⟨row, hr⟩ := Table.contains_iff.1 hn
  obtain ⟨id, -, -, rfl, -⟩ := h.row hr
  exact Int.le_of_lt_add_one id.number.toInt_lt

/-! ## Rows of a table that was written -/

theorem Written.isAssigned (h : t.Written) (hid : t.holds id = true) : id.isAssigned = true := by
  obtain ⟨row, hr⟩ := Table.contains_iff.1 hid
  exact EnvironmentId.isAssigned_iff.2 (h.row hr).2.1

/-- A row that was written is that of a record, and reads back. -/
theorem Written.row?_eq_some (h : t.Written) (hid : t.holds id = true) :
    ∃ e, t.row? id = some (.ofEnvironment e) ∧ t.record? id = some { e.stored with id } := by
  obtain ⟨row, hr⟩ := Table.contains_iff.1 hid
  obtain ⟨-, -, e, rfl⟩ := h.row hr
  refine ⟨e, hr, ?_⟩
  rw [EnvironmentTable.record?, row?, hr, Option.bind_some, EnvironmentRow.record?_ofEnvironment]

theorem record?_of_not_holds (hid : t.holds id = false) : t.record? id = none := by
  unfold record? row?
  rw [Table.contains_eq_false_iff.1 hid]
  rfl

theorem edgeIdOf?_of_not_holds (hid : t.holds id = false) : t.edgeIdOf? id = none := by
  unfold edgeIdOf? row?
  rw [Table.contains_eq_false_iff.1 hid]
  rfl

theorem Written.isSome_record? (h : t.Written) (id : EnvironmentId) : (t.record? id).isSome = t.holds id := by
  cases hid : t.holds id with
  | false => rw [record?_of_not_holds hid]; rfl
  | true =>
    obtain ⟨e, -, hr⟩ := h.row?_eq_some hid
    rw [hr]
    rfl

/-- The record of an environment has its id, and names the edge id of its row. -/
theorem Written.of_record? (h : t.Written) (hr : t.record? id = some e) :
    t.holds id = true ∧ e.id = id ∧ t.edgeIdOf? id = e.boundEdgeId? := by
  have hid : t.holds id = true := by rw [← h.isSome_record?, hr]; rfl
  obtain ⟨e', hrow, hr'⟩ := h.row?_eq_some hid
  rw [hr] at hr'
  cases hr'
  refine ⟨hid, rfl, ?_⟩
  unfold edgeIdOf?
  rw [hrow]
  exact e'.boundEdgeId?_stored.symm

/-- The environments of two rows with one edge id are the same. -/
theorem Sound.eq_of_edgeIdOf? (h : t.Sound) {i j : EnvironmentId} {edgeId : String} (hi : t.edgeIdOf? i = some edgeId)
    (hj : t.edgeIdOf? j = some edgeId) : i = j := by
  obtain ⟨row, hr, he⟩ := Option.bind_eq_some_iff.1 hi
  obtain ⟨row', hr', he'⟩ := Option.bind_eq_some_iff.1 hj
  exact EnvironmentId.toInt_inj.1 (h.apart hr hr' he he')

theorem Sound.edgeIdOf?_ne_empty (h : t.Sound) {edgeId : String} (hid : t.edgeIdOf? id = some edgeId) :
    edgeId ≠ "" := by
  obtain ⟨row, hr, he⟩ := Option.bind_eq_some_iff.1 hid
  obtain ⟨-, e, -, -, rfl⟩ := h.row hr
  have := (Option.filter_eq_some_iff.1 he).2
  simpa using this

/-- An id of a row that was written is that of an environment, unless it has more than 32 bits. -/
theorem Written.exists_id (h : t.Written) {n : Int} {row : EnvironmentRow} (hr : t.rows.get? n = some row)
    (hn : n ≤ Decimal.signed32.most) : ∃ id : EnvironmentId, id.number.toInt = n :=
  ⟨_, EnvironmentId.exists_toInt (h.row hr).1 hn⟩

/-- The record of a row has the id of the row, which has 32 bits then. -/
theorem Written.toInt_id (h : t.Written) {n : Int} {row : EnvironmentRow} (hr : t.rows.get? n = some row)
    (he : row.record? n = some e) : e.id.number.toInt = n := by
  by_cases hn : n ≤ Decimal.signed32.most
  · obtain ⟨id, rfl⟩ := h.exists_id hr hn
    have hr' : t.record? id = some e := by
      rw [EnvironmentTable.record?, row?, hr]
      exact he
    rw [(h.of_record? hr').2.1]
  · obtain ⟨fault, hread⟩ := row.read_of_wide (Int.not_le.1 hn)
    rw [EnvironmentRow.record?, hread] at he
    cases he

theorem Written.mem_records (h : t.Written) : e ∈ t.records ↔ t.record? e.id = some e := by
  unfold records
  rw [List.mem_filterMap]
  constructor
  · rintro ⟨⟨n, row⟩, hm, he⟩
    have hr := (Table.mem_entries_iff _ _ _).1 hm
    rw [EnvironmentTable.record?, row?, h.toInt_id hr he, hr]
    exact he
  · intro hr
    obtain ⟨row, hrow, he⟩ := Option.bind_eq_some_iff.1 hr
    exact ⟨(_, row), (Table.mem_entries_iff _ _ _).2 hrow, he⟩

/-- The records of the rows are in the order of their ids. -/
theorem Written.ascending_records (h : t.Written) :
    t.records.Pairwise (fun e e' => e.id.number.toInt < e'.id.number.toInt) := by
  refine List.pairwise_filterMap.2 (t.rows.ascending.imp_of_mem (fun {p q} hp hq hlt e he e' he' => ?_))
  rw [h.toInt_id ((Table.mem_entries_iff _ _ _).1 hp) he, h.toInt_id ((Table.mem_entries_iff _ _ _).1 hq) he']
  exact Int.compare_eq_lt.1 hlt

/-! ## Writes to a table -/

theorem holds_withRow (t : EnvironmentTable) (id i : EnvironmentId) (row : EnvironmentRow) :
    (t.withRow id row).holds i = (decide (i = id) || t.holds i) := by
  unfold holds withRow
  rw [Table.contains_insert]
  simp only [EnvironmentId.toInt_inj]

theorem edgeIdOf?_withRow (t : EnvironmentTable) (id i : EnvironmentId) (row : EnvironmentRow) :
    (t.withRow id row).edgeIdOf? i = if i = id then row.edgeId else t.edgeIdOf? i := by
  unfold edgeIdOf? row? withRow
  rw [Table.get?_insert_eq]
  simp only [EnvironmentId.toInt_inj]
  split <;> rfl

theorem record?_withRow (t : EnvironmentTable) (id i : EnvironmentId) (e : Environment) :
    (t.withRow id (.ofEnvironment e)).record? i = if i = id then some { e.stored with id } else t.record? i := by
  unfold record? row? withRow
  rw [Table.get?_insert_eq]
  simp only [EnvironmentId.toInt_inj]
  split
  · rename_i hi
    rw [hi, Option.bind_some, EnvironmentRow.record?_ofEnvironment]
  · rfl

theorem record?_put (t : EnvironmentTable) (id i : EnvironmentId) (e : Environment) :
    (t.put id.number.toInt (.ofEnvironment e)).record? i = if i = id then some { e.stored with id } else t.record? i :=
  t.record?_withRow id i e

theorem holds_put (t : EnvironmentTable) (id i : EnvironmentId) (row : EnvironmentRow) :
    (t.put id.number.toInt row).holds i = (decide (i = id) || t.holds i) :=
  t.holds_withRow id i row

theorem edgeIdOf?_put (t : EnvironmentTable) (id i : EnvironmentId) (row : EnvironmentRow) :
    (t.put id.number.toInt row).edgeIdOf? i = if i = id then row.edgeId else t.edgeIdOf? i :=
  t.edgeIdOf?_withRow id i row

theorem holds_without (t : EnvironmentTable) (id i : EnvironmentId) :
    (t.without id).holds i = (!decide (i = id) && t.holds i) := by
  unfold holds without
  rw [Table.contains_erase]
  simp only [EnvironmentId.toInt_inj]

theorem edgeIdOf?_without (t : EnvironmentTable) (id i : EnvironmentId) :
    (t.without id).edgeIdOf? i = if i = id then none else t.edgeIdOf? i := by
  unfold edgeIdOf? row? without
  rw [Table.get?_erase_eq]
  simp only [EnvironmentId.toInt_inj]
  split <;> rfl

theorem record?_without (t : EnvironmentTable) (id i : EnvironmentId) :
    (t.without id).record? i = if i = id then none else t.record? i := by
  unfold record? row? without
  rw [Table.get?_erase_eq]
  simp only [EnvironmentId.toInt_inj]
  split <;> rfl

/-- A row whose edge id no other row has. -/
theorem collides_eq_false_iff {n : Int} {row : EnvironmentRow} :
    t.collides n row = false ↔ (t.hasIndex = true → ∀ edgeId, row.edgeId = some edgeId →
      ∀ m row', t.rows.get? m = some row' → row'.edgeId = some edgeId → m = n) := by
  unfold collides
  cases t.hasIndex with
  | false => simp
  | true =>
    cases row.edgeId with
    | none => simp
    | some edgeId =>
      simp only [Option.isSome_some, Bool.and_self, Bool.true_and, List.any_eq_false]
      constructor
      · rintro h - k hk m row' hr he
        cases hk
        by_contra hne
        exact h (m, row') ((Table.mem_entries_iff _ _ _).2 hr) (by simp [hne, he])
      · rintro h ⟨m, row'⟩ hm hp
        simp only [Bool.and_eq_true, decide_eq_true_eq] at hp
        exact hp.1 (h trivial edgeId rfl m row' ((Table.mem_entries_iff _ _ _).1 hm) hp.2)

theorem Sound.eq_of_collides (h : t.Sound) {n m : Int} {row row' : EnvironmentRow} {edgeId : String}
    (hc : t.collides n row = false) (hr : t.rows.get? m = some row') (he : row.edgeId = some edgeId)
    (he' : row'.edgeId = some edgeId) : m = n :=
  collides_eq_false_iff.1 hc h.hasIndex edgeId he m row' hr he'

/-- Writing the row of a record under an id that was given out, if no other row has its edge id. -/
theorem Sound.insert (h : t.Sound) {n : Int} (hs : 0 ≤ n) (hid : id.isAssigned = true)
    (hc : t.collides id.number.toInt (.ofEnvironment e) = false) :
    ({ t with rows := t.rows.insert id.number.toInt (.ofEnvironment e), sequence := n } : EnvironmentTable).Sound where
  hasIndex := h.hasIndex
  sequence := hs
  row {m row} hr := by
    rw [Table.get?_insert_eq] at hr
    split at hr
    · cases hr
      rename_i he
      exact ⟨id, e, hid, he.symm, rfl⟩
    · exact h.row hr
  apart {m m' row row' edgeId} hr hr' he he' := by
    rw [Table.get?_insert_eq] at hr hr'
    -- Only the new row can clash with another one, and the table was searched for such a clash.
    split at hr <;> split at hr'
    · rename_i e1 e2
      rw [e1, e2]
    · rename_i e1 _
      cases hr
      rw [e1]
      exact (h.eq_of_collides hc hr' he he').symm
    · rename_i e2
      cases hr'
      rw [e2]
      exact h.eq_of_collides hc hr he' he
    · exact h.apart hr hr' he he'

theorem Sound.put (h : t.Sound) (hid : id.isAssigned = true)
    (hc : t.collides id.number.toInt (.ofEnvironment e) = false) : (t.put id.number.toInt (.ofEnvironment e)).Sound :=
  h.insert (Int.le_trans h.sequence (Int.le_max_left _ _)) hid hc

theorem Sound.withRow (h : t.Sound) (hid : id.isAssigned = true)
    (hc : t.collides id.number.toInt (.ofEnvironment e) = false) : (t.withRow id (.ofEnvironment e)).Sound :=
  h.insert h.sequence hid hc

theorem Sound.without (h : t.Sound) (id : EnvironmentId) : (t.without id).Sound where
  hasIndex := h.hasIndex
  sequence := h.sequence
  row {n row} hr := by
    unfold EnvironmentTable.without at hr
    rw [Table.get?_erase_eq] at hr
    split at hr
    · cases hr
    · exact h.row hr
  apart {n n' row row' edgeId} hr hr' := by
    unfold EnvironmentTable.without at hr hr'
    rw [Table.get?_erase_eq] at hr hr'
    split at hr
    · cases hr
    · split at hr'
      · cases hr'
      · exact h.apart hr hr'

/-! ## Ids given out -/

theorem le_foldl_max (l : List Int) (m : Int) : m ≤ l.foldl max m ∧ ∀ n ∈ l, n ≤ l.foldl max m := by
  induction l generalizing m with
  | nil => exact ⟨Int.le_refl m, by simp⟩
  | cons k r ih =>
    obtain ⟨hm, hr⟩ := ih (max m k)
    rw [List.foldl_cons]
    refine ⟨by omega, fun n hn => ?_⟩
    rcases List.mem_cons.1 hn with rfl | hn
    · omega
    · exact hr n hn

theorem foldl_max_of_le {l : List Int} {m : Int} (h : ∀ n ∈ l, n ≤ m) : l.foldl max m = m := by
  induction l with
  | nil => rfl
  | cons k r ih =>
    have hk := h k List.mem_cons_self
    rw [List.foldl_cons, Int.max_eq_left hk]
    exact ih (fun n hn => h n (List.mem_cons_of_mem k hn))

/-- The id of the next row is past the largest that was held, and no row has it. -/
theorem nextId?_free {n : Int} (hn : t.nextId? = some n) : t.sequence < n ∧ t.rows.contains n = false := by
  obtain ⟨hle, hkeys⟩ := le_foldl_max t.rows.keys t.sequence
  simp only [EnvironmentTable.nextId?] at hn
  split at hn
  · cases hn
    refine ⟨by omega, ?_⟩
    rw [← Bool.not_eq_true, ← Table.mem_keys_iff]
    intro hm
    -- It is one more than the largest of all keys.
    have := hkeys _ hm
    omega
  · cases hn

end EnvironmentTable

namespace Database

open Attempt

variable {d : Database} {t : EnvironmentTable} {e : Environment} {id : EnvironmentId}

def withTable (d : Database) (t : EnvironmentTable) : Database := { d with environments := some t }

theorem withTable_self (hd : d.environments = some t) : d.withTable t = d := by
  unfold withTable
  rw [← hd]

theorem run_environmentTable (hd : d.environments = some t) (access : Access) :
    (environmentTable access).run d = (.done t, d) := by
  unfold environmentTable
  rw [run_bind_done (run_view _ d), hd]
  rfl

theorem run_environmentTable_of_none (hd : d.environments = none) (access : Access) :
    (environmentTable access).run d = (.refused (.database (.noTable access .environments)), d) := by
  unfold environmentTable
  rw [run_bind_done (run_view _ d), hd]
  rfl

theorem run_putTable (t : EnvironmentTable) (d : Database) : (putTable t).run d = (.done (), d.withTable t) := rfl

/-! ## Reading -/

/-- The row of a record reads back. -/
theorem run_record?_of_row (hd : d.environments = some t) {id : EnvironmentId}
    (hrow : t.row? id = some (.ofEnvironment e)) :
    (record? id).run d = (.done (some (.ok { e.stored with id })), d) := by
  unfold record?
  rw [run_bind_done (run_environmentTable hd .query), show t.rows.get? id.number.toInt = _ from hrow]
  simp only [EnvironmentRow.read_ofEnvironment]
  rfl

theorem run_record? (hd : d.environments = some t) (h : t.Written) (id : EnvironmentId) :
    (record? id).run d = (.done ((t.record? id).map .ok), d) := by
  cases hid : t.holds id with
  | false =>
    unfold record?
    rw [run_bind_done (run_environmentTable hd .query), EnvironmentTable.record?_of_not_holds hid,
      Table.contains_eq_false_iff.1 hid]
    rfl
  | true =>
    obtain ⟨e, hrow, hr⟩ := h.row?_eq_some hid
    rw [run_record?_of_row hd hrow, hr]
    rfl

/-- So does a record that was just written, whatever other rows there are. -/
theorem run_environment?_of_row (hd : d.environments = some t) {id : EnvironmentId}
    (hrow : t.row? id = some (.ofEnvironment e)) :
    (environment? id).run d = (.done (some { e.stored with id }), d) := by
  unfold environment?
  rw [run_bind_done (run_record?_of_row hd hrow)]
  rfl

theorem run_environment? (hd : d.environments = some t) (h : t.Written) (id : EnvironmentId) :
    (environment? id).run d = (.done (t.record? id), d) := by
  unfold environment?
  rw [run_bind_done (run_record? hd h id)]
  cases t.record? id <;> rfl

/-- All records are read, in the order of their ids. -/
theorem run_all (hd : d.environments = some t) (h : t.Written) (hfits : t.Fits) : all.run d = (.done t.records, d) := by
  -- Every row with an id of 32 bits reads back, so none is left out and none stops the reading.
  have hread : ∀ l : List (Int × EnvironmentRow), (∀ p ∈ l, p ∈ t.rows.entries) →
      ∃ es, l.filterMap (fun p => p.2.record? p.1) = es ∧
        l.mapM (fun p => p.2.read p.1) = .ok (es.map .ok) := by
    intro l hl
    induction l with
    | nil => exact ⟨[], rfl, rfl⟩
    | cons p r ih =>
      obtain ⟨es, hes, hr⟩ := ih (fun q hq => hl q (List.mem_cons_of_mem _ hq))
      have hp := (Table.mem_entries_iff _ _ _).1 (hl p List.mem_cons_self)
      obtain ⟨-, -, e, he⟩ := h.row hp
      obtain ⟨id, hid⟩ := h.exists_id hp (hfits p.1 (Table.contains_iff.2 ⟨p.2, hp⟩))
      refine ⟨{ e.stored with id } :: es, ?_, ?_⟩
      · rw [List.filterMap_cons, he, ← hid, EnvironmentRow.record?_ofEnvironment, hes]
      · rw [List.mapM_cons, he, ← hid, EnvironmentRow.read_ofEnvironment, hr]
        rfl
  have hpick : ∀ es : List Environment,
      (es.map (Except.ok (ε := Corruption))).mapM id = .ok es := by
    intro es
    induction es with
    | nil => rfl
    | cons e r ih =>
      rw [List.map_cons, List.mapM_cons, ih]
      rfl
  obtain ⟨es, hes, hr⟩ := hread t.rows.entries (fun _ hp => hp)
  unfold all
  rw [run_bind_done (run_environmentTable hd .query)]
  unfold Database.records
  rw [hr, EnvironmentTable.records, hes]
  apply (run_bind_done (run_ofExcept_ok _ d)).trans
  rw [hpick]
  rfl

/-- No records are read where a row has an id of more than 32 bits. -/
theorem run_all_of_wide (hd : d.environments = some t) {n : Int} (hn : t.rows.contains n = true)
    (hmost : Decimal.signed32.most < n) : ∃ err, all.run d = (.refused err, d) := by
  have hread : ∀ l : List (Int × EnvironmentRow), (∃ p ∈ l, Decimal.signed32.most < p.1) →
      ∃ fault, l.mapM (fun p => p.2.read p.1) = .error fault := by
    intro l hl
    induction l with
    | nil => simp at hl
    | cons p r ih =>
      rw [List.mapM_cons]
      cases hp : p.2.read p.1 with
      | error fault => exact ⟨fault, rfl⟩
      | ok record =>
        -- The row is not the first, since that one was read.
        obtain ⟨q, hq, hwide⟩ := hl
        rcases List.mem_cons.1 hq with rfl | hq
        · obtain ⟨fault, hfault⟩ := q.2.read_of_wide hwide
          rw [hfault] at hp
          cases hp
        · obtain ⟨fault, hr⟩ := ih ⟨q, hq, hwide⟩
          exact ⟨fault, by rw [hr]; rfl⟩
  obtain ⟨row, hr⟩ := Table.contains_iff.1 hn
  obtain ⟨fault, hfault⟩ := hread t.rows.entries ⟨(n, row), (Table.mem_entries_iff _ _ _).2 hr, hmost⟩
  refine ⟨.database fault, ?_⟩
  unfold all
  rw [run_bind_done (run_environmentTable hd .query)]
  unfold Database.records
  rw [hfault]
  rfl

/-! ## Writing -/

/-- The id that the row of a record gets. -/
def idFor? (t : EnvironmentTable) (e : Environment) : Option Int :=
  if e.id.isAssigned then some e.id.number.toInt else t.nextId?

theorem idFor?_of_isAssigned (ha : e.id.isAssigned = true) : idFor? t e = some e.id.number.toInt := if_pos ha

theorem idFor?_of_not_isAssigned (ha : e.id.isAssigned = false) : idFor? t e = t.nextId? := by
  unfold idFor?
  rw [ha, if_neg (by simp)]

/-- Ids are counted from zero on, so the id that a row gets is one that is given out. -/
theorem isAssigned_of_idFor? (h : idFor? t e = some id.number.toInt) (hcount : 0 ≤ t.sequence) :
    id.isAssigned = true := by
  cases ha : e.id.isAssigned with
  | true =>
    rw [idFor?_of_isAssigned ha] at h
    rwa [EnvironmentId.toInt_inj.1 (Option.some.inj h)] at ha
  | false =>
    rw [idFor?_of_not_isAssigned ha] at h
    have hpast := (EnvironmentTable.nextId?_free h).1
    exact EnvironmentId.isAssigned_iff.2 (by omega)

/-- An id of more than 32 bits is not one that a record brings, so it is the next. -/
theorem nextId?_of_idFor? {n : Int} (h : idFor? t e = some n) (hmost : Decimal.signed32.most < n) :
    e.id.isAssigned = false ∧ t.nextId? = some n := by
  cases ha : e.id.isAssigned with
  | true =>
    rw [idFor?_of_isAssigned ha] at h
    cases h
    exact absurd hmost (Int.not_lt.2 (Int.le_of_lt_add_one e.id.number.toInt_lt))
  | false => exact ⟨rfl, by rwa [idFor?_of_not_isAssigned ha] at h⟩

/-- What adding a record comes to, by the id that its row gets. -/
theorem run_add (hd : d.environments = some t) (e : Environment) :
    (add e).run d = match idFor? t e with
      | none => (.refused (.database .full), d)
      | some n =>
        if t.collides n (.ofEnvironment e) then (.refused (.database .duplicateEdgeId), d)
        else
          (if n < 0 then .crashed
            else if Decimal.signed32.most < n then .refused (.database .unreadableId)
            else .done { e.normalize with id := ⟨Int32.ofInt n⟩ },
          d.withTable (t.put n (.ofEnvironment e))) := by
  unfold add
  rw [run_bind_done (run_environmentTable hd .execution)]
  change (orRefuse _ (idFor? t e) >>= _ : Step Environment).run d = _
  cases idFor? t e with
  | none => rw [run_bind_refused (run_orRefuse_none _ d)]
  | some n =>
    rw [run_bind_done (run_orRefuse_some _ n d)]
    dsimp only
    split
    · rfl
    · rw [run_bind_done (run_putTable _ d)]
      split
      · rfl
      · split <;> rfl

/-- The ends of inserting a record. -/
inductive Inserting (d : Database) (e : Environment) : Outcome StoreError Environment × Database → Prop
  | refused {err : StoreError} : Inserting d e (.refused err, d)
  /-- The row is stored under a negative id. -/
  | cutOff {t : EnvironmentTable} {n : Int} (hd : d.environments = some t) (hid : idFor? t e = some n) (hn : n < 0)
      (hfree : t.rows.contains n = false) (hc : t.collides n (.ofEnvironment e) = false) :
      Inserting d e (.crashed, d.withTable (t.put n (.ofEnvironment e)))
  /-- The id is the next one, and it has more than 32 bits. -/
  | unread {t : EnvironmentTable} {n : Int} (hd : d.environments = some t) (ha : e.id.isAssigned = false)
      (hn : t.nextId? = some n) (hmost : Decimal.signed32.most < n) :
      Inserting d e (.refused (.database .unreadableId), d.withTable (t.put n (.ofEnvironment e)))
  | inserted {t : EnvironmentTable} {id : EnvironmentId} (hd : d.environments = some t)
      (hid : idFor? t e = some id.number.toInt) (hn : 0 ≤ id.number.toInt) (hfree : t.holds id = false)
      (hc : t.collides id.number.toInt (.ofEnvironment e) = false) :
      Inserting d e
        (.done { e.normalize with id }, d.withTable (t.put id.number.toInt (.ofEnvironment e)))

/-- Adding a record whose id is free, if it brings one. -/
theorem inserting_add (hd : d.environments = some t) (hfree : e.id.isAssigned = true → t.holds e.id = false) :
    Inserting d e ((add e).run d) := by
  rw [run_add hd]
  cases hx : idFor? t e with
  | none => exact .refused
  | some n =>
    have hfree' : t.rows.contains n = false := by
      cases ha : e.id.isAssigned with
      | true =>
        rw [idFor?_of_isAssigned ha] at hx
        cases hx
        exact hfree ha
      | false =>
        rw [idFor?_of_not_isAssigned ha] at hx
        exact (EnvironmentTable.nextId?_free hx).2
    dsimp only
    cases hc : t.collides n (.ofEnvironment e) with
    | true => exact .refused
    | false =>
      rw [if_neg (by simp)]
      by_cases hneg : n < 0
      · rw [if_pos hneg]
        exact .cutOff hd hx hneg hfree' hc
      · rw [if_neg hneg]
        by_cases hmost : Decimal.signed32.most < n
        · rw [if_pos hmost]
          obtain ⟨ha, hn⟩ := nextId?_of_idFor? hx hmost
          exact .unread hd ha hn hmost
        · obtain ⟨id, rfl⟩ : ∃ id : EnvironmentId, id.number.toInt = n :=
            ⟨_, EnvironmentId.exists_toInt (by show -0x80000000 ≤ n; omega) (Int.not_lt.1 hmost)⟩
          rw [if_neg hmost, Int32.ofInt_toInt]
          exact .inserted hd hx (Int.not_lt.1 hneg) hfree' hc

theorem inserting (d : Database) (e : Environment) : Inserting d e ((insert e).run d) := by
  cases ht : d.environments with
  | none =>
    have hadd : (add e).run d = (.refused (.database (.noTable .execution .environments)), d) :=
      run_bind_refused (run_environmentTable_of_none ht .execution)
    have hrecord : (record? e.id).run d = (.refused (.database (.noTable .query .environments)), d) :=
      run_bind_refused (run_environmentTable_of_none ht .query)
    unfold insert
    split
    · rw [run_bind_refused hrecord]
      exact .refused
    · rw [hadd]
      exact .refused
  | some t =>
    unfold insert
    by_cases ha : e.id.isAssigned = true
    · rw [if_pos ha]
      cases hrow : t.rows.get? e.id.number.toInt with
      | none =>
        have hrecord : (record? e.id).run d = (.done none, d) := by
          unfold record?
          rw [run_bind_done (run_environmentTable ht .query), hrow]
          rfl
        rw [run_bind_done hrecord]
        exact inserting_add ht (fun _ => Table.contains_eq_false_iff.2 hrow)
      | some row =>
        -- A row that is there stops the insertion, whether it can be read or not.
        have hrecord : (record? e.id).run d =
            ((some <$> ofExcept ((row.read e.id.number.toInt).mapError .database) : Step _).run d) := by
          unfold record?
          rw [run_bind_done (run_environmentTable ht .query), hrow]
        rw [run_map] at hrecord
        cases hread : row.read e.id.number.toInt with
        | error fault =>
          rw [hread] at hrecord
          rw [run_bind_refused hrecord]
          exact .refused
        | ok record =>
          rw [hread] at hrecord
          rw [run_bind_done hrecord]
          exact .refused
    · rw [if_neg ha]
      exact inserting_add ht (fun h => absurd h ha)

/-- A record is added, unless one is held under its id. -/
theorem run_insert (hd : d.environments = some t) (h : t.Written) (e : Environment) :
    (insert e).run d = if t.holds e.id then (.refused (.alreadyExists e.id), d) else (add e).run d := by
  unfold insert
  cases ha : e.id.isAssigned with
  | false =>
    rw [if_neg (by simp), if_neg]
    intro hid
    rw [h.isAssigned hid] at ha
    cases ha
  | true =>
    rw [if_pos rfl, run_bind_done (run_record? hd h e.id), Option.isSome_map, h.isSome_record?]
    split <;> rfl

/-- A record is replaced if it is held, and added if not. -/
theorem run_save (hd : d.environments = some t) (h : t.Written) (e : Environment) :
    (save e).run d = if t.holds e.id then (replace e).run d else (add e).run d := by
  unfold save
  cases ha : e.id.isAssigned with
  | false =>
    rw [if_neg (by simp), if_neg]
    intro hid
    rw [h.isAssigned hid] at ha
    cases ha
  | true =>
    rw [if_pos rfl, run_bind_done (run_record? hd h e.id), Option.isSome_map, h.isSome_record?]
    split <;> rfl

theorem run_replace {e' : Environment} (hd : d.environments = some t) (hrow : t.row? e.id = some (.ofEnvironment e')) :
    (replace e).run d =
      if t.collides e.id.number.toInt (.ofEnvironment e) then (.refused (.database .duplicateEdgeId), d)
      else (.done e.stored, d.withTable (t.withRow e.id (.ofEnvironment e))) := by
  -- The time of creation is carried over, and it is the same text in every row that was written.
  have hrow' : { EnvironmentRow.ofEnvironment e with
      createdAt := (t.rows.get? e.id.number.toInt).bind (·.createdAt) } = .ofEnvironment e := by
    rw [show t.rows.get? e.id.number.toInt = _ from hrow]
    rfl
  unfold replace
  rw [run_bind_done (run_environmentTable hd .execution)]
  simp only [hrow']
  split
  · rfl
  · rw [run_bind_done (run_putTable _ d), EnvironmentRow.toEnvironment_ofEnvironment]
    rfl

theorem run_delete (hd : d.environments = some t) (id : EnvironmentId) :
    (delete id).run d =
      if t.holds id then (.done (), d.withTable (t.without id)) else (.refused (.notFound id), d) := by
  unfold delete
  rw [run_bind_done (run_environmentTable hd .execution)]
  unfold EnvironmentTable.holds
  split <;> rfl

/-! ## Sound databases -/

/-- Whether a database is migrated and holds only what was written for records. -/
def Sound (d : Database) : Prop := ∃ t, d.environments = some t ∧ t.Sound

theorem sound_fresh : fresh.Sound := ⟨.empty, rfl, EnvironmentTable.sound_empty⟩

end Database

namespace Gateway

open Attempt

/-- A call that is not to be refused is that of the database. -/
theorem run_call_of_none {α : Type} {m : StoreMethod} {g : Gateway} (hm : g.refusals.lookup m = none)
    (x : Database.Step α) : (call m x).run g = ((x.run g.database).1, { g with database := (x.run g.database).2 }) := by
  have hcall : (call m x).run g = (direct x).run g := by rw [run, call, hm, run]
  rw [hcall, direct, run_within, Outcome.rename_id]

/-- A call is refused without reaching the database, or is that of the database. -/
theorem run_call {α : Type} (m : StoreMethod) (x : Database.Step α) (g : Gateway) :
    (∃ e, (call m x).run g = (.refused e, { g with refusals := g.without m })) ∨
      (call m x).run g = ((x.run g.database).1, { g with database := (x.run g.database).2 }) := by
  cases hm : g.refusals.lookup m with
  | some e =>
    refine .inl ⟨e, ?_⟩
    rw [run, call, hm]
  | none => exact .inr (run_call_of_none hm x)

end Gateway

end EdgeFleet
