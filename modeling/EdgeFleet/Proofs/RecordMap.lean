import EdgeFleet.Proofs.Service
/-!
# The store as a map of records

A `RecordMap` holds the record that is kept under every id, and all ids that were ever held. What the
store answers to any calls is what such a map answers (`answers_of_migrated`), with one difference: a
record that is added under a negative id is stored, but the call is cut off.
-/

namespace EdgeFleet

namespace Database

/-- A call of the store about environments. -/
inductive Call where
  | insert (e : Environment)
  | save (e : Environment)
  | delete (id : EnvironmentId)
  | environment (id : EnvironmentId)
  | all
deriving DecidableEq

/-- What is answered to a call. -/
inductive Reply where
  | stored (e : Environment)
  | deleted
  | found (e? : Option Environment)
  | listed (es : List Environment)
deriving DecidableEq

namespace Call

def step : Call → Step Reply
  | insert e => .stored <$> Database.insert e
  | save e => .stored <$> Database.save e
  | delete id => (fun _ => .deleted) <$> Database.delete id
  | environment id => .found <$> Database.environment? id
  | all => .listed <$> Database.all

/-- The record that a call brings. -/
def record? : Call → Option Environment
  | insert e | save e => some e
  | _ => none

end Call

/-- The database after calls that are made one after the other. -/
def after (d : Database) : List Call → Database
  | [] => d
  | call :: calls => after (call.step.run d).2 calls

/-- What is answered to calls that are made one after the other. -/
def answers (d : Database) : List Call → List (Outcome StoreError Reply)
  | [] => []
  | call :: calls => (call.step.run d).1 :: answers (call.step.run d).2 calls

end Database

/-- The records that are kept, each under its id. -/
structure RecordMap where
  records : Table EnvironmentId Environment
  /-- Every id that was ever held, also of records that were deleted since. -/
  past : List EnvironmentId
deriving DecidableEq

namespace RecordMap

open Database (Call Reply)

def empty : RecordMap := ⟨∅, []⟩

/-- The greatest number of an id that was ever held, at least zero. -/
def greatest (m : RecordMap) : Int := m.past.foldr (fun id n => max id.number.toInt n) 0

/-- The id of a record that is added: its own, or one past all that were ever held. -/
def idFor (m : RecordMap) (e : Environment) : EnvironmentId :=
  if e.id.isAssigned then e.id else ⟨Int32.ofInt (m.greatest + 1)⟩

/-- Whether a record brings an edge id that another record has. -/
def clashes (m : RecordMap) (e : Environment) : Bool :=
  e.boundEdgeId?.isSome && m.records.entries.any (fun p => p.1 ≠ e.id && p.2.boundEdgeId? = e.boundEdgeId?)

/-- Adds a record under its id, in the form that is kept. -/
def add (m : RecordMap) (e : Environment) : Outcome StoreError Reply × RecordMap :=
  if m.clashes e then (.refused (.database .duplicateEdgeId), m)
  else (.done (.stored { e.normalize with id := m.idFor e }),
    ⟨m.records.insert (m.idFor e) { e.stored with id := m.idFor e }, m.idFor e :: m.past⟩)

def replace (m : RecordMap) (e : Environment) : Outcome StoreError Reply × RecordMap :=
  if m.clashes e then (.refused (.database .duplicateEdgeId), m)
  else (.done (.stored e.stored), { m with records := m.records.insert e.id e.stored })

def step (m : RecordMap) : Call → Outcome StoreError Reply × RecordMap
  | .insert e => if m.records.contains e.id then (.refused (.alreadyExists e.id), m) else m.add e
  | .save e => if m.records.contains e.id then m.replace e else m.add e
  | .delete id =>
    if m.records.contains id then (.done .deleted, { m with records := m.records.erase id })
    else (.refused (.notFound id), m)
  | .environment id => (.done (.found (m.records.get? id)), m)
  | .all => (.done (.listed m.records.values), m)

/-- Whether a call adds a record under a negative id. -/
def AddsNegative (m : RecordMap) (call : Call) : Prop :=
  ∃ e ∈ call.record?, e.id.number.toInt < 0 ∧ m.records.contains e.id = false ∧ m.clashes e = false

instance (m : RecordMap) (call : Call) : Decidable (m.AddsNegative call) := by unfold AddsNegative; infer_instance

/-- What the store tells of the answers of a map: nothing where a record is added under a negative id. -/
def told (m : RecordMap) : List Call → List (Outcome StoreError Reply)
  | [] => []
  | call :: calls => (if m.AddsNegative call then .crashed else (m.step call).1) :: told (m.step call).2 calls

/-- Whether the id that a call gives out has 32 bits. -/
def Allows (m : RecordMap) (call : Call) : Prop :=
  ∀ e ∈ call.record?, e.id.isAssigned = false → m.clashes e = false → m.greatest < Decimal.signed32.most

instance (m : RecordMap) (call : Call) : Decidable (m.Allows call) := by unfold Allows; infer_instance

/-- Whether all ids have 32 bits that are given out to calls made one after the other. -/
def Fits (m : RecordMap) : List Call → Prop
  | [] => True
  | call :: calls => m.Allows call ∧ Fits (m.step call).2 calls

instance decidableFits (m : RecordMap) : (calls : List Call) → Decidable (m.Fits calls)
  | [] => inferInstanceAs (Decidable True)
  | call :: calls =>
    have := decidableFits (m.step call).2 calls
    inferInstanceAs (Decidable (m.Allows call ∧ Fits (m.step call).2 calls))

/-- The map after calls that are made one after the other. -/
def after (m : RecordMap) : List Call → RecordMap
  | [] => m
  | call :: calls => after (m.step call).2 calls

/-- What is true of a map of records: each is kept under its id, in canonical form, no two have one edge
id, they are listed in the order of their ids, and the next id is past all that were ever held. -/
structure Orderly (m : RecordMap) : Prop where
  canonical : ∀ {id e}, m.records.get? id = some e → e.id = id ∧ e.stored = e
  apart : ∀ {i j e e' edgeId}, m.records.get? i = some e → m.records.get? j = some e' →
    e.boundEdgeId? = some edgeId → e'.boundEdgeId? = some edgeId → i = j
  ascending : (m.records.values.map (·.id.number.toInt)).Pairwise (· < ·)
  held : ∀ {id}, m.records.contains id = true → id ∈ m.past
  next : ∀ {e id}, e.id.isAssigned = false → m.greatest < Decimal.signed32.most → id ∈ m.past →
    id.number.toInt < (m.idFor e).number.toInt

/-! ## Ids that were held -/

variable {m : RecordMap} {t : EnvironmentTable} {d : Database} {e : Environment} {id : EnvironmentId}

theorem greatest_cons (m : RecordMap) (id : EnvironmentId) (records : Table EnvironmentId Environment) :
    greatest ⟨records, id :: m.past⟩ = max id.number.toInt m.greatest := rfl

theorem le_foldr_max (ids : List EnvironmentId) : 0 ≤ ids.foldr (fun id n => max id.number.toInt n) 0 ∧
    ids.foldr (fun id n => max id.number.toInt n) 0 ≤ Decimal.signed32.most ∧
    ∀ id ∈ ids, id.number.toInt ≤ ids.foldr (fun id n => max id.number.toInt n) 0 := by
  induction ids with
  | nil => exact ⟨Int.le_refl 0, by decide, by simp⟩
  | cons i ids ih =>
    obtain ⟨hzero, hmost, hle⟩ := ih
    have hi : i.number.toInt < 0x80000000 := i.number.toInt_lt
    change _ ≤ (0x7fffffff : Int) at hmost
    rw [List.foldr_cons]
    refine ⟨by omega, ?_, fun id hid => ?_⟩
    · change _ ≤ (0x7fffffff : Int)
      omega
    · rcases List.mem_cons.1 hid with rfl | hid
      · omega
      · have := hle id hid
        omega

/-- The id that is given out is past all that were ever held. -/
theorem lt_idFor (ha : e.id.isAssigned = false) (hfits : m.greatest < Decimal.signed32.most) :
    (m.idFor e).number.toInt = m.greatest + 1 ∧ ∀ id ∈ m.past, id.number.toInt < (m.idFor e).number.toInt := by
  obtain ⟨hzero, -, hle⟩ := le_foldr_max m.past
  change 0 ≤ m.greatest at hzero
  have hid : (m.idFor e).number.toInt = m.greatest + 1 := by
    unfold idFor
    rw [if_neg (by simp [ha])]
    exact EnvironmentId.exists_toInt (by change -0x80000000 ≤ _; omega) (Int.add_one_le_of_lt hfits)
  refine ⟨hid, fun id hm => ?_⟩
  rw [hid]
  exact Int.lt_add_one_of_le (hle id hm)

theorem clashes_eq_false_iff : m.clashes e = false ↔ ∀ edgeId, e.boundEdgeId? = some edgeId →
    ∀ id e', m.records.get? id = some e' → e'.boundEdgeId? = some edgeId → id = e.id := by
  unfold clashes
  cases e.boundEdgeId? with
  | none => simp
  | some edgeId =>
    rw [Option.isSome_some, Bool.true_and, List.any_eq_false]
    constructor
    · intro h _ hsame id e' hr he
      cases hsame
      by_contra hne
      exact h (id, e') ((Table.mem_entries_iff _ _ _).2 hr) (by simp [hne, he])
    · rintro h ⟨id, e'⟩ hm hp
      rw [Bool.and_eq_true, decide_eq_true_eq, decide_eq_true_eq] at hp
      exact hp.1 (h edgeId rfl id e' ((Table.mem_entries_iff _ _ _).1 hm) hp.2)

/-! ## The table that stands for a map -/

/-- Whether a table of environments holds the rows of the records of a map. -/
structure Stands (m : RecordMap) (t : EnvironmentTable) : Prop where
  sound : t.Sound
  record : ∀ id, t.record? id = m.records.get? id
  sequence : t.sequence = m.greatest
  held : ∀ id, m.records.contains id = true → id ∈ m.past

theorem stands_empty : empty.Stands .empty where
  sound := EnvironmentTable.sound_empty
  record _ := rfl
  sequence := rfl
  held _ h := by cases h

namespace Stands

variable (h : m.Stands t)
include h

theorem contains (id : EnvironmentId) : m.records.contains id = t.holds id := by
  rw [← h.sound.written.isSome_record?, h.record]
  rfl

/-- No row has an id past the greatest that was ever held. -/
theorem nextId? : t.nextId? = some (m.greatest + 1) := by
  obtain ⟨-, hmost, hle⟩ := le_foldr_max m.past
  change m.greatest ≤ 0x7fffffff at hmost
  have hkeys : ∀ n ∈ t.rows.keys, n ≤ t.sequence := by
    intro n hn
    obtain ⟨row, hr⟩ := Table.contains_iff.1 (Table.mem_keys_iff.1 hn)
    obtain ⟨id, -, -, rfl, -⟩ := h.sound.row hr
    rw [h.sequence]
    exact hle id (h.held id ((h.contains id).trans (Table.contains_iff.2 ⟨row, hr⟩)))
  have hused : t.rows.keys.foldl max t.sequence = m.greatest := by
    rw [← h.sequence]
    exact EnvironmentTable.foldl_max_of_le hkeys
  simp only [EnvironmentTable.nextId?, hused]
  rw [if_pos]
  change m.greatest < 0x7fffffffffffffff
  omega

/-- An edge id that a row carries is that of its record. -/
theorem exists_record (edgeId : String) (n : Int) :
    (∃ row, t.rows.get? n = some row ∧ row.edgeId = some edgeId) ↔
      ∃ id e, id.number.toInt = n ∧ m.records.get? id = some e ∧ e.boundEdgeId? = some edgeId := by
  constructor
  · rintro ⟨row, hr, he⟩
    obtain ⟨id, -, -, rfl, -⟩ := h.sound.row hr
    obtain ⟨e, -, hrecord⟩ := h.sound.written.row?_eq_some (Table.contains_iff.2 ⟨row, hr⟩)
    obtain ⟨-, -, hedge⟩ := h.sound.written.of_record? hrecord
    refine ⟨id, _, rfl, (h.record id).symm.trans hrecord, ?_⟩
    rw [← hedge]
    exact Option.bind_eq_some_iff.2 ⟨row, hr, he⟩
  · rintro ⟨id, e, rfl, hr, he⟩
    obtain ⟨-, -, hedge⟩ := h.sound.written.of_record? ((h.record id).trans hr)
    exact Option.bind_eq_some_iff.1 (hedge.trans he)

/-- A record clashes where its row collides; a new row may have any id that is not held. -/
theorem collides {n : Int} (hn : n = e.id.number.toInt ∨ t.rows.contains n = false ∧ t.holds e.id = false) :
    t.collides n (.ofEnvironment e) = m.clashes e := by
  have hfree : ∀ {k row}, t.rows.get? k = some row → (k = n ↔ k = e.id.number.toInt) := by
    intro k row hr
    rcases hn with rfl | ⟨hn, hid⟩
    · rfl
    · have hk : t.rows.contains k = true := Table.contains_iff.2 ⟨row, hr⟩
      constructor
      · rintro rfl
        rw [hn] at hk
        cases hk
      · rintro rfl
        cases hk.symm.trans hid
  rw [Bool.eq_iff_iff, ← Bool.not_eq_false, ← Bool.not_eq_false, not_iff_not,
    EnvironmentTable.collides_eq_false_iff, clashes_eq_false_iff]
  constructor
  · intro hc edgeId he id e' hr he'
    obtain ⟨row, hrow, hedge⟩ := (h.exists_record edgeId _).2 ⟨id, e', rfl, hr, he'⟩
    exact EnvironmentId.toInt_inj.1 ((hfree hrow).1 (hc h.sound.hasIndex edgeId he _ row hrow hedge))
  · intro hc _ edgeId he k row hrow hedge
    obtain ⟨id, e', rfl, hr, he'⟩ := (h.exists_record edgeId k).1 ⟨row, hrow, hedge⟩
    exact (hfree hrow).2 (EnvironmentId.toInt_inj.2 (hc edgeId he id e' hr he'))

/-- A new row may be put where none is, if its record clashes with none. -/
theorem put (ha : id.isAssigned = true) (hc : t.collides id.number.toInt (.ofEnvironment e) = false) :
    Stands ⟨m.records.insert id { e.stored with id }, id :: m.past⟩ (t.put id.number.toInt (.ofEnvironment e)) := by
  refine ⟨h.sound.put ha hc, fun i => ?_, ?_, fun i hi => ?_⟩
  · rw [EnvironmentTable.record?_put, Table.get?_insert_eq, h.record]
  · rw [greatest_cons, EnvironmentTable.put, h.sequence, Int.max_comm]
  · rw [Table.contains_insert, Bool.or_eq_true, decide_eq_true_eq] at hi
    rcases hi with rfl | hi
    · exact List.mem_cons_self
    · exact List.mem_cons_of_mem _ (h.held i hi)

/-- The row of a record may be replaced by one whose record clashes with none. -/
theorem replace (hid : m.records.contains e.id = true) (hc : t.collides e.id.number.toInt (.ofEnvironment e) = false) :
    Stands { m with records := m.records.insert e.id e.stored } (t.withRow e.id (.ofEnvironment e)) := by
  refine ⟨h.sound.withRow (h.sound.written.isAssigned ((h.contains e.id).symm.trans hid)) hc, fun i => ?_, h.sequence,
    fun i hi => ?_⟩
  · rw [EnvironmentTable.record?_withRow, Table.get?_insert_eq, h.record]
    rfl
  · rw [Table.contains_insert, Bool.or_eq_true, decide_eq_true_eq] at hi
    rcases hi with rfl | hi
    · exact h.held _ hid
    · exact h.held i hi

theorem erase (id : EnvironmentId) : Stands { m with records := m.records.erase id } (t.without id) := by
  refine ⟨h.sound.without id, fun i => ?_, h.sequence, fun i hi => ?_⟩
  · rw [EnvironmentTable.record?_without, Table.get?_erase_eq, h.record]
  · rw [Table.contains_erase, Bool.and_eq_true] at hi
    exact h.held i hi.2

/-- The records of the rows, in their order, are those of the map. -/
theorem records_eq : t.records = m.records.values := by
  have hascending : (t.records.map (fun e => (e.id, e))).Pairwise (fun a b => compare a.1 b.1 = .lt) :=
    List.pairwise_map.2 (h.sound.written.ascending_records.imp EnvironmentId.compare_eq_lt_iff.2)
  have hentries : t.records.map (fun e => (e.id, e)) = m.records.entries := by
    refine Table.eq_of_lookup hascending m.records.ascending (fun id => Option.ext (fun e => ?_))
    rw [Table.lookup_eq_some_iff hascending, Table.lookup_eq_some_iff m.records.ascending, Table.mem_entries_iff,
      ← h.record, List.mem_map]
    constructor
    · rintro ⟨e', he', hp⟩
      cases hp
      exact h.sound.written.mem_records.1 he'
    · intro hr
      obtain ⟨-, rfl, -⟩ := h.sound.written.of_record? hr
      exact ⟨e, h.sound.written.mem_records.2 hr, rfl⟩
  rw [Table.values, ← hentries, List.map_map]
  exact (List.map_id _).symm

theorem orderly : m.Orderly where
  canonical {id e} hr := by
    have hrecord := (h.record id).trans hr
    obtain ⟨hid, -, -⟩ := h.sound.written.of_record? hrecord
    obtain ⟨e₀, -, hrow⟩ := h.sound.written.row?_eq_some hid
    cases hrow.symm.trans hrecord
    exact ⟨rfl, e₀.stored_withId id⟩
  apart {i j e e' edgeId} hi hj he he' := by
    have hi' : t.edgeIdOf? i = some edgeId := (h.sound.written.of_record? ((h.record i).trans hi)).2.2.trans he
    have hj' : t.edgeIdOf? j = some edgeId := (h.sound.written.of_record? ((h.record j).trans hj)).2.2.trans he'
    exact h.sound.eq_of_edgeIdOf? hi' hj'
  ascending := by
    rw [← h.records_eq, List.pairwise_map]
    exact h.sound.written.ascending_records
  held hid := h.held _ hid
  next ha hfits hid := (lt_idFor ha hfits).2 _ hid

/-! ## Calls -/

open Attempt

variable (hd : d.environments = some t)
include hd

theorem adding (hfree : m.records.contains e.id = false)
    (hfits : e.id.isAssigned = false → m.clashes e = false → m.greatest < Decimal.signed32.most) :
    ∃ t', (Reply.stored <$> Database.add e : Database.Step Reply).run d =
        (if e.id.number.toInt < 0 ∧ m.clashes e = false then .crashed else (m.add e).1, d.withTable t') ∧
      (m.add e).2.Stands t' ∧ (∀ err, (m.add e).1 = .refused err → t' = t) := by
  have hfree' : t.holds e.id = false := (h.contains e.id).symm.trans hfree
  -- The id of the row is free, and where the record clashes with none it is that of the map.
  obtain ⟨n, hn, hrow, hid⟩ : ∃ n, Database.idFor? t e = some n ∧
      (n = e.id.number.toInt ∨ t.rows.contains n = false ∧ t.holds e.id = false) ∧
      (m.clashes e = false → n = (m.idFor e).number.toInt ∧ (n < 0 ↔ e.id.number.toInt < 0) ∧ n ≠ 0) := by
    cases ha : e.id.isAssigned with
    | true =>
      have hown : m.idFor e = e.id := if_pos ha
      exact ⟨_, Database.idFor?_of_isAssigned ha, .inl rfl,
        fun _ => ⟨by rw [hown], Iff.rfl, EnvironmentId.isAssigned_iff.1 ha⟩⟩
    | false =>
      have hnone : e.id.number.toInt = 0 := by
        by_contra hne
        rw [EnvironmentId.isAssigned_iff.2 hne] at ha
        cases ha
      have hzero : 0 ≤ m.greatest := (le_foldr_max m.past).1
      refine ⟨_, (Database.idFor?_of_not_isAssigned ha).trans h.nextId?, .inr ⟨?_, hfree'⟩, fun hc => ?_⟩
      · exact (EnvironmentTable.nextId?_free h.nextId?).2
      · exact ⟨(lt_idFor ha (hfits ha hc)).1.symm, by omega, by omega⟩
  rw [run_map, Database.run_add hd, hn]
  dsimp only
  rw [h.collides hrow]
  unfold RecordMap.add
  cases hc : m.clashes e with
  | true => exact ⟨t, by simp [Database.withTable_self hd], h, fun _ _ => rfl⟩
  | false =>
    obtain ⟨rfl, hneg, hne⟩ := hid hc
    have hcollides := (h.collides hrow).trans hc
    refine ⟨_, ?_, h.put (EnvironmentId.isAssigned_iff.2 hne) hcollides, nofun⟩
    have hmost : ¬ Decimal.signed32.most < (m.idFor e).number.toInt :=
      Int.not_lt.2 (Int.le_of_lt_add_one (m.idFor e).number.toInt_lt)
    simp only [Bool.false_eq_true, if_false, and_true, hneg, hmost, Int32.ofInt_toInt]
    split <;> rfl

/-- A call of the store answers what the map does, and leaves a table that stands for the map after it; one
that is refused leaves the table. -/
theorem step {call : Call} (hfits : m.Allows call) :
    ∃ t', call.step.run d = (if m.AddsNegative call then .crashed else (m.step call).1, d.withTable t') ∧
      (m.step call).2.Stands t' ∧ (∀ err, (m.step call).1 = .refused err → t' = t) := by
  have hsame := Database.withTable_self hd
  have hdone : ∀ {reply t'} err, (.done reply : Outcome StoreError Reply) = .refused err → t' = t := by
    intro _ _ _ he
    cases he
  cases call with
  | insert e =>
    rw [Call.step, run_map, Database.run_insert hd h.sound.written, ← h.contains, RecordMap.step]
    cases hid : m.records.contains e.id with
    | true => exact ⟨t, by simp [AddsNegative, Call.record?, hid, hsame], h, fun _ _ => rfl⟩
    | false =>
      obtain ⟨t', hr, ht'⟩ := h.adding hd hid (hfits e rfl)
      rw [run_map] at hr
      exact ⟨t', by simpa [AddsNegative, Call.record?, hid] using hr, ht'⟩
  | save e =>
    rw [Call.step, run_map, Database.run_save hd h.sound.written, ← h.contains, RecordMap.step]
    cases hid : m.records.contains e.id with
    | true =>
      obtain ⟨e', hrow, -⟩ := h.sound.written.row?_eq_some ((h.contains e.id).symm.trans hid)
      have hcollides : t.collides e.id.number.toInt (.ofEnvironment e) = m.clashes e := h.collides (.inl rfl)
      rw [Database.run_replace hd hrow, hcollides]
      unfold RecordMap.replace
      cases hc : m.clashes e with
      | true => exact ⟨t, by simp [AddsNegative, Call.record?, hid, hsame], h, fun _ _ => rfl⟩
      | false => exact ⟨_, by simp [AddsNegative, Call.record?, hid], h.replace hid (hcollides.trans hc), hdone⟩
    | false =>
      obtain ⟨t', hr, ht'⟩ := h.adding hd hid (hfits e rfl)
      rw [run_map] at hr
      exact ⟨t', by simpa [AddsNegative, Call.record?, hid] using hr, ht'⟩
  | delete id =>
    rw [Call.step, run_map, Database.run_delete hd, ← h.contains, RecordMap.step]
    cases hid : m.records.contains id with
    | true => exact ⟨_, by simp [AddsNegative, Call.record?], h.erase id, hdone⟩
    | false => exact ⟨t, by simp [AddsNegative, Call.record?, hsame], h, fun _ _ => rfl⟩
  | environment id =>
    rw [Call.step, run_map, Database.run_environment? hd h.sound.written, h.record]
    exact ⟨t, by simp [AddsNegative, Call.record?, RecordMap.step, hsame], h, fun _ _ => rfl⟩
  | all =>
    rw [Call.step, run_map, Database.run_all hd h.sound.written h.sound.fits, h.records_eq]
    exact ⟨t, by simp [AddsNegative, Call.record?, RecordMap.step, hsame], h, fun _ _ => rfl⟩

/-- Calls that are made one after the other. -/
theorem answers {calls : List Call} (hfits : m.Fits calls) :
    d.answers calls = m.told calls ∧ ∃ t', (d.after calls).environments = some t' ∧ (m.after calls).Stands t' := by
  induction calls generalizing m t d with
  | nil => exact ⟨rfl, t, hd, h⟩
  | cons call calls ih =>
    obtain ⟨t', hr, ht', -⟩ := h.step hd hfits.1
    rw [Database.answers, Database.after, hr]
    have htable : (d.withTable t').environments = some t' := rfl
    obtain ⟨hanswers, hafter⟩ := ih ht' htable hfits.2
    exact ⟨congrArg _ hanswers, hafter⟩

end Stands

end RecordMap

namespace Database

open Service (edge)

/-- A database that was just migrated answers what a map of records does, to all calls that leave the ids it
gives out with 32 bits, but that a call that adds a record under a negative id is cut off. A call that is
refused leaves the database as it was. -/
theorem answers_of_migrated {now : Instant} {d : Database} (hd : (migrate now).run blank = (.done (), d))
    {calls : List Call} (hfits : RecordMap.empty.Fits calls) :
    d.answers calls = RecordMap.empty.told calls ∧ (RecordMap.empty.after calls).Orderly ∧
      ∀ call err, (RecordMap.empty.after calls).Allows call → (call.step.run (d.after calls)).1 = .refused err →
        (call.step.run (d.after calls)).2 = d.after calls := by
  have hnow : ¬ now < .epoch := by
    intro hnow
    have hcrash : (migrate now).run blank = (.crashed, { blank with environments := some .empty }) := by
      simp [migrate, missing, blank, TableName.all, migrateTables, make, Attempt.run_bind, Attempt.orRefuse,
        EnvironmentTable.indexed?_empty, hnow]
    cases hd.symm.trans hcrash
  have hfresh : d = fresh := (Prod.mk.inj (hd.symm.trans (run_migrate_blank hnow))).2
  subst hfresh
  have hempty : fresh.environments = some .empty := rfl
  obtain ⟨hanswers, t, ht, hstands⟩ := RecordMap.stands_empty.answers hempty hfits
  refine ⟨hanswers, hstands.orderly, fun call err hallows hr => ?_⟩
  obtain ⟨t', hrun, -, hkept⟩ := hstands.step ht hallows
  rw [hrun] at hr ⊢
  dsimp only at hr
  split at hr
  · cases hr
  · rw [hkept err hr, withTable_self ht]

/-- A run of calls in which an edge id is refused that another record has, and an id is not given out again. -/
theorem answers_of_reused_id : ∃ d, (migrate (.ofSeconds 10)).run blank = (.done (), d) ∧
    d.answers [.insert (edge ⟨7⟩ "A"), .save (edge ⟨0⟩ "B"), .save (edge ⟨7⟩ "B"), .delete ⟨8⟩,
        .insert (edge ⟨0⟩ "B"), .all] =
      [.done (.stored (edge ⟨7⟩ "A")), .done (.stored (edge ⟨8⟩ "B")), .refused (.database .duplicateEdgeId),
        .done .deleted, .done (.stored (edge ⟨9⟩ "B")), .done (.listed [edge ⟨7⟩ "A", edge ⟨9⟩ "B"])] := by
  have hd : (migrate (.ofSeconds 10)).run blank = (.done (), fresh) := run_migrate_blank (by decide)
  have hfits : RecordMap.empty.Fits [.insert (edge ⟨7⟩ "A"), .save (edge ⟨0⟩ "B"), .save (edge ⟨7⟩ "B"), .delete ⟨8⟩,
      .insert (edge ⟨0⟩ "B"), .all] := by decide +kernel
  refine ⟨fresh, hd, (answers_of_migrated hd hfits).1.trans ?_⟩
  decide +kernel

/-- A record that is inserted under a negative id is stored, but the insertion is cut off. -/
theorem insert_negative_cut_off : ∃ d, (migrate (.ofSeconds 10)).run blank = (.done (), d) ∧
    (RecordMap.empty.step (.insert (edge ⟨-5⟩ "A"))).1 = .done (.stored (edge ⟨-5⟩ "A")) ∧
    d.answers [.insert (edge ⟨-5⟩ "A"), .environment ⟨-5⟩] = [.crashed, .done (.found (some (edge ⟨-5⟩ "A")))] :=
  ⟨fresh, run_migrate_blank (by decide), by decide +kernel, by decide +kernel⟩

end Database

end EdgeFleet
