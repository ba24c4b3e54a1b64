import EdgeFleet.Port.Pool
import EdgeFleet.Proofs.Table
import Mathlib.Data.List.Perm.Basic
/-!
# What a pool lends

A pool is `Sound` when every lent port lies in the range and no two environments hold one port.
Lending and taking back keep it so, and then the free ports and the lent ones make up the range.
-/

namespace EdgeFleet

namespace PortRange

/-! ## The ports of a range -/

theorem contains_iff {r : PortRange} {port : UInt16} :
    r.contains port = true ↔ r.first.toNat ≤ port.toNat ∧ port.toNat ≤ r.last.toNat := by
  simp [contains, UInt16.le_iff_toNat_le]

theorem size_pos (r : PortRange) : 0 < r.size := Nat.succ_pos _

theorem toNat_nth (r : PortRange) {n : Nat} (h : n < r.size) : (r.nth n).toNat = r.first.toNat + n := by
  have ho := UInt16.le_iff_toNat_le.1 r.ordered
  have hl := r.last.toNat_lt
  unfold size at h
  rw [nth, UInt16.toNat_ofNat']
  exact Nat.mod_eq_of_lt (by omega)

theorem mem_ports (r : PortRange) (port : UInt16) : port ∈ r.ports ↔ r.contains port = true := by
  have ho := UInt16.le_iff_toNat_le.1 r.ordered
  simp only [ports, List.mem_map, List.mem_range, contains_iff]
  constructor
  · rintro ⟨n, hn, rfl⟩
    rw [toNat_nth r hn]
    unfold size at hn
    omega
  · rintro ⟨h1, h2⟩
    have hn : port.toNat - r.first.toNat < r.size := by unfold size; omega
    refine ⟨port.toNat - r.first.toNat, hn, UInt16.toNat_inj.1 ?_⟩
    rw [toNat_nth r hn]
    omega

theorem nodup_ports (r : PortRange) : r.ports.Nodup := by
  refine (List.nodup_map_iff_inj_on List.nodup_range).2 (fun m hm n hn h => ?_)
  have e := congrArg UInt16.toNat h
  rw [toNat_nth r (List.mem_range.1 hm), toNat_nth r (List.mem_range.1 hn)] at e
  omega

theorem length_ports (r : PortRange) : r.ports.length = r.size := by
  simp [ports]

end PortRange

namespace PortPool

variable {p : PortPool} {id : EnvironmentId} {port : UInt16}

/-- Lent ports lie in the range, and each is lent to one environment. -/
structure Sound (p : PortPool) : Prop where
  inRange : ∀ {id port}, p.port? id = some port → p.range.contains port = true
  injective : ∀ {id id' port}, p.port? id = some port → p.port? id' = some port → id = id'

/-- Two pools that lend the same out of one range are equal. -/
theorem ext_port? {q : PortPool} (hr : q.range = p.range) (hp : ∀ id, q.port? id = p.port? id) : q = p := by
  cases p
  cases q
  cases hr
  exact congrArg _ (Table.ext_get? hp)

theorem sound_full (range : PortRange) : (full range).Sound where
  inRange h := by simp [port?, full] at h
  injective h := by simp [port?, full] at h

/-! ## Free ports -/

theorem mem_values_lent : port ∈ p.lent.values ↔ ∃ id, p.port? id = some port := by
  simp only [Table.values, List.mem_map, port?, ← Table.mem_entries_iff]
  constructor
  · rintro ⟨⟨id, port⟩, hm, rfl⟩; exact ⟨id, hm⟩
  · rintro ⟨id, hm⟩; exact ⟨(id, port), hm, rfl⟩

theorem isFree_iff : p.isFree port = true ↔ p.range.contains port = true ∧ ∀ id, p.port? id ≠ some port := by
  simp [isFree, mem_values_lent]

/-- The free ports in ascending order. -/
def free (p : PortPool) : List UInt16 := p.range.ports.filter p.isFree

/-- No port is lent twice. -/
theorem Sound.nodup_lent (h : p.Sound) : p.lent.values.Nodup := by
  have hk : p.lent.entries.Nodup := by
    refine p.lent.ascending.imp (fun {a b} hab e => ?_)
    rw [e] at hab
    simp [Std.ReflOrd.compare_self] at hab
  apply (List.nodup_map_iff_inj_on hk).2
  rintro ⟨id, port⟩ hm ⟨id', port'⟩ hm' (rfl : port = port')
  rw [h.injective ((Table.mem_entries_iff _ _ _).1 hm) ((Table.mem_entries_iff _ _ _).1 hm')]

/-- The free ports and the lent ones make up the range. -/
theorem Sound.free_add_lent (h : p.Sound) : p.free.length + p.lent.size = p.range.size := by
  -- No port occurs twice on either side, so it is enough that the same ports occur.
  have hp : (p.range.ports.filter (fun port => !p.isFree port)).Perm p.lent.values := by
    refine (List.perm_ext_iff_of_nodup (p.range.nodup_ports.filter _) h.nodup_lent).2 (fun port => ?_)
    rw [List.mem_filter, p.range.mem_ports, mem_values_lent]
    simp only [isFree, Bool.not_and, Bool.not_not, Bool.or_eq_true, Bool.not_eq_true', List.contains_iff_mem,
      mem_values_lent]
    constructor
    · rintro ⟨hc, hn | hl⟩
      · rw [hc] at hn; cases hn
      · exact hl
    · rintro ⟨id, hid⟩
      exact ⟨h.inRange hid, .inr ⟨id, hid⟩⟩
  have hs : p.lent.size = (p.range.ports.filter (fun port => !p.isFree port)).length := by
    rw [hp.length_eq]
    simp [Table.size, Table.values]
  rw [hs, free, ← p.range.length_ports, ← List.countP_eq_length_filter, ← List.countP_eq_length_filter]
  simpa using (List.length_eq_countP_add_countP (l := p.range.ports) p.isFree).symm

/-- What the pool counts as free is the number of free ports. -/
theorem Sound.available_eq (h : p.Sound) : p.available = p.free.length := by
  have := h.free_add_lent
  unfold available
  omega

/-! ## Lending and taking back -/

theorem choose_isFree {wanted : Option UInt16} (h : p.choose id wanted = some port) : p.isFree port = true := by
  unfold choose at h
  split at h
  · rename_i port' hw
    cases h
    exact (Option.filter_eq_some_iff.1 hw).2
  · split at h
    · cases h; assumption
    · exact List.find?_some h

theorem lend_of_port? (h : p.port? id = some port) (wanted : Option UInt16) : p.lend id wanted = some (port, p) := by
  simp only [lend, h]

theorem lend_of_none (h : p.port? id = none) (wanted : Option UInt16) :
    p.lend id wanted = (p.choose id wanted).map (fun port => (port, { p with lent := p.lent.insert id port })) := by
  simp only [lend, h]

/-- An environment without a port is lent a free one. -/
theorem lend_eq_some {wanted : Option UInt16} {q : PortPool} (hn : p.port? id = none)
    (h : p.lend id wanted = some (port, q)) :
    p.isFree port = true ∧ q = { p with lent := p.lent.insert id port } := by
  rw [lend_of_none hn] at h
  obtain ⟨port', hc, he⟩ := Option.map_eq_some_iff.1 h
  cases he
  exact ⟨choose_isFree hc, rfl⟩

/-- There is nothing to lend only to an environment without a port, and only where no port is free. -/
theorem lend_eq_none_iff {wanted : Option UInt16} : p.lend id wanted = none ↔ p.port? id = none ∧ p.free = [] := by
  have hfree : p.free = [] ↔ ∀ port, p.isFree port = false := by
    rw [free, List.filter_eq_nil_iff]
    refine ⟨fun h port => ?_, fun h port _ => by simp [h port]⟩
    by_contra hf
    rw [Bool.not_eq_false] at hf
    exact h port ((p.range.mem_ports port).2 (isFree_iff.1 hf).1) hf
  cases hp : p.port? id with
  | some port => simp [lend_of_port? hp]
  | none =>
    rw [lend_of_none hp, Option.map_eq_none_iff, hfree]
    refine ⟨fun h => ⟨rfl, fun port => ?_⟩, fun h => ?_⟩
    · unfold choose at h
      split at h
      · cases h
      · split at h
        · cases h
        · by_contra hf
          rw [Bool.not_eq_false] at hf
          exact List.find?_eq_none.1 h port ((p.range.mem_ports port).2 (isFree_iff.1 hf).1) hf
    · cases hc : p.choose id wanted with
      | none => rfl
      | some port => exact absurd (choose_isFree hc) (by simp [h.2 port])

theorem range_lend {wanted : Option UInt16} {q : PortPool} (h : p.lend id wanted = some (port, q)) :
    q.range = p.range := by
  cases hp : p.port? id with
  | some port' =>
    rw [lend_of_port? hp] at h
    cases h
    rfl
  | none => rw [(lend_eq_some hp h).2]

theorem Sound.insert (h : p.Sound) (hf : p.isFree port = true) :
    Sound { p with lent := p.lent.insert id port } := by
  obtain ⟨hr, hne⟩ := isFree_iff.1 hf
  -- Whoever holds a port holds the new one or held it before.
  have key : ∀ i q, ({ p with lent := p.lent.insert id port } : PortPool).port? i = some q →
      i = id ∧ q = port ∨ i ≠ id ∧ p.port? i = some q := by
    intro i q hq
    rw [port?, Table.get?_insert_eq] at hq
    split at hq
    · cases hq; exact .inl ⟨by assumption, rfl⟩
    · exact .inr ⟨by assumption, hq⟩
  constructor
  · intro i q hq
    rcases key i q hq with ⟨-, rfl⟩ | ⟨-, hq⟩
    · exact hr
    · exact h.inRange hq
  · intro i i' q hq hq'
    rcases key i q hq with ⟨e, rfl⟩ | ⟨-, hp⟩ <;> rcases key i' _ hq' with ⟨e', e''⟩ | ⟨-, hp'⟩
    · rw [e, e']
    · exact absurd hp' (hne i')
    · exact absurd (e'' ▸ hp) (hne i)
    · exact h.injective hp hp'

theorem port?_takeBack (p : PortPool) (id i : EnvironmentId) :
    (p.takeBack id).port? i = if i = id then none else p.port? i :=
  Table.get?_erase_eq p.lent i id

theorem Sound.takeBack (h : p.Sound) (id : EnvironmentId) : (p.takeBack id).Sound := by
  have key : ∀ i q, (p.takeBack id).port? i = some q → p.port? i = some q := by
    intro i q hq
    rw [port?_takeBack] at hq
    split at hq
    · cases hq
    · exact hq
  exact ⟨fun hq => h.inRange (key _ _ hq), fun hq hq' => h.injective (key _ _ hq) (key _ _ hq')⟩

end PortPool

end EdgeFleet
