import EdgeFleet.Proofs.Pool
/-!
# Lending ports

After any loans and returns the free ports and the lent ones part the range between them. An environment
keeps the port that it has, and else gets the one it wants, the one its number leads to, or the lowest,
whichever of these is free first; one that returns its port frees that port alone (`loans_of_requests`).

A `PortLedger` holds the two parts of the range as collections of their own, each of which is written at
every loan and return. It tells the same as the pool, which holds only what is lent.
-/

namespace EdgeFleet

/-- The ports of a range ascend. -/
theorem PortRange.pairwise_ports (r : PortRange) : r.ports.Pairwise (· < ·) := by
  refine List.pairwise_map.2 (List.pairwise_lt_range.imp_of_mem (fun {m n} hm hn hlt => ?_))
  rw [UInt16.lt_iff_toNat_lt, r.toNat_nth (List.mem_range.1 hm), r.toNat_nth (List.mem_range.1 hn)]
  omega

namespace PortPool

variable {p : PortPool} {id : EnvironmentId} {port : UInt16} {wanted : Option UInt16}

/-! ## Which port is lent -/

/-- The port that an environment's number leads to is found without going past the range. -/
theorem toNat_preferred (p : PortPool) (id : EnvironmentId) :
    (p.preferred id).toNat = p.range.first.toNat + id.number.toInt.natAbs % p.range.size :=
  p.range.toNat_nth (Nat.mod_lt _ p.range.size_pos)

theorem contains_preferred (p : PortPool) (id : EnvironmentId) : p.range.contains (p.preferred id) = true := by
  have ho := UInt16.le_iff_toNat_le.1 p.range.ordered
  have hm := Nat.mod_lt id.number.toInt.natAbs p.range.size_pos
  rw [PortRange.contains_iff, toNat_preferred]
  unfold PortRange.size at hm ⊢
  omega

/-- Whether a free port is the one that an environment without a port gets. -/
inductive Chosen (p : PortPool) (id : EnvironmentId) (wanted : Option UInt16) (port : UInt16) : Prop
  | wanted (hw : wanted = some port)
  | preferred (hw : ∀ q, wanted = some q → p.isFree q = false)
      (hp : port.toNat = p.range.first.toNat + id.number.toInt.natAbs % p.range.size)
  | lowest (hw : ∀ q, wanted = some q → p.isFree q = false)
      (hp : ∀ q : UInt16, q.toNat = p.range.first.toNat + id.number.toInt.natAbs % p.range.size → p.isFree q = false)
      (hmin : ∀ q, p.isFree q = true → port ≤ q)

/-- The first free port of the range is the lowest one. -/
theorem le_of_find? (h : p.range.ports.find? p.isFree = some port) {q : UInt16} (hq : p.isFree q = true) :
    port ≤ q := by
  obtain ⟨-, lower, higher, hports, hlower⟩ := List.find?_eq_some_iff_append.1 h
  have hmem : q ∈ p.range.ports := (p.range.mem_ports q).2 (isFree_iff.1 hq).1
  have hasc := p.range.pairwise_ports
  rw [hports] at hmem hasc
  rcases List.mem_append.1 hmem with hm | hm
  · exact absurd hq (by simpa using hlower q hm)
  · rcases List.mem_cons.1 hm with rfl | hm
    · exact UInt16.le_refl _
    · exact UInt16.le_of_lt ((List.pairwise_cons.1 (List.pairwise_append.1 hasc).2.1).1 q hm)

theorem chosen_of_choose (h : p.choose id wanted = some port) : p.Chosen id wanted port := by
  unfold choose at h
  split at h
  · rename_i q hw
    cases h
    exact .wanted (Option.filter_eq_some_iff.1 hw).1
  · rename_i hw
    have hw : ∀ q, wanted = some q → p.isFree q = false := fun q hq => by
      simpa using Option.filter_eq_none_iff.1 hw q hq
    split at h
    · cases h
      exact .preferred hw (p.toNat_preferred id)
    · rename_i hp
      refine .lowest hw (fun q hq => ?_) (fun q hq => le_of_find? h hq)
      obtain rfl : q = p.preferred id := UInt16.toNat_inj.1 (hq.trans (p.toNat_preferred id).symm)
      simpa using hp

/-! ## What a loan and a return change -/

theorem isFree_insert (hn : p.port? id = none) (port q : UInt16) :
    ({ p with lent := p.lent.insert id port } : PortPool).isFree q = (p.isFree q && decide (q ≠ port)) := by
  rw [Bool.eq_iff_iff, Bool.and_eq_true, decide_eq_true_eq, isFree_iff, isFree_iff]
  have hlent : ∀ i, ({ p with lent := p.lent.insert id port } : PortPool).port? i =
      if i = id then some port else p.port? i := fun i => Table.get?_insert_eq p.lent i id port
  simp only [hlent]
  constructor
  · rintro ⟨hr, hne⟩
    refine ⟨⟨hr, fun i hi => ?_⟩, fun e => hne id (by rw [if_pos rfl, e])⟩
    have hii : i ≠ id := fun e => by rw [e, hn] at hi; cases hi
    exact hne i (by rw [if_neg hii, hi])
  · rintro ⟨⟨hr, hne⟩, hq⟩
    refine ⟨hr, fun i hi => ?_⟩
    split at hi
    · exact hq (Option.some.inj hi).symm
    · exact hne i hi

/-- A port that is returned is free, and no other is that was not. -/
theorem isFree_takeBack (h : p.Sound) (id : EnvironmentId) (q : UInt16) :
    (p.takeBack id).isFree q = true ↔ p.isFree q = true ∨ p.port? id = some q := by
  simp only [isFree_iff, port?_takeBack]
  constructor
  · rintro ⟨hr, hne⟩
    refine or_iff_not_imp_right.2 (fun hid => ⟨hr, fun i hi => hne i ?_⟩)
    have hii : i ≠ id := fun e => hid (e ▸ hi)
    rw [if_neg hii, hi]
  · rintro (⟨hr, hne⟩ | hid)
    · refine ⟨hr, fun i hi => ?_⟩
      split at hi
      · cases hi
      · exact hne i hi
    · refine ⟨h.inRange hid, fun i hi => ?_⟩
      split at hi
      · cases hi
      · rename_i hii
        exact hii (h.injective hi hid)

/-- What a pool is after an environment returned its port: that port alone is free in addition. -/
structure Returned (p : PortPool) (id : EnvironmentId) (q : PortPool) : Prop where
  frees : ∀ port, q.isFree port = true ↔ p.isFree port = true ∨ p.port? id = some port
  lends : ∀ i, q.port? i = if i = id then none else p.port? i

theorem Sound.returned (h : p.Sound) (id : EnvironmentId) : p.Returned id (p.takeBack id) :=
  ⟨isFree_takeBack h id, port?_takeBack p id⟩

/-- How a pool answers an environment that asks for a port. -/
inductive Loan (p : PortPool) (id : EnvironmentId) (wanted : Option UInt16) : Option (UInt16 × PortPool) → Prop
  /-- The environment has a port, and keeps it. -/
  | held {port : UInt16} (h : p.port? id = some port) : Loan p id wanted (some (port, p))
  | lent {port : UInt16} {q : PortPool} (hn : p.port? id = none) (hf : p.isFree port = true)
      (hc : p.Chosen id wanted port) (hid : q.port? id = some port) (hothers : ∀ i, i ≠ id → q.port? i = p.port? i)
      (hfree : ∀ r, q.isFree r = (p.isFree r && decide (r ≠ port))) : Loan p id wanted (some (port, q))
  /-- The environment has no port, and all are lent. -/
  | refused (hn : p.port? id = none) (hall : ∀ port, p.range.contains port = true → ∃ i, p.port? i = some port) :
      Loan p id wanted none

theorem free_eq_nil_iff : p.free = [] ↔ ∀ port, p.range.contains port = true → ∃ i, p.port? i = some port := by
  rw [free, List.filter_eq_nil_iff]
  refine forall_congr' (fun port => ?_)
  rw [p.range.mem_ports, isFree_iff]
  exact imp_congr_right (fun hr => by simp [hr])

theorem loan (p : PortPool) (id : EnvironmentId) (wanted : Option UInt16) : p.Loan id wanted (p.lend id wanted) := by
  cases hl : p.lend id wanted with
  | none =>
    obtain ⟨hn, hfree⟩ := lend_eq_none_iff.1 hl
    exact .refused hn (free_eq_nil_iff.1 hfree)
  | some r =>
    cases hp : p.port? id with
    | some port =>
      rw [lend_of_port? hp] at hl
      cases hl
      exact .held hp
    | none =>
      rw [lend_of_none hp] at hl
      obtain ⟨port, hc, rfl⟩ := Option.map_eq_some_iff.1 hl
      exact .lent hp (choose_isFree hc) (chosen_of_choose hc) (Table.get?_insert_self p.lent id port)
        (fun i hi => Table.get?_insert_of_ne p.lent port hi) (isFree_insert hp port)

/-! ## Requests -/

/-- What may be asked of a pool: a port for an environment, that wants a certain one perhaps, or the port of
an environment back. -/
inductive Request where
  | lend (id : EnvironmentId) (wanted : Option UInt16)
  | takeBack (id : EnvironmentId)

/-- The pool after a request; one that is not granted a port changes nothing. -/
def serve (p : PortPool) : Request → PortPool
  | .lend id wanted => match p.lend id wanted with
    | some (_, q) => q
    | none => p
  | .takeBack id => p.takeBack id

/-- The pool after some requests, one after the other. -/
def after (p : PortPool) (requests : List Request) : PortPool := requests.foldl serve p

theorem serve_lend_of_some {q : PortPool} (h : p.lend id wanted = some (port, q)) : p.serve (.lend id wanted) = q := by
  simp only [serve, h]

theorem serve_lend_of_none (h : p.lend id wanted = none) : p.serve (.lend id wanted) = p := by
  simp only [serve, h]

theorem range_serve (p : PortPool) (r : Request) : (p.serve r).range = p.range := by
  cases r with
  | takeBack id => rfl
  | lend id wanted =>
    cases hl : p.lend id wanted with
    | none => rw [serve_lend_of_none hl]
    | some loan =>
      rw [serve_lend_of_some hl]
      exact range_lend hl

theorem Sound.serve (h : p.Sound) (r : Request) : (p.serve r).Sound := by
  cases r with
  | takeBack id => exact h.takeBack id
  | lend id wanted =>
    cases hl : p.lend id wanted with
    | none =>
      rw [serve_lend_of_none hl]
      exact h
    | some loan =>
      rw [serve_lend_of_some hl]
      cases hp : p.port? id with
      | some port =>
        rw [lend_of_port? hp] at hl
        cases hl
        exact h
      | none =>
        obtain ⟨hf, hq⟩ := lend_eq_some hp hl
        rw [hq]
        exact h.insert hf

/-- Whether the free ports and the lent ones part a range between them. -/
structure Parts (p : PortPool) (range : PortRange) : Prop where
  range_eq : p.range = range
  covers : ∀ port, range.contains port = true ↔ p.isFree port = true ∨ ∃ id, p.port? id = some port
  apart : ∀ {port id}, p.isFree port = true → p.port? id ≠ some port
  /-- No port is lent twice. -/
  injective : ∀ {id id' port}, p.port? id = some port → p.port? id' = some port → id = id'
  count : p.available = p.free.length ∧ p.free.length + p.lent.size = range.size

theorem Sound.parts (h : p.Sound) : p.Parts p.range where
  range_eq := rfl
  covers port := by
    constructor
    · intro hr
      by_cases hl : ∃ id, p.port? id = some port
      · exact .inr hl
      · exact .inl (isFree_iff.2 ⟨hr, fun id hid => hl ⟨id, hid⟩⟩)
    · rintro (hf | ⟨id, hid⟩)
      · exact (isFree_iff.1 hf).1
      · exact h.inRange hid
  apart hf := (isFree_iff.1 hf).2 _
  injective := h.injective
  count := ⟨h.available_eq, h.free_add_lent⟩

end PortPool

/-! ## A ledger of both parts -/

/-- A range with the ports that are free, and those that are lent. -/
structure PortLedger where
  range : PortRange
  free : Table UInt16 Unit
  lent : Table EnvironmentId UInt16

namespace PortLedger

open PortPool (Request)

variable {l : PortLedger} {p : PortPool}

def full (range : PortRange) : PortLedger := ⟨range, .ofList (range.ports.map (fun port => (port, ()))), ∅⟩

/-- The free port that an environment without one would get. -/
def choose (l : PortLedger) (id : EnvironmentId) (wanted : Option UInt16) : Option UInt16 :=
  match wanted.filter l.free.contains with
  | some port => some port
  | none =>
    let preferred := l.range.nth (id.number.toInt.natAbs % l.range.size)
    if l.free.contains preferred then some preferred else l.free.keys.head?

/-- Moves a port from the free ones to the lent ones, and tells which. -/
def lend (l : PortLedger) (id : EnvironmentId) (wanted : Option UInt16) : Option UInt16 × PortLedger :=
  match l.lent.get? id with
  | some port => (some port, l)
  | none => match l.choose id wanted with
    | some port => (some port, { l with free := l.free.erase port, lent := l.lent.insert id port })
    | none => (none, l)

/-- Moves the port of an environment back to the free ones. -/
def takeBack (l : PortLedger) (id : EnvironmentId) : PortLedger :=
  match l.lent.get? id with
  | some port => { l with free := l.free.insert port (), lent := l.lent.erase id }
  | none => l

def serve (l : PortLedger) : Request → PortLedger
  | .lend id wanted => (l.lend id wanted).2
  | .takeBack id => l.takeBack id

def after (l : PortLedger) (requests : List Request) : PortLedger := requests.foldl serve l

/-- Whether a ledger tells the same as a pool. -/
structure Tells (l : PortLedger) (p : PortPool) : Prop where
  range : l.range = p.range
  lent : l.lent = p.lent
  free : ∀ port, l.free.contains port = p.isFree port

theorem tells_full (range : PortRange) : (full range).Tells (.full range) where
  range := rfl
  lent := rfl
  free port := by
    have hkeys : ((range.ports.map (fun port => (port, ()))).map (·.1)).Nodup := by
      simpa [List.map_map, Function.comp_def] using range.nodup_ports
    have hnone : ∀ id, (PortPool.full range).port? id ≠ some port := nofun
    rw [Bool.eq_iff_iff, Table.contains_iff, PortPool.isFree_iff]
    change (∃ v, (Table.ofList _).get? port = some v) ↔ range.contains port = true ∧ _
    simp only [Table.get?_ofList hkeys, List.mem_map, Prod.mk.injEq, and_true, exists_eq_right, exists_const,
      range.mem_ports, hnone, ne_eq, not_false_eq_true, implies_true]

/-- The free ports of the ledger, in order, are those of the pool. -/
theorem Tells.keys_free (h : l.Tells p) : l.free.keys = p.free := by
  have hasc : l.free.keys.Pairwise (· < ·) :=
    List.pairwise_map.2 (l.free.ascending.imp (fun {a b} hab => Std.compare_eq_lt.1 hab))
  refine List.Perm.eq_of_pairwise (fun a b _ _ hab hba => ?_) hasc (p.range.pairwise_ports.filter _) ?_
  · exact absurd (UInt16.lt_trans hab hba) (UInt16.lt_irrefl a)
  · refine (List.perm_ext_iff_of_nodup l.free.nodup_keys (p.range.nodup_ports.filter _)).2 (fun port => ?_)
    rw [Table.mem_keys_iff, h.free, List.mem_filter, p.range.mem_ports]
    exact ⟨fun hf => ⟨(PortPool.isFree_iff.1 hf).1, hf⟩, And.right⟩

theorem Tells.choose_eq (h : l.Tells p) (id : EnvironmentId) (wanted : Option UInt16) :
    l.choose id wanted = p.choose id wanted := by
  have hfree : l.free.contains = p.isFree := funext h.free
  have hlowest : l.free.keys.head? = p.range.ports.find? p.isFree := by
    rw [h.keys_free, PortPool.free, List.head?_filter]
  simp only [choose, PortPool.choose, PortPool.preferred, hfree, hlowest, h.range]
  cases wanted.filter p.isFree <;> rfl

/-- Both answer alike, and go on telling the same. -/
theorem Tells.lend (h : l.Tells p) (id : EnvironmentId) (wanted : Option UInt16) :
    (l.lend id wanted).1 = (p.lend id wanted).map (·.1) ∧
    (l.serve (.lend id wanted)).Tells (p.serve (.lend id wanted)) := by
  have hlent : l.lent.get? id = p.port? id := by rw [h.lent]; rfl
  change _ ∧ (l.lend id wanted).2.Tells _
  cases hp : p.port? id with
  | some port =>
    rw [PortPool.serve_lend_of_some (PortPool.lend_of_port? hp wanted), PortPool.lend_of_port? hp]
    simp only [PortLedger.lend, hlent, hp]
    exact ⟨rfl, h⟩
  | none =>
    have hlend := PortPool.lend_of_none hp wanted
    simp only [PortLedger.lend, hlent, hp, h.choose_eq]
    cases hc : p.choose id wanted with
    | none =>
      rw [hc] at hlend
      rw [PortPool.serve_lend_of_none hlend, hlend]
      exact ⟨rfl, h⟩
    | some port =>
      rw [hc] at hlend
      rw [PortPool.serve_lend_of_some hlend, hlend]
      refine ⟨rfl, h.range, congrArg (·.insert id port) h.lent, fun q => ?_⟩
      change (l.free.erase port).contains q = _
      rw [Table.contains_erase, h.free, PortPool.isFree_insert hp, Bool.and_comm, ← decide_not]

theorem Tells.takeBack (h : l.Tells p) (hs : p.Sound) (id : EnvironmentId) :
    (l.serve (.takeBack id)).Tells (p.serve (.takeBack id)) := by
  have hlent : l.lent.get? id = p.port? id := by rw [h.lent]; rfl
  change (l.takeBack id).Tells (p.takeBack id)
  have hfree := PortPool.isFree_takeBack hs id
  unfold PortLedger.takeBack
  rw [hlent]
  cases hp : p.port? id with
  | some port =>
    refine ⟨h.range, congrArg (·.erase id) h.lent, fun q => ?_⟩
    change (l.free.insert port ()).contains q = _
    rw [Table.contains_insert, h.free, Bool.eq_iff_iff, Bool.or_eq_true, decide_eq_true_eq, hfree, hp,
      Option.some.injEq, or_comm, eq_comm (a := q)]
  | none =>
    have hsame : p.takeBack id = p := by
      refine PortPool.ext_port? rfl (fun i => ?_)
      rw [PortPool.port?_takeBack]
      split
      · rename_i hi
        rw [hi, hp]
      · rfl
    rw [hsame]
    exact h

theorem Tells.serve (h : l.Tells p) (hs : p.Sound) (r : Request) : (l.serve r).Tells (p.serve r) := by
  cases r with
  | lend id wanted => exact (h.lend id wanted).2
  | takeBack id => exact h.takeBack hs id

theorem Tells.after (h : l.Tells p) (hs : p.Sound) (requests : List Request) :
    (p.after requests).Sound ∧ (p.after requests).range = p.range ∧ (l.after requests).Tells (p.after requests) := by
  induction requests generalizing l p with
  | nil => exact ⟨hs, rfl, h⟩
  | cons r requests ih =>
    obtain ⟨hsound, hrange, htells⟩ := ih (h.serve hs r) (hs.serve r)
    exact ⟨hsound, hrange.trans (p.range_serve r), htells⟩

end PortLedger

namespace PortPool

/-- After any requests to the pool of a range: the free ports and the lent ones part the range, and no port is
lent twice. An environment that asks for a port keeps the one it has, and else gets the wanted one, the one its
number leads to, which is a port of the range, or the lowest, whichever is free first; it gets none exactly if
it has none and all are lent. What is returned is the port of that environment alone. A ledger of both parts
tells the same throughout and gives the same answers. -/
theorem loans_of_requests (range : PortRange) (requests : List Request) :
    ((full range).after requests).Parts range ∧
    (∀ id wanted, ((full range).after requests).Loan id wanted (((full range).after requests).lend id wanted)) ∧
    (∀ id : EnvironmentId, range.first.toNat + id.number.toInt.natAbs % range.size ≤ range.last.toNat) ∧
    (∀ id, ((full range).after requests).Returned id (((full range).after requests).takeBack id)) ∧
    ((PortLedger.full range).after requests).Tells ((full range).after requests) ∧
    (∀ id wanted, (((PortLedger.full range).after requests).lend id wanted).1 =
      (((full range).after requests).lend id wanted).map (·.1)) := by
  obtain ⟨hsound, hrange, htells⟩ := (PortLedger.tells_full range).after (sound_full range) requests
  have hparts := hsound.parts
  rw [hrange] at hparts
  refine ⟨hparts, fun id wanted => loan _ id wanted, fun id => ?_, hsound.returned, htells,
    fun id wanted => (htells.lend id wanted).1⟩
  have hpreferred := PortRange.contains_iff.1 (contains_preferred (full range) id)
  rw [toNat_preferred] at hpreferred
  exact hpreferred.2

/-- The least number leads to a port like any other. -/
example : ((full ⟨9000, 9009, by decide⟩).lend ⟨Int32.minValue⟩ (some 8999)).map (·.1) = some 9008 := by decide

end PortPool

end EdgeFleet
