import EdgeFleet.Proofs.Attempt
import EdgeFleet.Store.Row
/-!
# Rows read back

The row of a record reads back under any id of 32 bits, as the record with that id, without an empty
edge id, and with its numbers of seconds clamped to 31 bits (`Environment.stored`).
-/

namespace EdgeFleet

/-! ## Columns -/

/-- A number of seconds as a row keeps it. -/
def clamped (n : UInt32) : UInt32 := UInt32.ofNat (min n.toNat 0x7fffffff)

theorem clamped_clamped (n : UInt32) : clamped (clamped n) = clamped n := by
  unfold clamped
  congr 1
  rw [UInt32.toNat_ofNat_of_lt' (by change _ < 4294967296; omega)]
  omega

/-- A number of seconds is kept as it is if it has 31 bits. -/
theorem clamped_eq_self_iff {n : UInt32} : clamped n = n ↔ n.toNat ≤ 0x7fffffff := by
  unfold clamped
  rw [← UInt32.toNat_inj, UInt32.toNat_ofNat_of_lt' (by change _ < 4294967296; omega)]
  omega

/-- Whatever is read from a column of seconds needs no clamping. -/
theorem clamped_secondsOf (n : Int32) : clamped (secondsOf n) = secondsOf n := by
  have hn : n.toInt < 0x80000000 := n.toInt_lt
  have hsize : n.toInt.toNat < UInt32.size := by change _ < 4294967296; omega
  rw [clamped_eq_self_iff, secondsOf, UInt32.toNat_ofNat_of_lt' hsize]
  omega

namespace Figure

theorem readInt32_whole {n : Int} (h : Decimal.signed32.least ≤ n) (h' : n ≤ Decimal.signed32.most) :
    (whole n).readInt32 = .ok (Int32.ofInt n) := by
  unfold readInt32
  rw [read]
  change (if _ then _ else _) = _
  rw [if_neg (Int.not_lt.2 h), if_neg (Int.not_lt.2 h')]

theorem readInt32_toInt (n : Int32) : (whole n.toInt).readInt32 = .ok n := by
  rw [readInt32_whole n.le_toInt (Int.le_of_lt_add_one n.toInt_lt), Int32.ofInt_toInt]

theorem readInt64_toInt (n : Int64) : (whole n.toInt).readInt64 = .ok n := by
  change Except.ok (Int64.ofInt n.toInt) = _
  rw [Int64.ofInt_toInt]

theorem readBool_ofBool (b : Bool) : (ofBool b).readBool = .ok b := by
  cases b <;> rfl

theorem ofSeconds_clamped (n : UInt32) : ofSeconds (clamped n) = ofSeconds n := by
  unfold ofSeconds clamped
  rw [UInt32.toNat_ofNat_of_lt' (by change _ < 4294967296; omega)]
  congr 1
  omega

/-- A number of seconds is read back clamped. -/
theorem readInt32_ofSeconds (n : UInt32) : ∃ m, (ofSeconds n).readInt32 = .ok m ∧ secondsOf m = clamped n := by
  have hn := n.toNat_lt
  refine ⟨_, readInt32_whole ?_ ?_, ?_⟩
  · change -0x80000000 ≤ _
    omega
  · change _ ≤ (0x7fffffff : Int)
    omega
  · unfold secondsOf clamped
    rw [Int32.toInt_ofInt_of_le (by omega) (by omega)]
    congr 1
    omega

end Figure

/-! ## Environments -/

/-- The record that the row of a record reads back as. -/
def Environment.stored (e : Environment) : Environment :=
  { e.normalize with
    checkInInterval := clamped e.checkInInterval
    polling :=
      { e.polling with
        pingInterval := clamped e.polling.pingInterval
        snapshotInterval := clamped e.polling.snapshotInterval
        commandInterval := clamped e.polling.commandInterval } }

namespace Environment

theorem boundEdgeId?_normalize (e : Environment) : e.normalize.boundEdgeId? = e.boundEdgeId? := by
  unfold normalize boundEdgeId?
  rw [Option.filter_filter]
  simp

theorem normalize_normalize (e : Environment) : e.normalize.normalize = e.normalize := by
  rw [normalize, boundEdgeId?_normalize]
  rfl

theorem stored_normalize (e : Environment) : e.normalize.stored = e.stored := by
  unfold stored
  rw [normalize_normalize]
  rfl

theorem boundEdgeId?_stored (e : Environment) : e.stored.boundEdgeId? = e.boundEdgeId? :=
  e.boundEdgeId?_normalize

theorem normalize_stored (e : Environment) : e.stored.normalize = e.stored := by
  rw [normalize, boundEdgeId?_stored]
  rfl

theorem stored_stored (e : Environment) : e.stored.stored = e.stored := by
  rw [stored, normalize_stored]
  simp only [stored, clamped_clamped]

theorem stored_withId (e : Environment) (id : EnvironmentId) :
    ({ e.stored with id } : Environment).stored = { e.stored with id } :=
  congrArg (fun x : Environment => { x with id }) e.stored_stored

end Environment

namespace EnvironmentRow

theorem ofEnvironment_normalize (e : Environment) : ofEnvironment e.normalize = ofEnvironment e := by
  unfold ofEnvironment
  rw [Environment.boundEdgeId?_normalize]
  rfl

/-- The stored form of a record has the same row. -/
theorem ofEnvironment_stored (e : Environment) : ofEnvironment e.stored = ofEnvironment e := by
  unfold ofEnvironment
  rw [Environment.boundEdgeId?_stored]
  simp only [Environment.stored, Figure.ofSeconds_clamped]
  rfl

/-- What is written reads back. -/
theorem read_ofEnvironment (e : Environment) (id : EnvironmentId) :
    (ofEnvironment e).read id.number.toInt = .ok (.ok { e.stored with id }) := by
  obtain ⟨checkIn, hcheckIn, echeckIn⟩ := Figure.readInt32_ofSeconds e.checkInInterval
  obtain ⟨ping, hping, eping⟩ := Figure.readInt32_ofSeconds e.polling.pingInterval
  obtain ⟨snapshot, hsnapshot, esnapshot⟩ := Figure.readInt32_ofSeconds e.polling.snapshotInterval
  obtain ⟨command, hcommand, ecommand⟩ := Figure.readInt32_ofSeconds e.polling.commandInterval
  have hkind : (Figure.whole e.kind.code).readInt32 = .ok (Int32.ofInt e.kind.code) ∧
      (Int32.ofInt e.kind.code).toInt = e.kind.code := by
    cases e.kind <;> exact ⟨rfl, rfl⟩
  have hstatus : (Figure.whole e.status.code).readInt32 = .ok (Int32.ofInt e.status.code) ∧
      (Int32.ofInt e.status.code).toInt = e.status.code := by
    cases e.status <;> exact ⟨rfl, rfl⟩
  have hedge : e.boundEdgeId?.filter (fun t => t ≠ "") = e.boundEdgeId? := e.boundEdgeId?_normalize
  unfold ofEnvironment read
  simp only [Figure.readInt32_toInt, Figure.readInt64_toInt, Figure.readBool_ofBool, hcheckIn, hping, hsnapshot,
    hcommand, hkind.1, hstatus.1, inColumn, readTime]
  change Except.ok _ = _
  rw [hkind.2, hstatus.2, EnvironmentKind.ofCode_code, EnvironmentStatus.ofCode_code]
  change Except.ok (Except.ok _) = _
  rw [hedge, echeckIn, eping, esnapshot, ecommand]
  rfl

/-- The record of a row, if it can be read. -/
def record? (id : Int) (r : EnvironmentRow) : Option Environment := (r.read id).toOption.bind Except.toOption

theorem record?_ofEnvironment (e : Environment) (id : EnvironmentId) :
    (ofEnvironment e).record? id.number.toInt = some { e.stored with id } := by
  unfold record?
  rw [read_ofEnvironment]
  rfl

theorem toEnvironment_ofEnvironment (e : Environment) (id : EnvironmentId) :
    (ofEnvironment e).toEnvironment id.number.toInt = .ok { e.stored with id } := by
  unfold toEnvironment
  rw [read_ofEnvironment]
  rfl

/-- No row is read under an id of more than 32 bits. -/
theorem read_of_wide (row : EnvironmentRow) {n : Int} (hn : Decimal.signed32.most < n) :
    ∃ fault, row.read n = .error fault := by
  have hid : (Figure.whole n).readInt32 = .error (.outOfRange .tooLarge) := by
    unfold Figure.readInt32
    rw [Figure.read]
    change (if _ then _ else _) = _
    rw [if_neg (Int.not_lt.2 (Int.le_trans (by decide) (Int.le_of_lt hn))), if_pos hn]
  unfold read
  rw [hid]
  exact ⟨_, rfl⟩

/-- Whatever a row holds, its record has the id that the row is kept under. -/
theorem id_of_read {row : EnvironmentRow} {e : Environment} {id : EnvironmentId}
    (h : row.read id.number.toInt = .ok (.ok e)) : e.id = id := by
  unfold read at h
  obtain ⟨i, hi, h⟩ := bind_eq_ok_iff.1 h
  -- The other columns and the two codes have no part in the id.
  iterate 12 obtain ⟨_, -, h⟩ := bind_eq_ok_iff.1 h
  replace h := Except.ok.inj h
  iterate 2 obtain ⟨_, -, h⟩ := bind_eq_ok_iff.1 h
  rw [Figure.readInt32_toInt] at hi
  cases hi
  cases h
  rfl

end EnvironmentRow

end EdgeFleet
