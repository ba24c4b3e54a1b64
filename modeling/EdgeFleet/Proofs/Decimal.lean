import EdgeFleet.Proofs.Attempt
import EdgeFleet.Text.Decimal
/-!
# Which texts are literals

A literal of a range is a run of decimal digits behind an optional sign whose number the range holds
(`Denotes`). Reading accepts exactly the literals, with the number that they denote.
-/

namespace EdgeFleet.Decimal

/-- Whether a text is a literal of a range and denotes a number: at least one digit, with leading zeros allowed,
behind a sign or none. A minus sign is one only where the range has negative numbers. -/
inductive Denotes (r : Range) : List Char → Int → Prop
  | unsigned {ds : List Char} (hne : ds ≠ []) (hd : ∀ c ∈ ds, c.isDigit = true)
      (hr : r.holds (Nat.ofDigitChars 10 ds 0) = true) : Denotes r ds (Nat.ofDigitChars 10 ds 0)
  | plus {ds : List Char} (hne : ds ≠ []) (hd : ∀ c ∈ ds, c.isDigit = true)
      (hr : r.holds (Nat.ofDigitChars 10 ds 0) = true) : Denotes r ('+' :: ds) (Nat.ofDigitChars 10 ds 0)
  | minus {ds : List Char} (hneg : r.least < 0) (hne : ds ≠ []) (hd : ∀ c ∈ ds, c.isDigit = true)
      (hr : r.holds (-Nat.ofDigitChars 10 ds 0) = true) : Denotes r ('-' :: ds) (-Nat.ofDigitChars 10 ds 0)

theorem holds_toInt (n : Int32) : signed32.holds n.toInt = true := by
  rw [Range.holds, Bool.and_eq_true, decide_eq_true_eq, decide_eq_true_eq]
  exact ⟨n.le_toInt, Int.le_sub_one_of_lt n.toInt_lt⟩

theorem isDigit_iff (c : Char) : c.isDigit = true ↔ 48 ≤ c.toNat ∧ c.toNat ≤ 57 := by
  simp [Char.isDigit, UInt32.le_iff_toNat_le]

theorem digitValue?_of_isDigit {c : Char} (h : c.isDigit = true) : digitValue? c = some (c.toNat - 48) :=
  if_pos ((isDigit_iff c).1 h)

theorem digitValue?_of_not_isDigit {c : Char} (h : c.isDigit = false) : digitValue? c = none := by
  refine if_neg (fun hc => ?_)
  rw [(isDigit_iff c).2 hc] at h
  cases h

/-- A literal has no character but digits and a sign. -/
theorem Denotes.not_mem {r : Range} {s : List Char} {n : Int} {c : Char} (h : Denotes r s n) (hc : c.isDigit = false)
    (hplus : c ≠ '+') (hminus : c ≠ '-') : c ∉ s := by
  have hnot : ∀ {ds : List Char}, (∀ d ∈ ds, d.isDigit = true) → c ∉ ds := fun hd hm =>
    Bool.false_ne_true (hc.symm.trans (hd c hm))
  cases h with
  | unsigned _ hd => exact hnot hd
  | plus _ hd => exact fun hm => (List.mem_cons.1 hm).elim hplus (hnot hd)
  | minus _ _ hd => exact fun hm => (List.mem_cons.1 hm).elim hminus (hnot hd)

theorem Denotes.holds {r : Range} {s : List Char} {n : Int} (h : Denotes r s n) : r.holds n = true := by
  cases h with
  | unsigned _ _ hr => exact hr
  | plus _ _ hr => exact hr
  | minus _ _ _ hr => exact hr

/-- More digits make no smaller number. -/
theorem le_ofDigitChars (ds : List Char) (acc : Nat) : acc ≤ Nat.ofDigitChars 10 ds acc := by
  induction ds generalizing acc with
  | nil => exact Nat.le_refl acc
  | cons c ds ih =>
    rw [Nat.ofDigitChars_cons]
    have := ih (10 * acc + (c.toNat - '0'.toNat))
    omega

/-- Digits behind a number that was read are read as long as there are digits only, and the limit is kept. -/
theorem readDigits_eq_ok_iff {limit : Nat} {f : Fault} {ds : List Char} {acc n : Nat} (hacc : acc ≤ limit) :
    readDigits limit f acc ds = .ok n ↔
      (∀ c ∈ ds, c.isDigit = true) ∧ Nat.ofDigitChars 10 ds acc = n ∧ n ≤ limit := by
  induction ds generalizing acc with
  | nil =>
    constructor
    · intro h
      obtain rfl := Except.ok.inj h
      exact ⟨by simp, rfl, hacc⟩
    · rintro ⟨-, rfl, -⟩
      rfl
  | cons c ds ih =>
    have hstep : 10 * acc + (c.toNat - '0'.toNat) = acc * 10 + (c.toNat - 48) := by
      rw [Nat.mul_comm]
      rfl
    rw [Nat.ofDigitChars_cons, hstep, List.forall_mem_cons, readDigits]
    cases hc : c.isDigit with
    | false => simp [digitValue?_of_not_isDigit hc]
    | true =>
      simp only [digitValue?_of_isDigit hc, true_and]
      by_cases hle : acc * 10 + (c.toNat - 48) ≤ limit
      · rw [if_pos hle]
        exact ih hle
      · rw [if_neg hle]
        -- What passed the limit once stays beyond it.
        constructor
        · rintro ⟨⟩
        rintro ⟨-, rfl, hn⟩
        exact absurd (Nat.le_trans (le_ofDigitChars ds _) hn) hle

theorem readMagnitude_eq_ok_iff {limit : Nat} {f : Fault} {ds : List Char} {n : Nat} :
    readMagnitude limit f ds = .ok n ↔
      ds ≠ [] ∧ (∀ c ∈ ds, c.isDigit = true) ∧ Nat.ofDigitChars 10 ds 0 = n ∧ n ≤ limit := by
  unfold readMagnitude
  cases ds with
  | nil => simp
  | cons c ds =>
    rw [List.isEmpty_cons, if_neg Bool.false_ne_true, readDigits_eq_ok_iff (Nat.zero_le limit)]
    simp

/-- A text is read as a number of a range with zero exactly when it is a literal that denotes the number. -/
theorem read_eq_ok_iff {r : Range} (hl : r.least ≤ 0) (hm : 0 ≤ r.most) {s : List Char} {n : Int} :
    read r s = .ok n ↔ Denotes r s n := by
  have hupper : ∀ m : Nat, r.holds m = true ↔ m ≤ r.most.toNat := by
    intro m
    rw [Range.holds, Bool.and_eq_true, decide_eq_true_eq, decide_eq_true_eq]
    omega
  have hlower : ∀ m : Nat, r.holds (-m) = true ↔ m ≤ r.least.natAbs := by
    intro m
    rw [Range.holds, Bool.and_eq_true, decide_eq_true_eq, decide_eq_true_eq]
    omega
  constructor
  · intro h
    cases s with
    | nil => cases h
    | cons c ds =>
      rw [read] at h
      by_cases hplus : c = '+'
      · rw [if_pos hplus] at h
        obtain ⟨m, hread, rfl⟩ := map_eq_ok_iff.1 h
        obtain ⟨hne, hd, rfl, hle⟩ := readMagnitude_eq_ok_iff.1 hread
        exact hplus ▸ .plus hne hd ((hupper _).2 hle)
      rw [if_neg hplus] at h
      by_cases hminus : c = '-' ∧ r.least < 0
      · rw [if_pos hminus] at h
        obtain ⟨m, hread, rfl⟩ := map_eq_ok_iff.1 h
        obtain ⟨hne, hd, rfl, hle⟩ := readMagnitude_eq_ok_iff.1 hread
        exact hminus.1 ▸ .minus hminus.2 hne hd ((hlower _).2 hle)
      rw [if_neg hminus] at h
      obtain ⟨m, hread, rfl⟩ := map_eq_ok_iff.1 h
      obtain ⟨hne, hd, rfl, hle⟩ := readMagnitude_eq_ok_iff.1 hread
      exact .unsigned hne hd ((hupper _).2 hle)
  · intro h
    cases h with
    | @unsigned ds hne hd hr =>
      obtain ⟨c, ds, rfl⟩ := List.exists_cons_of_ne_nil hne
      have hread := readMagnitude_eq_ok_iff (f := .tooLarge).2 ⟨hne, hd, rfl, (hupper _).1 hr⟩
      have hsign : c ≠ '+' ∧ c ≠ '-' := by
        have hc := (isDigit_iff c).1 (hd c List.mem_cons_self)
        constructor <;> rintro rfl <;> revert hc <;> decide
      rw [read, if_neg hsign.1, if_neg (fun hc => hsign.2 hc.1), hread]
      rfl
    | plus hne hd hr =>
      rw [read, if_pos rfl, readMagnitude_eq_ok_iff.2 ⟨hne, hd, rfl, (hupper _).1 hr⟩]
      rfl
    | minus hneg hne hd hr =>
      rw [read, if_neg (by decide), if_pos ⟨rfl, hneg⟩, readMagnitude_eq_ok_iff.2 ⟨hne, hd, rfl, (hlower _).1 hr⟩]
      rfl

/-! ## Literals that are written -/

theorem digits_eq_toDigits (n : Nat) : digits n = Nat.toDigits 10 n := by
  have hdigit : ∀ n < 10, digit n = n.digitChar := by decide
  induction n using Nat.strongRecOn with
  | ind n ih =>
    rw [digits]
    split
    · rename_i h
      rw [Nat.toDigits_of_lt_base h, hdigit n h]
    · rename_i h
      rw [Nat.toDigits_of_base_le (by decide) (by omega), ih (n / 10) (by omega), hdigit (n % 10) (by omega)]

theorem isDigit_of_mem_digits {n : Nat} {c : Char} (h : c ∈ digits n) : c.isDigit = true :=
  Nat.isDigit_of_mem_toDigits (by decide) (by decide) (digits_eq_toDigits n ▸ h)

/-- The canonical literal of a number is its standard text. -/
theorem toList_toString (n : Int) : (toString n).toList = write n := by
  change (Int.repr n).toList = _
  unfold write
  cases n with
  | ofNat m =>
    rw [if_neg (by simp), digits_eq_toDigits]
    exact Nat.toList_repr
  | negSucc m =>
    rw [if_pos (by omega), digits_eq_toDigits]
    change ("-" ++ Nat.repr (m + 1)).toList = _
    rw [String.toList_append, Nat.toList_repr]
    rfl

/-- The canonical literal of a number of a range with zero is a literal of it. -/
theorem denotes_write {r : Range} (hl : r.least ≤ 0) (hm : 0 ≤ r.most) {n : Int} (h : r.holds n = true) :
    Denotes r (write n) n :=
  (read_eq_ok_iff hl hm).1 (read_write r n h)

/-! ## Words -/

theorem holds_word16_iff {n : Int} : word16.holds n = true ↔ 0 ≤ n ∧ n ≤ 0xffff := by
  rw [Range.holds, Bool.and_eq_true, decide_eq_true_eq, decide_eq_true_eq]
  rfl

theorem holds_toNat (n : UInt16) : word16.holds n.toNat = true := by
  have hlt := n.toNat_lt
  exact holds_word16_iff.2 (by omega)

theorem toNat_ofInt {n : Int} (h : word16.holds n = true) : ((UInt16.ofInt n).toNat : Int) = n := by
  obtain ⟨hl, hm⟩ := holds_word16_iff.1 h
  rw [UInt16.ofInt, UInt16.toNat_ofNat']
  omega

theorem ofInt_toNat (n : UInt16) : UInt16.ofInt n.toNat = n := by
  have hback := toNat_ofInt (holds_toNat n)
  exact UInt16.toNat_inj.1 (by omega)

end EdgeFleet.Decimal
