import EdgeFleet.Proofs.Json.Scan
/-!
# Written numbers read back

A number is written as its digits without leading zeros behind a sign. Reading ends where neither a
digit nor the start of a fraction or of an exponent follows (`EndsNumber`), and gives the number.
-/

namespace EdgeFleet.Json

/-- Whether what follows a whole number ends it. -/
def EndsNumber (s : List UInt8) : Prop :=
  ∀ b r, s = b :: r → Numeral.digit? b = none ∧ b ≠ byte '.' ∧ b ≠ byte 'e' ∧ b ≠ byte 'E'

theorem endsNumber_nil : EndsNumber [] := by
  intro b r h
  cases h

theorem endsNumber_cons {b : UInt8}
    (h : Numeral.digit? b = none ∧ b ≠ byte '.' ∧ b ≠ byte 'e' ∧ b ≠ byte 'E') (r : List UInt8) :
    EndsNumber (b :: r) := by
  intro b' r' e
  cases e
  exact h

namespace Numeral

/-! ## Digits -/

/-- The decimal digits of a number, the first one not zero unless it is the only one. -/
def digitsOf (n : Nat) : List Nat := if n < 10 then [n] else digitsOf (n / 10) ++ [n % 10]
termination_by n

theorem digits_eq_map (n : Nat) : Decimal.digits n = (digitsOf n).map Decimal.digit := by
  induction n using digitsOf.induct with
  | case1 n h => rw [Decimal.digits, digitsOf, if_pos h, if_pos h]; rfl
  | case2 n h ih => rw [Decimal.digits, digitsOf, if_neg h, if_neg h, List.map_append, ih]; rfl

theorem lt_of_mem_digitsOf {n d : Nat} (h : d ∈ digitsOf n) : d < 10 := by
  induction n using digitsOf.induct with
  | case1 n hn =>
    rw [digitsOf, if_pos hn, List.mem_singleton] at h
    omega
  | case2 n hn ih =>
    rw [digitsOf, if_neg hn, List.mem_append, List.mem_singleton] at h
    rcases h with h | h
    · exact ih h
    · omega

theorem number_digitsOf (n : Nat) : number (digitsOf n) = n := by
  induction n using digitsOf.induct with
  | case1 n hn => rw [digitsOf, if_pos hn]; exact Nat.zero_add n
  | case2 n hn ih =>
    rw [digitsOf, if_neg hn, number, List.foldl_append]
    change number (digitsOf (n / 10)) * 10 + n % 10 = n
    rw [ih]
    omega

theorem digitsOf_eq_cons (n : Nat) : ∃ d r, digitsOf n = d :: r ∧ (d = 0 → r = []) := by
  have hpos : ∀ n, 0 < n → ∃ d r, digitsOf n = d :: r ∧ d ≠ 0 := by
    intro n hn
    induction n using digitsOf.induct with
    | case1 n h => exact ⟨n, [], by rw [digitsOf, if_pos h], by omega⟩
    | case2 n h ih =>
      obtain ⟨d, r, he, hd⟩ := ih (by omega)
      exact ⟨d, r ++ [n % 10], by rw [digitsOf, if_neg h, he, List.cons_append], hd⟩
  rcases Nat.eq_zero_or_pos n with rfl | hn
  · exact ⟨0, [], by rw [digitsOf, if_pos (by decide)], fun _ => rfl⟩
  · obtain ⟨d, r, he, hd⟩ := hpos n hn
    exact ⟨d, r, he, fun h => absurd h hd⟩

theorem digit_spec {d : Nat} (h : d < 10) :
    (Decimal.digit d).toNat < 128 ∧ digit? (byte (Decimal.digit d)) = some d := by
  have hall : ∀ d < 10, (Decimal.digit d).toNat < 128 ∧ digit? (byte (Decimal.digit d)) = some d := by decide
  exact hall d h

theorem run_of_ends {rest : List UInt8} (h : EndsNumber rest) : run rest = ([], rest) := by
  cases rest with
  | nil => rfl
  | cons b r => rw [run, (h b r rfl).1]

theorem run_digits {ds : List Nat} (hds : ∀ d ∈ ds, d < 10) {rest : List UInt8} (h : EndsNumber rest) :
    run (bytes (ds.map Decimal.digit) ++ rest) = (ds, rest) := by
  induction ds with
  | nil => exact run_of_ends h
  | cons d ds ih =>
    have hd := digit_spec (hds d List.mem_cons_self)
    rw [List.map_cons, bytes_cons_ascii hd.1, List.cons_append, run, hd.2]
    simp only [ih (fun e he => hds e (List.mem_cons_of_mem d he))]

/-! ## Numbers -/

theorem wholeDigits_digits (f : Fault) (n : Nat) {rest : List UInt8} (h : EndsNumber rest) :
    wholeDigits f (bytes (Decimal.digits n) ++ rest) = .ok (digitsOf n, rest) := by
  obtain ⟨d, r, he, hz⟩ := digitsOf_eq_cons n
  have hrun := run_digits (fun e => lt_of_mem_digitsOf (n := n)) h
  have hd := digit_spec (lt_of_mem_digitsOf (he ▸ List.mem_cons_self : d ∈ digitsOf n))
  have hsome : someDigits f (bytes (Decimal.digits n) ++ rest) = .ok (digitsOf n, rest) := by
    rw [digits_eq_map, ← hrun, he, List.map_cons, bytes_cons_ascii hd.1, List.cons_append, someDigits, hd.2]
    rfl
  unfold wholeDigits
  rw [hsome, he]
  cases d with
  | zero => rw [hz rfl]; rfl
  | succ d => rfl

theorem fractionDigits_of_ends (f : Fault) {rest : List UInt8} (h : EndsNumber rest) :
    fractionDigits f rest = .ok ([], rest) := by
  cases rest with
  | nil => rfl
  | cons b r => rw [fractionDigits, if_neg (h b r rfl).2.1]

theorem exponentPart_of_ends (f : Fault) {rest : List UInt8} (h : EndsNumber rest) :
    exponentPart f rest = .ok (none, rest) := by
  cases rest with
  | nil => rfl
  | cons b r =>
    obtain ⟨-, -, he, hE⟩ := h b r rfl
    rw [exponentPart, if_neg (fun hc => hc.elim he hE)]

/-- The parts of a written number. -/
def ofInt (n : Int) : Numeral := ⟨decide (n < 0), digitsOf n.natAbs, [], none⟩

/-- How a written number starts: with the minus sign or with a digit. -/
theorem write_eq_cons (n : Int) : ∃ c s, Decimal.write n = c :: s ∧ c.toNat < 128 ∧
    (byte c = byte '-' ∧ n < 0 ∧ s = Decimal.digits n.natAbs ∨
      byte c ≠ byte '-' ∧ ¬ n < 0 ∧ (digit? (byte c)).isSome = true ∧ c :: s = Decimal.digits n.natAbs) := by
  unfold Decimal.write
  split
  · rename_i h
    exact ⟨'-', _, rfl, by decide, .inl ⟨rfl, h, rfl⟩⟩
  · rename_i h
    obtain ⟨d, hd, r, hr⟩ := Decimal.head_digits n.natAbs
    have hspec := digit_spec hd
    refine ⟨Decimal.digit d, r, hr, hspec.1, .inr ⟨fun he => ?_, h, by rw [hspec.2]; rfl, hr.symm⟩⟩
    rw [he] at hspec
    cases hspec.2

theorem read_write (f : Fault) (n : Int) {rest : List UInt8} (h : EndsNumber rest) :
    read f (bytes (Decimal.write n) ++ rest) = .ok (ofInt n, rest) := by
  have hwhole := wholeDigits_digits f n.natAbs h
  obtain ⟨c, s, hw, hc, hs⟩ := write_eq_cons n
  rw [hw, bytes_cons_ascii hc, List.cons_append, read, ofInt]
  rcases hs with ⟨hm, hn, rfl⟩ | ⟨hm, hn, -, hs⟩
  · simp only [hm, if_true, hn, decide_true, hwhole, fractionDigits_of_ends f h, exponentPart_of_ends f h,
      bind, Except.bind]
  · rw [← hs, bytes_cons_ascii hc, List.cons_append] at hwhole
    simp only [if_neg hm, hn, decide_false, hwhole, fractionDigits_of_ends f h, exponentPart_of_ends f h,
      bind, Except.bind]

/-- A number of 64 bits, signed or not, has its value. -/
theorem value_ofInt {n : Int} (hl : -0x8000000000000000 ≤ n) (hm : n < 0x10000000000000000) :
    (ofInt n).value = .ok (some n) := by
  have hlt : number (digitsOf n.natAbs) < 0x10000000000000000 := by rw [number_digitsOf]; omega
  unfold value ofInt
  simp only [true_and]
  rw [if_pos hlt, number_digitsOf]
  by_cases hn : n < 0
  · rw [if_neg (by simp [hn]), if_pos (by omega)]
    exact congrArg (fun m => Except.ok (some m)) (by omega)
  · rw [if_pos (by simp [hn])]
    exact congrArg (fun m => Except.ok (some m)) (by omega)

end Numeral

end EdgeFleet.Json
