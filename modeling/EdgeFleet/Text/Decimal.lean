/-!
# Decimal integer literals

A literal is a non-empty run of decimal digits behind an optional sign: `+` always, `-` only where
the range has negative numbers; leading zeros are allowed. Reading goes from left to right and
reports the first character at which the literal stops being one, or leaves its range.
`read_write` says that what is written reads back, `holds_of_read` that what is read is in the range.
-/

namespace EdgeFleet.Decimal

/-- Why a text is no literal of a range. -/
inductive Fault where
  | noDigits
  | notADigit
  | tooLarge
  | tooSmall
deriving DecidableEq, Repr

def Fault.message : Fault → String
  | noDigits => "cannot parse integer from empty string"
  | notADigit => "invalid digit found in string"
  | tooLarge => "number too large to fit in target type"
  | tooSmall => "number too small to fit in target type"

/-- The integers that a literal may denote. -/
structure Range where
  least : Int
  most : Int
deriving DecidableEq, Repr

/-- The range of 16-bit numbers. -/
def word16 : Range := ⟨0, 0xffff⟩

/-- The range of 32-bit numbers. -/
def word32 : Range := ⟨0, 0xffffffff⟩

/-- The range of 64-bit numbers. -/
def word64 : Range := ⟨0, 0xffffffffffffffff⟩

/-- The range of signed 32-bit numbers. -/
def signed32 : Range := ⟨-0x80000000, 0x7fffffff⟩

/-- The range of signed 64-bit numbers. -/
def signed64 : Range := ⟨-0x8000000000000000, 0x7fffffffffffffff⟩

/-- Whether a number lies in the range. -/
def Range.holds (r : Range) (n : Int) : Bool := r.least ≤ n && n ≤ r.most

/-- The value of a decimal digit. -/
def digitValue? (c : Char) : Option Nat :=
  if 48 ≤ c.toNat ∧ c.toNat ≤ 57 then some (c.toNat - 48) else none

/-- The digit of a value below ten. -/
def digit (n : Nat) : Char := Char.ofNat (48 + n)

/-- Reads digits behind a number already read, which may not pass `limit`. -/
def readDigits (limit : Nat) (overflow : Fault) : Nat → List Char → Except Fault Nat
  | acc, [] => .ok acc
  | acc, c :: r =>
    match digitValue? c with
    | none => .error .notADigit
    | some d =>
      if acc * 10 + d ≤ limit then readDigits limit overflow (acc * 10 + d) r else .error overflow

/-- Reads a number that is not negative. -/
def readMagnitude (limit : Nat) (overflow : Fault) (s : List Char) : Except Fault Nat :=
  if s.isEmpty then .error .notADigit else readDigits limit overflow 0 s

/-- Reads a literal of a range. -/
def read (r : Range) : List Char → Except Fault Int
  | [] => .error .noDigits
  | c :: s =>
    if c = '+' then (readMagnitude r.most.toNat .tooLarge s).map (fun (n : Nat) => (n : Int))
    else if c = '-' ∧ r.least < 0 then
      (readMagnitude r.least.natAbs .tooSmall s).map (fun (n : Nat) => -(n : Int))
    else (readMagnitude r.most.toNat .tooLarge (c :: s)).map (fun (n : Nat) => (n : Int))

/-- The digits of a number, without leading zeros. -/
def digits (n : Nat) : List Char :=
  if n < 10 then [digit n] else digits (n / 10) ++ [digit (n % 10)]
termination_by n

/-- The canonical literal of a number. -/
def write (n : Int) : List Char :=
  if n < 0 then '-' :: digits n.natAbs else digits n.natAbs

def text (n : Int) : String := String.ofList (write n)

/-! ## What is written reads back -/

theorem digitValue?_digit {n : Nat} (h : n < 10) : digitValue? (digit n) = some n := by
  have : ∀ n < 10, digitValue? (digit n) = some n := by decide
  exact this n h

theorem readDigits_append (limit : Nat) (f : Fault) (s t : List Char) (acc : Nat) :
    readDigits limit f acc (s ++ t) = (readDigits limit f acc s).bind (fun n => readDigits limit f n t) := by
  induction s generalizing acc with
  | nil => rfl
  | cons c s ih =>
    simp only [List.cons_append, readDigits]
    split
    · rfl
    · split
      · exact ih _
      · rfl

theorem readDigits_digits (limit : Nat) (f : Fault) (n : Nat) (h : n ≤ limit) :
    readDigits limit f 0 (digits n) = .ok n := by
  induction n using Nat.strongRecOn with
  | ind n ih =>
    rw [digits]
    by_cases h10 : n < 10
    · rw [if_pos h10]
      simp [readDigits, digitValue?_digit h10, h]
    · rw [if_neg h10, readDigits_append, ih (n / 10) (by omega) (by omega)]
      have e : n / 10 * 10 + n % 10 = n := by omega
      simp [Except.bind, readDigits, digitValue?_digit (Nat.mod_lt n (by decide : 0 < 10)), e, h]

theorem digits_ne_nil (n : Nat) : digits n ≠ [] := by
  rw [digits]
  split <;> simp

theorem head_digits (n : Nat) : ∃ d < 10, ∃ r, digits n = digit d :: r := by
  induction n using Nat.strongRecOn with
  | ind n ih =>
    rw [digits]
    by_cases h10 : n < 10
    · exact ⟨n, h10, [], by simp [h10]⟩
    · obtain ⟨d, hd, r, hr⟩ := ih (n / 10) (by omega)
      exact ⟨d, hd, r ++ [digit (n % 10)], by simp [h10, hr]⟩

theorem digit_ne_sign {d : Nat} (h : d < 10) : digit d ≠ '+' ∧ digit d ≠ '-' := by
  have : ∀ d < 10, digit d ≠ '+' ∧ digit d ≠ '-' := by decide
  exact this d h

/-- The canonical literal of a number of the range reads back as that number. -/
theorem read_write (r : Range) (n : Int) (h : r.holds n = true) : read r (write n) = .ok n := by
  simp only [Range.holds, Bool.and_eq_true, decide_eq_true_eq] at h
  obtain ⟨hl, hm⟩ := h
  unfold write
  by_cases hn : n < 0
  · rw [if_pos hn]
    have hne : (digits n.natAbs).isEmpty = false := by simp [digits_ne_nil]
    have hb : n.natAbs ≤ r.least.natAbs := by omega
    have hs : r.least < 0 := by omega
    simp only [read, Char.reduceEq, if_false, hs, and_self, if_true, readMagnitude, hne,
      Bool.false_eq_true, readDigits_digits _ _ _ hb, Except.map]
    exact congrArg _ (by omega)
  · rw [if_neg hn]
    obtain ⟨d, hd, t, ht⟩ := head_digits n.natAbs
    obtain ⟨hp, hq⟩ := digit_ne_sign hd
    have hb : n.natAbs ≤ r.most.toNat := by omega
    rw [ht]
    simp only [read, hp, hq, if_false, false_and]
    rw [← ht]
    simp only [readMagnitude, List.isEmpty_iff, digits_ne_nil, if_false, readDigits_digits _ _ _ hb,
      Except.map]
    exact congrArg _ (by omega)

/-! ## What is read lies in the range -/

theorem readDigits_le {limit : Nat} {f : Fault} {s : List Char} {acc n : Nat} (hacc : acc ≤ limit)
    (h : readDigits limit f acc s = .ok n) : n ≤ limit := by
  induction s generalizing acc with
  | nil =>
    obtain rfl : acc = n := Except.ok.inj h
    exact hacc
  | cons c s ih =>
    unfold readDigits at h
    split at h
    · cases h
    · split at h
      · rename_i hle
        exact ih hle h
      · cases h

theorem readMagnitude_le {limit : Nat} {f : Fault} {s : List Char} {n : Nat} (h : readMagnitude limit f s = .ok n) :
    n ≤ limit := by
  unfold readMagnitude at h
  split at h
  · cases h
  · exact readDigits_le (Nat.zero_le _) h

/-- What is read of a range that has zero lies in the range. -/
theorem holds_of_read {r : Range} {s : List Char} {n : Int} (hl : r.least ≤ 0) (hm : 0 ≤ r.most)
    (h : read r s = .ok n) : r.holds n = true := by
  have hmap : ∀ {limit : Nat} {f : Fault} {t : List Char} {g : Nat → Int},
      (readMagnitude limit f t).map g = .ok n → ∃ m ≤ limit, g m = n := by
    intro limit f t g hg
    cases ht : readMagnitude limit f t with
    | error fault => rw [ht] at hg; cases hg
    | ok m =>
      rw [ht] at hg
      exact ⟨m, readMagnitude_le ht, Except.ok.inj hg⟩
  rw [Range.holds, Bool.and_eq_true, decide_eq_true_eq, decide_eq_true_eq]
  unfold read at h
  split at h
  · cases h
  · split at h
    · obtain ⟨m, hle, rfl⟩ := hmap h
      omega
    · split at h
      · obtain ⟨m, hle, rfl⟩ := hmap h
        omega
      · obtain ⟨m, hle, rfl⟩ := hmap h
        omega

end EdgeFleet.Decimal
