import EdgeFleet.Text.Utf8
/-!
# What is written in UTF-8 reads back

The bytes of a character read back as that character with nothing left of them, whatever follows, so
the bytes of a text read back as the text. No other bytes are read as a text (`decode_eq_ok_iff`).
-/

namespace EdgeFleet.Utf8

theorem encode_nil : encode [] = [] := rfl

@[simp] theorem encode_cons (c : Char) (s : List Char) : encode (c :: s) = encodeChar c ++ encode s := rfl

@[simp] theorem encode_append (s t : List Char) : encode (s ++ t) = encode s ++ encode t :=
  List.flatMap_append

/-- An ASCII character is its own byte. -/
theorem encodeChar_of_ascii {c : Char} (h : c.toNat < 128) : encodeChar c = [c.toNat.toUInt8] := by
  unfold encodeChar
  exact if_pos h

theorem toNat_toUInt8 {n : Nat} (h : n < 256) : n.toUInt8.toNat = n :=
  Nat.mod_eq_of_lt h

/-- A continuation byte holds six bits. -/
theorem continuation?_of_lt {n : Nat} (h : n < 64) : continuation? (0x80 + n).toUInt8 = some n := by
  unfold continuation?
  rw [toNat_toUInt8 (by omega), if_pos (by omega)]
  exact congrArg some (by omega)

/-- The number of a character is no surrogate, and below the end of the plane of characters. -/
theorem toNat_char (c : Char) : c.toNat < 0xD800 ∨ 0xE000 ≤ c.toNat ∧ c.toNat < 0x110000 := by
  rcases c.valid with h | ⟨h, h'⟩
  · exact .inl h
  · exact .inr ⟨h, h'⟩

theorem secondFits_three {n : Nat} (h : 0x800 ≤ n) (h' : n < 0xD800 ∨ 0xE000 ≤ n ∧ n < 0x10000) :
    secondFits (0xE0 + n / 4096) (0x80 + n / 64 % 64) = true := by
  unfold secondFits
  split
  · simp; omega
  · split
    · simp; omega
    · split
      · omega
      · split
        · omega
        · simp; omega

theorem secondFits_four {n : Nat} (h : 0x10000 ≤ n) (h' : n < 0x110000) :
    secondFits (0xF0 + n / 262144) (0x80 + n / 4096 % 64) = true := by
  unfold secondFits
  split
  · omega
  · split
    · omega
    · split
      · simp; omega
      · split
        · simp; omega
        · simp; omega

/-- A character is read off the front of its bytes, and they are all that is taken. -/
theorem step_encodeChar (c : Char) (rest : List UInt8) :
    ∃ b r n, encodeChar c ++ rest = b :: r ∧ step b r = .ok (c, n) ∧ r.drop (n - 1) = rest := by
  have hc := toNat_char c
  have hofNat : ∀ m, m = c.toNat → Char.ofNat m = c := fun m h => h ▸ Char.ofNat_toNat c
  rcases (show c.toNat < 0x80 ∨ 0x80 ≤ c.toNat ∧ c.toNat < 0x800 ∨ 0x800 ≤ c.toNat ∧ c.toNat < 0x10000 ∨
    0x10000 ≤ c.toNat by omega) with h | h | h | h
  · refine ⟨_, _, 1, by rw [encodeChar_of_ascii h]; rfl, ?_, rfl⟩
    unfold step
    rw [toNat_toUInt8 (by omega), if_pos h, hofNat _ rfl]
  · refine ⟨(0xC0 + c.toNat / 64).toUInt8, (0x80 + c.toNat % 64).toUInt8 :: rest, 2, ?_, ?_, rfl⟩
    · unfold encodeChar
      rw [if_neg (by omega), if_pos h.2]
      rfl
    · unfold step
      rw [toNat_toUInt8 (by omega), if_neg (by omega), if_pos (by omega)]
      simp only [continuation?_of_lt (show c.toNat % 64 < 64 by omega)]
      rw [hofNat _ (by omega)]
  · refine ⟨(0xE0 + c.toNat / 4096).toUInt8,
      (0x80 + c.toNat / 64 % 64).toUInt8 :: (0x80 + c.toNat % 64).toUInt8 :: rest, 3, ?_, ?_, rfl⟩
    · unfold encodeChar
      rw [if_neg (by omega), if_neg (by omega), if_pos h.2]
      rfl
    · unfold step
      rw [toNat_toUInt8 (by omega), if_neg (by omega), if_neg (by omega), if_pos (by omega)]
      simp only [toNat_toUInt8 (show 0x80 + c.toNat / 64 % 64 < 256 by omega),
        secondFits_three h.1 (by omega), if_true, continuation?_of_lt (show c.toNat % 64 < 64 by omega)]
      rw [hofNat _ (by omega)]
  · refine ⟨(0xF0 + c.toNat / 262144).toUInt8,
      (0x80 + c.toNat / 4096 % 64).toUInt8 :: (0x80 + c.toNat / 64 % 64).toUInt8 ::
      (0x80 + c.toNat % 64).toUInt8 :: rest, 4, ?_, ?_, rfl⟩
    · unfold encodeChar
      rw [if_neg (by omega), if_neg (by omega), if_neg (by omega)]
      rfl
    · unfold step
      rw [toNat_toUInt8 (by omega), if_neg (by omega), if_neg (by omega), if_neg (by omega), if_pos (by omega)]
      simp only [toNat_toUInt8 (show 0x80 + c.toNat / 4096 % 64 < 256 by omega),
        secondFits_four h (by omega), if_true, continuation?_of_lt (show c.toNat / 64 % 64 < 64 by omega),
        continuation?_of_lt (show c.toNat % 64 < 64 by omega)]
      rw [hofNat _ (by omega)]

theorem decodeFrom_encode (index : Nat) (s : List Char) : decodeFrom index (encode s) = .ok s := by
  induction s generalizing index with
  | nil => rw [encode_nil, decodeFrom]
  | cons c s ih =>
    obtain ⟨b, r, n, he, hs, hr⟩ := step_encodeChar c (encode s)
    rw [encode_cons, he, decodeFrom, hs]
    simp only [hr, ih]
    rfl

/-- The bytes of a text read back as the text. -/
@[simp] theorem decode_encode (s : List Char) : decode (encode s) = .ok s := decodeFrom_encode 0 s

theorem encode_injective {s t : List Char} (h : encode s = encode t) : s = t := by
  have hs : decode (encode s) = .ok s := decode_encode s
  rw [h, decode_encode] at hs
  exact (Except.ok.inj hs).symm

/-! ## Nothing else is read -/

theorem toNat_ofNat {n : Nat} (h : n < 0xD800 ∨ 0xE000 ≤ n ∧ n < 0x110000) : (Char.ofNat n).toNat = n := by
  have hvalid : n.isValidChar := h.imp id (fun h => ⟨by omega, h.2⟩)
  unfold Char.ofNat
  rw [dif_pos hvalid]
  exact UInt32.toNat_ofNatLT

theorem toUInt8_of_toNat {b : UInt8} {n : Nat} (h : n = b.toNat) : n.toUInt8 = b := by
  subst h
  exact UInt8.ofNat_toNat

theorem continuation?_eq_some {b : UInt8} {n : Nat} (h : continuation? b = some n) : b.toNat = 0x80 + n ∧ n < 64 := by
  unfold continuation? at h
  split at h
  · have hn := Option.some.inj h
    omega
  · cases h

/-- A second byte that fits is a continuation byte, and with the first starts no overlong form, no surrogate
and nothing beyond the last character. -/
theorem secondFits_bounds {f n : Nat} (h : secondFits f n = true) :
    0x80 ≤ n ∧ n < 0xC0 ∧ (f = 0xE0 → 0xA0 ≤ n) ∧ (f = 0xED → n < 0xA0) ∧ (f = 0xF0 → 0x90 ≤ n) ∧
      (f = 0xF4 → n < 0x90) := by
  unfold secondFits at h
  by_cases h0 : f = 0xE0
  · rw [if_pos h0, Bool.and_eq_true, decide_eq_true_eq, decide_eq_true_eq] at h
    omega
  rw [if_neg h0] at h
  by_cases h1 : f = 0xED
  · rw [if_pos h1, Bool.and_eq_true, decide_eq_true_eq, decide_eq_true_eq] at h
    omega
  rw [if_neg h1] at h
  by_cases h2 : f = 0xF0
  · rw [if_pos h2, Bool.and_eq_true, decide_eq_true_eq, decide_eq_true_eq] at h
    omega
  rw [if_neg h2] at h
  by_cases h3 : f = 0xF4
  · rw [if_pos h3, Bool.and_eq_true, decide_eq_true_eq, decide_eq_true_eq] at h
    omega
  rw [if_neg h3, Bool.and_eq_true, decide_eq_true_eq, decide_eq_true_eq] at h
  omega

/-- The bytes of a character that is put together from the bits of two bytes. -/
theorem encodeChar_two {a x : Nat} (ha : 2 ≤ a) (ha' : a < 32) (hx : x < 64) :
    encodeChar (Char.ofNat (a * 64 + x)) = [(0xC0 + a).toUInt8, (0x80 + x).toUInt8] := by
  unfold encodeChar
  rw [toNat_ofNat (by omega), if_neg (by omega), if_pos (by omega), show (a * 64 + x) / 64 = a by omega,
    show (a * 64 + x) % 64 = x by omega]

theorem encodeChar_three {a x y : Nat} (ha : a < 16) (hx : x < 64) (hy : y < 64) (hlong : a = 0 → 32 ≤ x)
    (hsurrogate : a = 13 → x < 32) :
    encodeChar (Char.ofNat (a * 4096 + x * 64 + y)) = [(0xE0 + a).toUInt8, (0x80 + x).toUInt8, (0x80 + y).toUInt8] := by
  unfold encodeChar
  rw [toNat_ofNat (by omega), if_neg (by omega), if_neg (by omega), if_pos (by omega),
    show (a * 4096 + x * 64 + y) / 4096 = a by omega, show (a * 4096 + x * 64 + y) / 64 % 64 = x by omega,
    show (a * 4096 + x * 64 + y) % 64 = y by omega]

theorem encodeChar_four {a x y z : Nat} (ha : a < 5) (hx : x < 64) (hy : y < 64) (hz : z < 64) (hlong : a = 0 → 16 ≤ x)
    (hlast : a = 4 → x < 16) :
    encodeChar (Char.ofNat (a * 262144 + x * 4096 + y * 64 + z)) =
      [(0xF0 + a).toUInt8, (0x80 + x).toUInt8, (0x80 + y).toUInt8, (0x80 + z).toUInt8] := by
  unfold encodeChar
  rw [toNat_ofNat (by omega), if_neg (by omega), if_neg (by omega), if_neg (by omega),
    show (a * 262144 + x * 4096 + y * 64 + z) / 262144 = a by omega,
    show (a * 262144 + x * 4096 + y * 64 + z) / 4096 % 64 = x by omega,
    show (a * 262144 + x * 4096 + y * 64 + z) / 64 % 64 = y by omega,
    show (a * 262144 + x * 4096 + y * 64 + z) % 64 = z by omega]

/-- What is read off the front is the bytes of the character. -/
theorem encodeChar_of_step {b : UInt8} {r : List UInt8} {c : Char} {n : Nat} (h : step b r = .ok (c, n)) :
    b :: r = encodeChar c ++ r.drop (n - 1) := by
  unfold step at h
  by_cases hone : b.toNat < 0x80
  · rw [if_pos hone] at h
    obtain ⟨rfl, rfl⟩ := Prod.mk.inj (Except.ok.inj h)
    have hc := toNat_ofNat (n := b.toNat) (by omega)
    rw [encodeChar_of_ascii (by omega), hc, toUInt8_of_toNat rfl]
    rfl
  rw [if_neg hone] at h
  by_cases htwo : 0xC2 ≤ b.toNat ∧ b.toNat < 0xE0
  · rw [if_pos htwo] at h
    rcases r with _ | ⟨b1, r⟩
    · cases h
    · cases h1 : continuation? b1 with
      | none => simp only [h1] at h; cases h
      | some x =>
        simp only [h1] at h
        obtain ⟨rfl, rfl⟩ := Prod.mk.inj (Except.ok.inj h)
        obtain ⟨hb1, hx⟩ := continuation?_eq_some h1
        rw [encodeChar_two (by omega) (by omega) hx, toUInt8_of_toNat (b := b) (by omega),
          toUInt8_of_toNat (b := b1) hb1.symm]
        rfl
  rw [if_neg htwo] at h
  by_cases hthree : 0xE0 ≤ b.toNat ∧ b.toNat < 0xF0
  · rw [if_pos hthree] at h
    rcases r with _ | ⟨b1, _ | ⟨b2, r⟩⟩
    · cases h
    · cases hfits : secondFits b.toNat b1.toNat <;> simp only [hfits] at h <;> cases h
    · cases hfits : secondFits b.toNat b1.toNat with
      | false => simp only [hfits] at h; cases h
      | true =>
        cases h2 : continuation? b2 with
        | none => simp only [hfits, h2] at h; cases h
        | some x =>
          simp only [hfits, h2] at h
          obtain ⟨rfl, rfl⟩ := Prod.mk.inj (Except.ok.inj h)
          obtain ⟨hb2, hx⟩ := continuation?_eq_some h2
          have hb1 := secondFits_bounds hfits
          rw [encodeChar_three (by omega) (by omega) hx (by omega) (by omega), toUInt8_of_toNat (b := b) (by omega),
            toUInt8_of_toNat (b := b1) (by omega), toUInt8_of_toNat (b := b2) hb2.symm]
          rfl
  rw [if_neg hthree] at h
  by_cases hfour : 0xF0 ≤ b.toNat ∧ b.toNat < 0xF5
  · rw [if_pos hfour] at h
    rcases r with _ | ⟨b1, r⟩
    · cases h
    · cases hfits : secondFits b.toNat b1.toNat with
      | false => simp only [hfits] at h; cases h
      | true =>
        simp only [hfits, if_true] at h
        rcases r with _ | ⟨b2, r⟩
        · cases h
        · cases h2 : continuation? b2 with
          | none => simp only [h2] at h; cases h
          | some x =>
            simp only [h2] at h
            rcases r with _ | ⟨b3, r⟩
            · cases h
            · cases h3 : continuation? b3 with
              | none => simp only [h3] at h; cases h
              | some y =>
                simp only [h3] at h
                obtain ⟨rfl, rfl⟩ := Prod.mk.inj (Except.ok.inj h)
                obtain ⟨hb2, hx⟩ := continuation?_eq_some h2
                obtain ⟨hb3, hy⟩ := continuation?_eq_some h3
                have hb1 := secondFits_bounds hfits
                rw [encodeChar_four (by omega) (by omega) hx hy (by omega) (by omega),
                  toUInt8_of_toNat (b := b) (by omega), toUInt8_of_toNat (b := b1) (by omega),
                  toUInt8_of_toNat (b := b2) hb2.symm, toUInt8_of_toNat (b := b3) hb3.symm]
                rfl
  rw [if_neg hfour] at h
  cases h

theorem eq_encode_of_decodeFrom {index : Nat} {bytes : List UInt8} {s : List Char}
    (h : decodeFrom index bytes = .ok s) : bytes = encode s := by
  fun_induction decodeFrom index bytes generalizing s with
  | case1 => cases h; rfl
  | case2 | case3 => cases h
  | case4 index b r c n hstep ih =>
    cases hrest : decodeFrom (index + n) (r.drop (n - 1)) with
    | error fault => rw [hrest] at h; cases h
    | ok t =>
      rw [hrest] at h
      obtain rfl := Except.ok.inj h
      rw [encode_cons, ← ih hrest]
      exact encodeChar_of_step hstep

/-- Bytes read as a text exactly when they are its bytes. -/
theorem decode_eq_ok_iff {bytes : List UInt8} {s : List Char} : decode bytes = .ok s ↔ bytes = encode s := by
  constructor
  · exact eq_encode_of_decodeFrom
  · rintro rfl
    exact decode_encode s

end EdgeFleet.Utf8
