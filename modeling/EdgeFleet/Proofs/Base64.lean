import EdgeFleet.Proofs.Utf8
import EdgeFleet.Text.Base64
/-!
# What is written in base64 reads back

Writing goes through the six-bit values of the letters (`sextets`): the letters are those of the
values, the values pack to the bytes, and reading finds the value of every letter. The same three
steps back show that nothing else is read (`decode_eq_ok_iff`).
-/

namespace EdgeFleet.Base64

/-! ## Letters -/

/-- A letter is an ASCII character, no dot, and its byte has its value. -/
theorem letter_spec (a : Alphabet) {n : Nat} (h : n < 64) :
    (a.letter n).toNat < 128 ∧ a.letter n ≠ '.' ∧ a.value? (a.letter n).toNat.toUInt8 = some n := by
  have hall : ∀ n < 64, (a.letter n).toNat < 128 ∧ a.letter n ≠ '.' ∧
      a.value? (a.letter n).toNat.toUInt8 = some n := by
    cases a <;> decide
  exact hall n h

theorem encodeChar_letter (a : Alphabet) {n : Nat} (h : n < 64) :
    Utf8.encodeChar (a.letter n) = [(a.letter n).toNat.toUInt8] :=
  Utf8.encodeChar_of_ascii (letter_spec a h).1

/-! ## Values of letters -/

/-- The six-bit values that bytes are written as. -/
def sextets : List UInt8 → List Nat
  | [] => []
  | [x] => [x.toNat / 4, x.toNat % 4 * 16]
  | [x, y] => [x.toNat / 4, x.toNat % 4 * 16 + y.toNat / 16, y.toNat % 16 * 4]
  | x :: y :: z :: r =>
    x.toNat / 4 :: (x.toNat % 4 * 16 + y.toNat / 16) :: (y.toNat % 16 * 4 + z.toNat / 64) ::
      (z.toNat % 64) :: sextets r

theorem encode_eq_map (a : Alphabet) (bytes : List UInt8) : encode a bytes = (sextets bytes).map a.letter := by
  induction bytes using sextets.induct with
  | case1 => rfl
  | case2 x => rfl
  | case3 x y => rfl
  | case4 x y z r ih => simp only [encode, sextets, List.map_cons, ih]

theorem lt_of_mem_sextets {bytes : List UInt8} {n : Nat} (h : n ∈ sextets bytes) : n < 64 := by
  induction bytes using sextets.induct with
  | case1 => cases h
  | case2 x =>
    have hx := x.toNat_lt
    simp only [sextets, List.mem_cons, List.not_mem_nil, or_false] at h
    omega
  | case3 x y =>
    have hx := x.toNat_lt
    have hy := y.toNat_lt
    simp only [sextets, List.mem_cons, List.not_mem_nil, or_false] at h
    omega
  | case4 x y z r ih =>
    have hx := x.toNat_lt
    have hy := y.toNat_lt
    have hz := z.toNat_lt
    simp only [sextets, List.mem_cons] at h
    rcases h with h | h | h | h | h
    · omega
    · omega
    · omega
    · omega
    · exact ih h

/-- No bytes are written with a lone last letter. -/
theorem length_sextets (bytes : List UInt8) : (sextets bytes).length % 4 ≠ 1 := by
  induction bytes using sextets.induct with
  | case1 => decide
  | case2 x => simp [sextets]
  | case3 x y => simp [sextets]
  | case4 x y z r ih =>
    simp only [sextets, List.length_cons]
    omega

theorem pack_sextets (bytes : List UInt8) : pack (sextets bytes) = some bytes := by
  induction bytes using sextets.induct with
  | case1 => rfl
  | case2 x =>
    rw [sextets, pack, if_pos (by omega), Utf8.toUInt8_of_toNat (show _ = x.toNat by omega)]
  | case3 x y =>
    have hy := y.toNat_lt
    rw [sextets, pack, if_pos (by omega), Utf8.toUInt8_of_toNat (show _ = x.toNat by omega),
      Utf8.toUInt8_of_toNat (show _ = y.toNat by omega)]
  | case4 x y z r ih =>
    have hy := y.toNat_lt
    have hz := z.toNat_lt
    rw [sextets, pack, ih, Utf8.toUInt8_of_toNat (show _ = x.toNat by omega),
      Utf8.toUInt8_of_toNat (show _ = y.toNat by omega), Utf8.toUInt8_of_toNat (show _ = z.toNat by omega)]
    rfl

/-- The letters of values are read as these values. -/
theorem values_letters (a : Alphabet) (offset : Nat) {ns : List Nat} (h : ∀ n ∈ ns, n < 64) :
    values a offset (Utf8.encode (ns.map a.letter)) = .ok ns := by
  induction ns generalizing offset with
  | nil => rfl
  | cons n ns ih =>
    have hn : n < 64 := h n List.mem_cons_self
    have hns : ∀ m ∈ ns, m < 64 := fun m hm => h m (List.mem_cons_of_mem n hm)
    rw [List.map_cons, Utf8.encode_cons, encodeChar_letter a hn, List.singleton_append, values,
      (letter_spec a hn).2.2]
    simp only [ih _ hns]
    rfl

theorem length_encode_letters (a : Alphabet) {ns : List Nat} (h : ∀ n ∈ ns, n < 64) :
    (Utf8.encode (ns.map a.letter)).length = ns.length := by
  induction ns with
  | nil => rfl
  | cons n ns ih =>
    rw [List.map_cons, Utf8.encode_cons, encodeChar_letter a (h n List.mem_cons_self), List.singleton_append,
      List.length_cons, List.length_cons, ih (fun m hm => h m (List.mem_cons_of_mem n hm))]

/-! ## Whole texts -/

/-- The written form of bytes reads back as the bytes. -/
@[simp] theorem decode_encode (a : Alphabet) (bytes : List UInt8) :
    decode a (Utf8.encode (encode a bytes)) = .ok bytes := by
  have hlt : ∀ n ∈ sextets bytes, n < 64 := fun n hn => lt_of_mem_sextets hn
  unfold decode
  rw [encode_eq_map, length_encode_letters a hlt, if_neg (length_sextets bytes), values_letters a 0 hlt]
  simp only [bind, Except.bind, pack_sextets]

/-- What is no letter does not occur in what is written. -/
theorem not_mem_encode {a : Alphabet} {c : Char} (h : ∀ n < 64, a.letter n ≠ c) (bytes : List UInt8) :
    c ∉ encode a bytes := by
  rw [encode_eq_map, List.mem_map]
  rintro ⟨n, hn, hc⟩
  exact h n (lt_of_mem_sextets hn) hc

theorem encode_injective (a : Alphabet) {bytes bytes' : List UInt8} (h : encode a bytes = encode a bytes') :
    bytes = bytes' := by
  have hread : decode a (Utf8.encode (encode a bytes)) = .ok bytes := decode_encode a bytes
  rw [h, decode_encode] at hread
  exact (Except.ok.inj hread).symm

theorem dot_not_mem_encode (a : Alphabet) (bytes : List UInt8) : '.' ∉ encode a bytes :=
  not_mem_encode (fun _ hn => (letter_spec a hn).2.1) bytes

theorem pad_not_mem_encode (a : Alphabet) (bytes : List UInt8) : '=' ∉ encode a bytes := by
  refine not_mem_encode ?_ bytes
  cases a <;> decide

/-! ## Nothing else is read -/

/-- A byte that has a value is the letter of that value. -/
theorem letter_of_value? {a : Alphabet} {b : UInt8} {v : Nat} (h : a.value? b = some v) :
    v < 64 ∧ b = (a.letter v).toNat.toUInt8 := by
  have hall : ∀ n < 256, ∀ v ∈ a.value? n.toUInt8, v < 64 ∧ n.toUInt8 = (a.letter v).toNat.toUInt8 := by
    cases a <;> decide +kernel
  have hb : b.toNat.toUInt8 = b := Utf8.toUInt8_of_toNat rfl
  have := hall b.toNat b.toNat_lt v
  rw [hb] at this
  exact this h

theorem letters_of_values {a : Alphabet} {offset : Nat} {bytes : List UInt8} {vs : List Nat}
    (h : values a offset bytes = .ok vs) : (∀ v ∈ vs, v < 64) ∧ bytes = Utf8.encode (vs.map a.letter) := by
  induction bytes generalizing offset vs with
  | nil =>
    obtain rfl : [] = vs := Except.ok.inj h
    exact ⟨by simp, rfl⟩
  | cons b bytes ih =>
    unfold values at h
    cases hv : a.value? b with
    | none => rw [hv] at h; cases h
    | some v =>
      rw [hv] at h
      cases hr : values a (offset + 1) bytes with
      | error fault => rw [hr] at h; cases h
      | ok ws =>
        rw [hr] at h
        obtain rfl : v :: ws = vs := Except.ok.inj h
        obtain ⟨hlt, rfl⟩ := letter_of_value? hv
        obtain ⟨hall, rfl⟩ := ih hr
        refine ⟨List.forall_mem_cons.2 ⟨hlt, hall⟩, ?_⟩
        rw [List.map_cons, Utf8.encode_cons, encodeChar_letter a hlt]
        rfl

theorem sextets_of_pack {vs : List Nat} {bytes : List UInt8} (hlt : ∀ v ∈ vs, v < 64) (hlength : vs.length % 4 ≠ 1)
    (h : pack vs = some bytes) : sextets bytes = vs := by
  induction vs using pack.induct generalizing bytes with
  | case1 =>
    obtain rfl : [] = bytes := Option.some.inj h
    rfl
  | case2 p => exact absurd rfl hlength
  | case3 p q hq =>
    simp only [List.forall_mem_cons] at hlt
    rw [pack, if_pos hq] at h
    obtain rfl := Option.some.inj h
    rw [sextets, Utf8.toNat_toUInt8 (by omega)]
    simp only [List.cons.injEq, and_true]
    omega
  | case4 p q hq => rw [pack, if_neg hq] at h; cases h
  | case5 p q s hs =>
    simp only [List.forall_mem_cons] at hlt
    rw [pack, if_pos hs] at h
    obtain rfl := Option.some.inj h
    rw [sextets, Utf8.toNat_toUInt8 (by omega), Utf8.toNat_toUInt8 (by omega)]
    simp only [List.cons.injEq, and_true]
    omega
  | case6 p q s hs => rw [pack, if_neg hs] at h; cases h
  | case7 p q s t r ih =>
    simp only [List.forall_mem_cons] at hlt
    rw [pack, Option.map_eq_some_iff] at h
    obtain ⟨l, hl, rfl⟩ := h
    have hrest : sextets l = r := by
      refine ih hlt.2.2.2.2 ?_ hl
      simp only [List.length_cons] at hlength
      omega
    rw [sextets, Utf8.toNat_toUInt8 (by omega), Utf8.toNat_toUInt8 (by omega), Utf8.toNat_toUInt8 (by omega), hrest]
    simp only [List.cons.injEq, and_true]
    omega

/-- A text reads as bytes exactly when it is their written form: no other letters, no padding and no
bits set that no byte has. -/
theorem decode_eq_ok_iff {a : Alphabet} {s : List Char} {bytes : List UInt8} :
    decode a (Utf8.encode s) = .ok bytes ↔ s = encode a bytes := by
  constructor
  · intro h
    unfold decode at h
    by_cases hlone : (Utf8.encode s).length % 4 = 1
    · rw [if_pos hlone] at h
      split at h <;> cases h
    · rw [if_neg hlone] at h
      cases hv : values a 0 (Utf8.encode s) with
      | error fault => rw [hv] at h; cases h
      | ok vs =>
        rw [hv] at h
        cases hp : pack vs with
        | none => simp only [bind, Except.bind, hp] at h; cases h
        | some packed =>
          simp only [bind, Except.bind, hp] at h
          obtain rfl := Except.ok.inj h
          obtain ⟨hlt, hs⟩ := letters_of_values hv
          have hlength : vs.length % 4 ≠ 1 := by
            rw [hs, length_encode_letters a hlt] at hlone
            exact hlone
          rw [encode_eq_map, sextets_of_pack hlt hlength hp]
          exact Utf8.encode_injective hs
  · rintro rfl
    exact decode_encode a bytes

end EdgeFleet.Base64
