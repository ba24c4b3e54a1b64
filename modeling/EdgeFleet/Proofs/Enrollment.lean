import EdgeFleet.Enrollment
import EdgeFleet.Proofs.Base64
import EdgeFleet.Proofs.Decimal
/-!
# Which texts are enrollment keys

A text spells an enrollment key when it is, with its padding taken off, the base64 form of four fields between
bars, the last of which is a literal of the environment's number. Reading accepts exactly these texts
(`decodes_iff_spells`), and a key that was read is written as it was spelled only where the literal is the
canonical one. A key that was written is read again, unless one of its texts has a bar: then too many fields are
found (`decoded_of_encoded`).
-/

namespace EdgeFleet

namespace Text

variable {c : Char} {s p q : List Char} {l : List (List Char)}

/-! ## Cutting at every occurrence -/

theorem length_splitAll (c : Char) (s : List Char) : (splitAll c s).length = s.count c + 1 := by
  induction s with
  | nil => rfl
  | cons d s ih =>
    rw [splitAll]
    by_cases hd : d = c
    · rw [if_pos hd, hd, List.length_cons, ih, List.count_cons_self]
    · rw [if_neg hd, List.count_cons_of_ne hd]
      cases hs : splitAll c s with
      | nil => exact absurd hs (splitAll_ne_nil c s)
      | cons piece more =>
        rw [hs] at ih
        exact ih

theorem splitAll_of_not_mem (h : c ∉ p) : splitAll c p = [p] := by
  induction p with
  | nil => rfl
  | cons d p ih =>
    rw [List.mem_cons, not_or] at h
    rw [splitAll, if_neg (Ne.symm h.1), ih h.2]

theorem splitAll_append_cons (h : c ∉ p) (s : List Char) : splitAll c (p ++ c :: s) = p :: splitAll c s := by
  induction p with
  | nil => rw [List.nil_append, splitAll, if_pos rfl]
  | cons d p ih =>
    rw [List.mem_cons, not_or] at h
    rw [List.cons_append, splitAll, if_neg (Ne.symm h.1), ih h.2]

/-- The first piece ends with the text, or at the first occurrence, behind which the other pieces are. -/
theorem splitAll_eq_cons (h : splitAll c s = p :: l) :
    c ∉ p ∧ (s = p ∧ l = [] ∨ ∃ t, s = p ++ c :: t ∧ splitAll c t = l) := by
  induction s generalizing p with
  | nil =>
    cases h
    exact ⟨List.not_mem_nil, .inl ⟨rfl, rfl⟩⟩
  | cons d s ih =>
    rw [splitAll] at h
    by_cases hd : d = c
    · rw [if_pos hd] at h
      cases h
      exact ⟨List.not_mem_nil, .inr ⟨s, by rw [hd]; rfl, rfl⟩⟩
    · rw [if_neg hd] at h
      cases hs : splitAll c s with
      | nil => exact absurd hs (splitAll_ne_nil c s)
      | cons piece more =>
        rw [hs] at h
        cases h
        obtain ⟨hc, hrest⟩ := ih hs
        refine ⟨fun hm => (List.mem_cons.1 hm).elim (Ne.symm hd) hc, hrest.imp ?_ ?_⟩
        · rintro ⟨rfl, hl⟩
          exact ⟨rfl, hl⟩
        · rintro ⟨t, rfl, hl⟩
          exact ⟨t, rfl, hl⟩

theorem splitAll_eq_singleton_iff : splitAll c s = [p] ↔ c ∉ p ∧ s = p := by
  constructor
  · intro h
    obtain ⟨hc, ⟨hs, -⟩ | ⟨t, -, ht⟩⟩ := splitAll_eq_cons h
    · exact ⟨hc, hs⟩
    · exact absurd ht (splitAll_ne_nil c t)
  · rintro ⟨hc, rfl⟩
    exact splitAll_of_not_mem hc

theorem splitAll_eq_cons_cons_iff :
    splitAll c s = p :: q :: l ↔ c ∉ p ∧ ∃ t, s = p ++ c :: t ∧ splitAll c t = q :: l := by
  constructor
  · intro h
    obtain ⟨hc, ⟨-, hl⟩ | ht⟩ := splitAll_eq_cons h
    · cases hl
    · exact ⟨hc, ht⟩
  · rintro ⟨hc, t, rfl, ht⟩
    rw [splitAll_append_cons hc, ht]

end Text

namespace EnrollmentKey

variable {s n : List Char} {k : EnrollmentKey}

/-! ## What spells a key -/

/-- The fields of a key between bars, with some text in the place of its environment's number. -/
def fieldsWith (k : EnrollmentKey) (n : List Char) : List Char :=
  k.apiUrl.toList ++ '|' :: k.tunnelAddress.toList ++ '|' :: k.fingerprint.toList ++ '|' :: n

/-- Whether a text is, its padding aside, the base64 form of the fields of a key between exactly three bars,
where the last field is some literal of the environment's number. -/
structure Spells (s : List Char) (k : EnrollmentKey) (n : List Char) : Prop where
  base64 : withoutPadding s = Base64.encode .standard (Utf8.encode (k.fieldsWith n))
  bars : (k.fieldsWith n).count '|' = 3
  literal : Decimal.Denotes Decimal.signed32 n k.environmentId.number.toInt

/-- Between exactly three bars no field has one. -/
theorem count_fieldsWith_iff : (k.fieldsWith n).count '|' = 3 ↔
    '|' ∉ k.apiUrl.toList ∧ '|' ∉ k.tunnelAddress.toList ∧ '|' ∉ k.fingerprint.toList ∧ '|' ∉ n := by
  simp only [fieldsWith, List.count_append, List.count_cons_self, ← List.count_eq_zero]
  omega

theorem splitAll_eq_fields_iff {a t f : List Char} :
    Text.splitAll '|' s = [a, t, f, n] ↔
      s = a ++ '|' :: t ++ '|' :: f ++ '|' :: n ∧ '|' ∉ a ∧ '|' ∉ t ∧ '|' ∉ f ∧ '|' ∉ n := by
  simp only [Text.splitAll_eq_cons_cons_iff, Text.splitAll_eq_singleton_iff]
  constructor
  · rintro ⟨ha, _, rfl, ht, _, rfl, hf, _, rfl, hn, rfl⟩
    exact ⟨by simp, ha, ht, hf, hn⟩
  · rintro ⟨rfl, ha, ht, hf, hn⟩
    exact ⟨ha, _, by simp, ht, _, rfl, hf, _, rfl, hn, rfl⟩

/-- Fields between bars are read as a key exactly when there are four of them and the last is a literal of the
environment's number. -/
theorem ofPlain_eq_ok_iff : ofPlain s = .ok k ↔
    ∃ n, s = k.fieldsWith n ∧ (k.fieldsWith n).count '|' = 3 ∧
      Decimal.Denotes Decimal.signed32 n k.environmentId.number.toInt := by
  constructor
  · intro h
    unfold ofPlain at h
    split at h
    · rename_i a t f n hsplit
      obtain ⟨v, hv, h⟩ := bind_eq_ok_iff.1 h
      rw [mapError_eq_ok_iff] at hv
      obtain rfl := Except.ok.inj h
      obtain ⟨rfl, ha, ht, hf, hn⟩ := splitAll_eq_fields_iff.1 hsplit
      have hholds := Decimal.holds_of_read (by decide) (by decide) hv
      rw [Decimal.Range.holds, Bool.and_eq_true, decide_eq_true_eq, decide_eq_true_eq] at hholds
      obtain ⟨hl, hm⟩ : -0x80000000 ≤ v ∧ v ≤ 0x7fffffff := hholds
      refine ⟨n, by simp [fieldsWith], ?_, ?_⟩
      · rw [count_fieldsWith_iff]
        simp only [String.toList_ofList]
        exact ⟨ha, ht, hf, hn⟩
      · rw [Int32.toInt_ofInt_of_le hl (by omega)]
        exact (Decimal.read_eq_ok_iff (by decide) (by decide)).1 hv
    · cases h
  · rintro ⟨n, rfl, hbars, hn⟩
    have hsplit := splitAll_eq_fields_iff.2 ⟨rfl, count_fieldsWith_iff.1 hbars⟩
    unfold ofPlain
    rw [fieldsWith, hsplit]
    simp only [(Decimal.read_eq_ok_iff (by decide) (by decide)).2 hn, String.ofList_toList]
    exact congrArg (fun i => Except.ok { k with environmentId := ⟨i⟩ }) (Int32.ofInt_toInt _)

theorem withoutPadding_of_not_mem (h : '=' ∉ s) : withoutPadding s = s := by
  unfold withoutPadding
  cases hr : s.reverse with
  | nil => rw [List.reverse_eq_nil_iff.1 hr]; rfl
  | cons c r =>
    have hc : c ≠ '=' := fun e => h (List.mem_reverse.1 (by rw [hr, e]; exact List.mem_cons_self))
    rw [List.dropWhile_cons, if_neg (by simpa using hc), ← hr, List.reverse_reverse]

theorem withoutPadding_encode (k : EnrollmentKey) : withoutPadding k.encode = k.encode :=
  withoutPadding_of_not_mem (Base64.pad_not_mem_encode _ _)

theorem denotes_write (id : EnvironmentId) :
    Decimal.Denotes Decimal.signed32 (Decimal.write id.number.toInt) id.number.toInt :=
  Decimal.denotes_write (by decide) (by decide) (Decimal.holds_toInt id.number)

theorem bar_not_mem_write (id : EnvironmentId) : '|' ∉ Decimal.write id.number.toInt :=
  (denotes_write id).not_mem (by decide) (by decide) (by decide)

/-- A key that some text spells is spelled by its own written form, with the canonical literal. -/
theorem Spells.encode (h : Spells s k n) : Spells k.encode k (Decimal.write k.environmentId.number.toInt) where
  base64 := k.withoutPadding_encode
  bars := by
    obtain ⟨ha, ht, hf, -⟩ := count_fieldsWith_iff.1 h.bars
    exact count_fieldsWith_iff.2 ⟨ha, ht, hf, bar_not_mem_write k.environmentId⟩
  literal := denotes_write k.environmentId

/-- Two texts that spell one key are written alike, padding aside, exactly when they spell it with one literal. -/
theorem Spells.withoutPadding_eq_iff {t m : List Char} (h : Spells s k n) (h' : Spells t k m) :
    withoutPadding t = withoutPadding s ↔ n = m := by
  rw [h.base64, h'.base64]
  constructor
  · intro he
    have hfields := Utf8.encode_injective (Base64.encode_injective _ he)
    simp only [fieldsWith, List.append_cancel_left_eq, List.cons.injEq, true_and] at hfields
    exact hfields.symm
  · rintro rfl
    rfl

/-! ## What is read -/

theorem decode_eq_ok_iff_exists : decode s = .ok k ↔ ∃ n, Spells s k n := by
  simp only [decode, bind_eq_ok_iff, mapError_eq_ok_iff, Base64.decode_eq_ok_iff, Utf8.decode_eq_ok_iff,
    ofPlain_eq_ok_iff]
  constructor
  · rintro ⟨_, hs, _, rfl, n, rfl, hbars, hn⟩
    exact ⟨n, hs, hbars, hn⟩
  · rintro ⟨n, hs, hbars, hn⟩
    exact ⟨_, hs, _, rfl, n, rfl, hbars, hn⟩

/-- A text is read as a key exactly when it spells the key with some literal of its environment's number. The
written form of such a key is read as the key again, and it is the text without its padding exactly when the
literal is the canonical one. -/
theorem decodes_iff_spells (s : List Char) (k : EnrollmentKey) :
    (decode s = .ok k ↔ ∃ n, Spells s k n) ∧
    ∀ n, Spells s k n → decode k.encode = .ok k ∧
      (k.encode = withoutPadding s ↔ n = Decimal.write k.environmentId.number.toInt) := by
  refine ⟨decode_eq_ok_iff_exists, fun n h => ⟨decode_eq_ok_iff_exists.2 ⟨_, h.encode⟩, ?_⟩⟩
  rw [← h.withoutPadding_eq_iff h.encode, k.withoutPadding_encode]

/-- A padded text whose literal has a sign and a leading zero is read as a key, and the key is written otherwise. -/
theorem decodes_signed_literal : ∃ k : EnrollmentKey,
    decode "w6l8fGZ8LTA1==".toList = .ok k ∧ Spells "w6l8fGZ8LTA1==".toList k "-05".toList ∧
      decode k.encode = .ok k ∧ k.encode ≠ withoutPadding "w6l8fGZ8LTA1==".toList := by
  have hspells : Spells "w6l8fGZ8LTA1==".toList ⟨"é", "", "f", ⟨-5⟩⟩ "-05".toList :=
    ⟨by decide +kernel, by decide +kernel,
      @Decimal.Denotes.minus _ "05".toList (by decide) (by decide) (List.all_eq_true.1 (by decide)) (by decide)⟩
  obtain ⟨hread, hwritten⟩ := decodes_iff_spells "w6l8fGZ8LTA1==".toList ⟨"é", "", "f", ⟨-5⟩⟩
  obtain ⟨hencode, hiff⟩ := hwritten _ hspells
  exact ⟨_, hread.2 ⟨_, hspells⟩, hspells, hencode, fun he => absurd (hiff.1 he) (by decide +kernel)⟩

/-! ## Keys that were written -/

/-- The texts of a key, in which a bar is taken for the end of a field. -/
def texts (k : EnrollmentKey) : List Char := k.apiUrl.toList ++ k.tunnelAddress.toList ++ k.fingerprint.toList

theorem count_plain (k : EnrollmentKey) : k.plain.count '|' = k.texts.count '|' + 3 := by
  have hid := List.count_eq_zero.2 (bar_not_mem_write k.environmentId)
  simp only [plain, texts, List.count_append, List.count_cons_self, hid]
  omega

/-- Fields that are not four are counted. -/
theorem ofPlain_of_count_ne (h : s.count '|' ≠ 3) : ofPlain s = .error (.fieldCount (s.count '|' + 1)) := by
  have hlength := Text.length_splitAll '|' s
  unfold ofPlain
  split
  · rename_i hsplit
    rw [hsplit] at hlength
    exact absurd (Nat.succ.inj hlength).symm h
  · rw [hlength]

theorem ofPlain_plain (k : EnrollmentKey) :
    ofPlain k.plain = if '|' ∈ k.texts then .error (.fieldCount (4 + k.texts.count '|')) else .ok k := by
  have hcount := k.count_plain
  split
  · rename_i hbar
    have hpos := List.count_pos_iff.2 hbar
    rw [ofPlain_of_count_ne (by omega), hcount, show k.texts.count '|' + 3 + 1 = 4 + k.texts.count '|' by omega]
  · rename_i hbar
    rw [List.count_eq_zero.2 hbar] at hcount
    exact ofPlain_eq_ok_iff.2 ⟨_, rfl, hcount, denotes_write k.environmentId⟩

theorem withoutPadding_append_replicate (s : List Char) (n : Nat) :
    withoutPadding (s ++ List.replicate n '=') = withoutPadding s := by
  unfold withoutPadding
  rw [List.reverse_append, List.reverse_replicate, List.dropWhile_append_of_pos]
  intro c hc
  simp [List.eq_of_mem_replicate hc]

/-- Reading a key that was written and padded is reading its fields. -/
theorem decode_append_replicate (k : EnrollmentKey) (n : Nat) :
    decode (k.encode ++ List.replicate n '=') = ofPlain k.plain := by
  unfold decode
  rw [withoutPadding_append_replicate, withoutPadding_encode, encode, Base64.decode_encode]
  change ((Utf8.decode (Utf8.encode k.plain)).mapError .notText >>= ofPlain) = _
  rw [Utf8.decode_encode]
  rfl

theorem decode_text {k : EnrollmentKey} (h : '|' ∉ k.texts) : decode k.text.toList = .ok k := by
  have hread := k.decode_append_replicate 0
  rw [List.replicate_zero, List.append_nil, ofPlain_plain, if_neg h] at hread
  rw [text, String.toList_ofList, hread]

/-- A key that was written, with any padding, is read as the same key exactly when none of its texts has a bar. With
bars in them there are that many fields more than four, and the refusal says how many were found. It is never read as
another key. -/
theorem decoded_of_encoded (k : EnrollmentKey) (n : Nat) :
    decode (k.encode ++ List.replicate n '=') =
      (if '|' ∈ k.texts then .error (.fieldCount (4 + k.texts.count '|')) else .ok k) ∧
    (EnrollmentKeyFault.fieldCount (4 + k.texts.count '|')).message =
      "Invalid edge key: expected 4 fields, found " ++ toString (4 + k.texts.count '|') ∧
    ∀ k', decode (k.encode ++ List.replicate n '=') = .ok k' → k' = k := by
  have hread := (k.decode_append_replicate n).trans k.ofPlain_plain
  refine ⟨hread, rfl, fun k' h => ?_⟩
  rw [hread] at h
  split at h
  · cases h
  · exact (Except.ok.inj h).symm

/-- A negative id comes back; two bars make two fields more. -/
theorem decoded_of_padded :
    decode ((⟨"é", "", "f", ⟨-5⟩⟩ : EnrollmentKey).encode ++ List.replicate 2 '=') = .ok ⟨"é", "", "f", ⟨-5⟩⟩ ∧
    decode ((⟨"a|b", "", "|", ⟨-5⟩⟩ : EnrollmentKey).encode ++ List.replicate 2 '=') = .error (.fieldCount 6) := by
  obtain ⟨hplain, -⟩ := decoded_of_encoded ⟨"é", "", "f", ⟨-5⟩⟩ 2
  obtain ⟨hbarred, -⟩ := decoded_of_encoded ⟨"a|b", "", "|", ⟨-5⟩⟩ 2
  exact ⟨hplain.trans (if_neg (by decide)), hbarred.trans (if_pos (by decide))⟩

end EnrollmentKey

end EdgeFleet
