import EdgeFleet.Json.Numeral
import EdgeFleet.Json.Value
import EdgeFleet.Proofs.Utf8
/-!
# What is written in JSON is scanned

A written text is read back up to its closing quote, character by character: a character that is
escaped comes back from its escape, and any other stands for itself. A text that is passed over ends
at the same place.
-/

namespace EdgeFleet.Json

open Utf8 (encodeChar)

/-! ## Bytes -/

/-- The bytes of written characters. -/
abbrev bytes (s : List Char) : List UInt8 := Utf8.encode s

theorem encodeChar_eq_byte {c : Char} (h : c.toNat < 128) : encodeChar c = [byte c] :=
  Utf8.encodeChar_of_ascii h

theorem bytes_cons_ascii {c : Char} (h : c.toNat < 128) (s : List Char) : bytes (c :: s) = byte c :: bytes s := by
  rw [bytes, Utf8.encode_cons, encodeChar_eq_byte h]
  rfl

/-- Whether a byte stands for itself inside a text. -/
structure Plain (b : UInt8) : Prop where
  ne_quote : b ≠ byte '"'
  ne_backslash : b ≠ byte '\\'
  not_control : ¬ b < 0x20

theorem plain_of_le {b : UInt8} (h : 128 ≤ b.toNat) : Plain b := by
  refine ⟨?_, ?_, ?_⟩
  · rintro rfl; exact absurd h (by decide)
  · rintro rfl; exact absurd h (by decide)
  · rw [UInt8.lt_iff_toNat_lt]
    change ¬ b.toNat < 32
    omega

/-- Beyond ASCII no byte of a character is ASCII. -/
theorem le_of_mem_encodeChar {c : Char} (h : 128 ≤ c.toNat) {b : UInt8} (hb : b ∈ encodeChar c) : 128 ≤ b.toNat := by
  have hc := Utf8.toNat_char c
  unfold encodeChar at hb
  rw [if_neg (by omega)] at hb
  split at hb
  · simp only [List.mem_cons, List.not_mem_nil, or_false] at hb
    rcases hb with rfl | rfl <;> rw [Utf8.toNat_toUInt8 (by omega)] <;> omega
  · split at hb
    · simp only [List.mem_cons, List.not_mem_nil, or_false] at hb
      rcases hb with rfl | rfl | rfl <;> rw [Utf8.toNat_toUInt8 (by omega)] <;> omega
    · simp only [List.mem_cons, List.not_mem_nil, or_false] at hb
      rcases hb with rfl | rfl | rfl | rfl <;> rw [Utf8.toNat_toUInt8 (by omega)] <;> omega

/-! ## Escapes -/

/-- What stands behind a backslash for a character. -/
structure EscapeOf (c : Char) (w : List UInt8) : Prop where
  escaped : ∀ rest, escaped (w ++ rest) = .ok (c, w.length)
  passed : ∀ rest, passEscaped (w ++ rest) = .ok w.length

theorem fourHex_control {n : Nat} (h : n < 32) (rest : List UInt8) :
    fourHex (byte '0' :: byte '0' :: byte (Hex.digit (n / 16)) :: byte (Hex.digit (n % 16)) :: rest) = .ok n := by
  have h0 : Hex.value? (byte '0') = some 0 := rfl
  have h1 : Hex.value? (byte (Hex.digit (n / 16))) = some (n / 16) := Hex.value?_digit (by omega)
  have h2 : Hex.value? (byte (Hex.digit (n % 16))) = some (n % 16) := Hex.value?_digit (by omega)
  simp only [fourHex, h0, h1, h2]
  exact congrArg _ (by omega)

theorem escapeOf_control {c : Char} (h : c.toNat < 32) :
    EscapeOf c [byte 'u', byte '0', byte '0', byte (Hex.digit (c.toNat / 16)), byte (Hex.digit (c.toNat % 16))] := by
  refine ⟨fun rest => ?_, fun rest => ?_⟩
  · change escaped (byte 'u' :: byte '0' :: byte '0' :: _ :: _ :: rest) = _
    rw [escaped, if_pos rfl, fourHex_control h]
    change (if 0xDC00 ≤ c.toNat ∧ c.toNat < 0xE000 then _ else _) = _
    rw [if_neg (by omega), if_neg (by omega), Char.ofNat_toNat]
    rfl
  · change passEscaped (byte 'u' :: byte '0' :: byte '0' :: _ :: _ :: rest) = _
    rw [passEscaped, if_pos rfl, fourHex_control h]
    rfl

theorem hexDigit_ascii {n : Nat} (h : n < 16) : (Hex.digit n).toNat < 128 := by
  have hall : ∀ n < 16, (Hex.digit n).toNat < 128 := by decide
  exact hall n h

/-- A character is written behind a backslash, or by bytes that stand for themselves. -/
theorem bytes_escape (c : Char) :
    (∃ w, bytes (escape c) = byte '\\' :: w ∧ EscapeOf c w) ∨
      (bytes (escape c) = encodeChar c ∧ ∀ b ∈ encodeChar c, Plain b) := by
  have hnamed : ∀ n, c.toNat = n → c = Char.ofNat n := fun n h => h ▸ (Char.ofNat_toNat c).symm
  unfold escape
  split
  · subst c; exact .inl ⟨[byte '"'], rfl, fun _ => rfl, fun _ => rfl⟩
  split
  · subst c; exact .inl ⟨[byte '\\'], rfl, fun _ => rfl, fun _ => rfl⟩
  split
  · subst c; exact .inl ⟨[byte 'n'], rfl, fun _ => rfl, fun _ => rfl⟩
  split
  · subst c; exact .inl ⟨[byte 'r'], rfl, fun _ => rfl, fun _ => rfl⟩
  split
  · subst c; exact .inl ⟨[byte 't'], rfl, fun _ => rfl, fun _ => rfl⟩
  split
  · rename_i h
    rw [hnamed 8 h]; exact .inl ⟨[byte 'b'], rfl, fun _ => rfl, fun _ => rfl⟩
  split
  · rename_i h
    rw [hnamed 12 h]; exact .inl ⟨[byte 'f'], rfl, fun _ => rfl, fun _ => rfl⟩
  split
  · rename_i h
    refine .inl ⟨_, ?_, escapeOf_control h⟩
    simp only [bytes_cons_ascii (show '\\'.toNat < 128 by decide), bytes_cons_ascii (show 'u'.toNat < 128 by decide),
      bytes_cons_ascii (show '0'.toNat < 128 by decide),
      bytes_cons_ascii (hexDigit_ascii (show c.toNat / 16 < 16 by omega)),
      bytes_cons_ascii (hexDigit_ascii (show c.toNat % 16 < 16 by omega)), bytes, Utf8.encode_nil]
  · -- No escape has applied, so the character is neither quote, backslash nor control character.
    rename_i hq hb _ _ _ _ _ hcontrol
    refine .inr ⟨List.append_nil _, fun b hm => ?_⟩
    by_cases hascii : c.toNat < 128
    · rw [encodeChar_eq_byte hascii, List.mem_singleton] at hm
      subst hm
      have hn : (byte c).toNat = c.toNat := Utf8.toNat_toUInt8 (by omega)
      have hne : ∀ d : Char, d.toNat < 128 → c ≠ d → byte c ≠ byte d := by
        intro d hd hcd he
        have e := congrArg UInt8.toNat he
        rw [hn, show (byte d).toNat = d.toNat from Utf8.toNat_toUInt8 (by omega)] at e
        exact hcd (Char.toNat_inj.1 e)
      refine ⟨hne '"' (by decide) hq, hne '\\' (by decide) hb, ?_⟩
      rw [UInt8.lt_iff_toNat_lt, hn]
      exact hcontrol
    · -- Bytes of longer sequences are larger than any of these.
      exact plain_of_le (le_of_mem_encodeChar (by omega) hm)

/-! ## Texts -/

theorem textBytes_plain {w : List UInt8} (h : ∀ b ∈ w, Plain b) (rest : List UInt8) :
    textBytes (w ++ rest) = (textBytes rest).map (fun p => (w ++ p.1, p.2)) := by
  induction w with
  | nil =>
    change textBytes rest = (textBytes rest).map (fun p => p)
    cases textBytes rest <;> rfl
  | cons b w ih =>
    obtain ⟨hq, hb, hc⟩ := h b List.mem_cons_self
    rw [List.cons_append, textBytes, if_neg hq, if_neg hb, if_neg hc, ih (fun c hc => h c (List.mem_cons_of_mem b hc))]
    cases textBytes rest <;> rfl

theorem passText_plain {w : List UInt8} (h : ∀ b ∈ w, Plain b) (rest : List UInt8) :
    passText (w ++ rest) = passText rest := by
  induction w with
  | nil => rfl
  | cons b w ih =>
    obtain ⟨hq, hb, hc⟩ := h b List.mem_cons_self
    rw [List.cons_append, passText, if_neg hq, if_neg hb, if_neg hc, ih (fun c hc => h c (List.mem_cons_of_mem b hc))]

theorem textBytes_escape (c : Char) (rest : List UInt8) :
    textBytes (bytes (escape c) ++ rest) = (textBytes rest).map (fun p => (encodeChar c ++ p.1, p.2)) := by
  rcases bytes_escape c with ⟨w, hw, he⟩ | ⟨he, hp⟩
  · rw [hw, List.cons_append, textBytes, if_neg (by decide), if_pos rfl, he.escaped]
    simp only [List.drop_left]
  · rw [he, textBytes_plain hp]

theorem passText_escape (c : Char) (rest : List UInt8) : passText (bytes (escape c) ++ rest) = passText rest := by
  rcases bytes_escape c with ⟨w, hw, he⟩ | ⟨he, hp⟩
  · rw [hw, List.cons_append, passText, if_neg (by decide), if_pos rfl, he.passed]
    simp only [List.drop_left]
  · rw [he, passText_plain hp]

theorem textBytes_escapes (s : List Char) (rest : List UInt8) :
    textBytes (bytes (s.flatMap escape) ++ byte '"' :: rest) = .ok (bytes s, rest) := by
  induction s with
  | nil =>
    change textBytes (byte '"' :: rest) = _
    rw [textBytes, if_pos rfl]
    rfl
  | cons c s ih =>
    rw [List.flatMap_cons, bytes, Utf8.encode_append, List.append_assoc, textBytes_escape, ih]
    rfl

theorem passText_escapes (s : List Char) (rest : List UInt8) :
    passText (bytes (s.flatMap escape) ++ byte '"' :: rest) = .ok rest := by
  induction s with
  | nil =>
    change passText (byte '"' :: rest) = _
    rw [passText, if_pos rfl]
  | cons c s ih => rw [List.flatMap_cons, bytes, Utf8.encode_append, List.append_assoc, passText_escape, ih]

/-- The bytes of a quoted text: its opening quote, its escapes, and its closing quote. -/
theorem bytes_quote (s : String) (rest : List UInt8) :
    bytes (quote s) ++ rest = byte '"' :: (bytes (s.toList.flatMap escape) ++ byte '"' :: rest) := by
  unfold quote
  rw [List.cons_append, bytes_cons_ascii (by decide), bytes, Utf8.encode_append, List.cons_append, List.append_assoc]
  rfl

/-- A written text reads back behind its opening quote. -/
theorem text_escapes (s : String) (rest : List UInt8) :
    text (bytes (s.toList.flatMap escape) ++ byte '"' :: rest) = .ok (s, rest) := by
  unfold text
  rw [textBytes_escapes]
  simp only [bind, Except.bind, Utf8.decode_encode, String.ofList_toList]

/-! ## Blanks and marks -/

theorem skipBlanks_cons {b : UInt8} (h : isBlank b = false) (r : List UInt8) : skipBlanks (b :: r) = b :: r := by
  unfold skipBlanks
  rw [List.dropWhile_cons_of_neg (by rw [h]; decide)]

theorem mark_cons {c : Char} (h : isBlank (byte c) = false) (r : List UInt8) : mark c (byte c :: r) = .ok r := by
  unfold mark
  rw [skipBlanks_cons h, word, if_pos rfl, word]

end EdgeFleet.Json
