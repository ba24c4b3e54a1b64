import EdgeFleet.Proofs.Calendar
import EdgeFleet.Proofs.Json.Numeral
import EdgeFleet.Time.Timestamp
import Mathlib.Data.List.TakeWhile
/-!
# Written timestamps read back

A timestamp is written field by field, each as digits of a width behind its mark, and each field is
read off the front of whatever follows it. The parts of an instant of the calendar make up the instant
again (`read?_write`), in years of any sign and length and with fractions of any precision.
-/

namespace EdgeFleet.Timestamp

open Json.Numeral (digitsOf digits_eq_map lt_of_mem_digitsOf number_digitsOf)

/-! ## Digits -/

theorem isDigit_digit {d : Nat} (h : d < 10) : isDigit (Decimal.digit d) = true ∧ (Decimal.digit d).toNat = 48 + d := by
  have hall : ∀ d < 10, isDigit (Decimal.digit d) = true ∧ (Decimal.digit d).toNat = 48 + d := by decide
  exact hall d h

theorem foldl_map_digit {ds : List Nat} (h : ∀ d ∈ ds, d < 10) (n : Nat) :
    (ds.map Decimal.digit).foldl (fun n c => n * 10 + (c.toNat - 48)) n = ds.foldl (fun n d => n * 10 + d) n := by
  induction ds generalizing n with
  | nil => rfl
  | cons d ds ih =>
    rw [List.map_cons, List.foldl_cons, List.foldl_cons, (isDigit_digit (h d List.mem_cons_self)).2,
      Nat.add_sub_cancel_left]
    exact ih (fun e he => h e (List.mem_cons_of_mem d he)) _

theorem number_digits (n : Nat) : number (Decimal.digits n) = n := by
  rw [digits_eq_map]
  exact (foldl_map_digit (fun d => lt_of_mem_digitsOf) 0).trans (number_digitsOf n)

theorem length_digits_le {n width : Nat} (hw : 0 < width) (h : n < 10 ^ width) : (Decimal.digits n).length ≤ width := by
  induction n using Decimal.digits.induct generalizing width with
  | case1 n hn => rw [Decimal.digits, if_pos hn]; exact hw
  | case2 n hn ih =>
    obtain ⟨w, rfl⟩ : ∃ w, width = w + 1 := ⟨width - 1, by omega⟩
    have hpos : 0 < w := by
      rcases Nat.eq_zero_or_pos w with rfl | hw
      · omega
      · exact hw
    have hlt : n / 10 < 10 ^ w := by rw [Nat.pow_succ] at h; omega
    have := ih hpos hlt
    rw [Decimal.digits, if_neg hn, List.length_append, List.length_singleton]
    omega

theorem isDigit_of_mem_padded {width n : Nat} {c : Char} (h : c ∈ padded width n) : isDigit c = true := by
  rcases List.mem_append.1 h with h | h
  · rw [List.eq_of_mem_replicate h]; rfl
  · rw [digits_eq_map, List.mem_map] at h
    obtain ⟨d, hd, rfl⟩ := h
    exact (isDigit_digit (lt_of_mem_digitsOf hd)).1

theorem number_padded (width n : Nat) : number (padded width n) = n := by
  have hzeros : ∀ k, number (List.replicate k '0') = 0 := by
    intro k
    induction k with
    | zero => rfl
    | succ k ih => exact ih
  unfold padded number
  rw [List.foldl_append]
  exact (congrArg (fun m => (Decimal.digits n).foldl _ m) (hzeros _)).trans (number_digits n)

theorem length_padded {width n : Nat} (hw : 0 < width) (h : n < 10 ^ width) : (padded width n).length = width := by
  have := length_digits_le hw h
  rw [padded, List.length_append, List.length_replicate]
  omega

theorem padded_eq_cons (width n : Nat) : ∃ c r, padded width n = c :: r ∧ isDigit c = true := by
  cases hp : padded width n with
  | nil => exact absurd (List.append_eq_nil_iff.1 hp).2 (Decimal.digits_ne_nil n)
  | cons c r => exact ⟨c, r, rfl, isDigit_of_mem_padded (hp ▸ List.mem_cons_self)⟩

/-! ## Runs of digits -/

theorem takeWhile_padded (width n : Nat) {c : Char} (hc : isDigit c = false) (s : List Char) :
    (padded width n ++ c :: s).takeWhile isDigit = padded width n := by
  rw [List.takeWhile_append_of_pos (fun _ => isDigit_of_mem_padded), List.takeWhile_cons_of_neg (by rw [hc]; decide),
    List.append_nil]

theorem dropWhile_padded (width n : Nat) {c : Char} (hc : isDigit c = false) (s : List Char) :
    (padded width n ++ c :: s).dropWhile isDigit = c :: s := by
  rw [List.dropWhile_append_of_pos (fun _ => isDigit_of_mem_padded), List.dropWhile_cons_of_neg (by rw [hc]; decide)]

theorem trimStart_padded (width n : Nat) (s : List Char) :
    Text.trimStart (padded width n ++ s) = padded width n ++ s := by
  obtain ⟨c, r, hp, hc⟩ := padded_eq_cons width n
  rw [hp]
  refine Text.trimStart_cons ?_ _
  simp only [isDigit, Bool.and_eq_true, decide_eq_true_eq] at hc
  exact Text.isBlank_of_digit hc.1 hc.2

/-! ## Fields -/

/-- A number of the width is read off the front of whatever follows it. -/
theorem readField_padded {width n : Nat} (hw : 0 < width) (h : n < 10 ^ width) (s : List Char) :
    readField width (padded width n ++ s) = some (n, s) := by
  have hlen := length_padded hw h
  have htake : ((padded width n ++ s).take width).takeWhile isDigit = padded width n := by
    rw [List.take_left' hlen, List.takeWhile_eq_self_iff]
    exact fun c hc => isDigit_of_mem_padded hc
  obtain ⟨c, r, hp, -⟩ := padded_eq_cons width n
  unfold readField
  rw [trimStart_padded]
  simp only [htake]
  rw [hp]
  simp only
  rw [← hp, number_padded, List.drop_left' rfl]

theorem readDigits_padded (width n : Nat) {c : Char} (hc : isDigit c = false) (s : List Char) :
    readDigits (padded width n ++ c :: s) = some (n, c :: s) := by
  obtain ⟨d, r, hp, -⟩ := padded_eq_cons width n
  unfold readDigits
  rw [takeWhile_padded width n hc, dropWhile_padded width n hc, hp]
  simp only
  rw [← hp, number_padded]

/-- A year of four digits needs no sign, and any other has one. -/
theorem readYear_writeYear (y : Int) (s : List Char) : readYear (writeYear y ++ '-' :: s) = some (y, '-' :: s) := by
  unfold writeYear
  by_cases hfour : 0 ≤ y ∧ y ≤ 9999
  · obtain ⟨c, r, hp, hc⟩ := padded_eq_cons 4 y.toNat
    have hfield : readField 4 (padded 4 y.toNat ++ '-' :: s) = some (y.toNat, '-' :: s) :=
      readField_padded (by decide) (by omega) _
    rw [if_pos hfour]
    unfold readYear
    rw [trimStart_padded]
    rw [hp] at hfield ⊢
    rw [List.cons_append] at hfield ⊢
    split
    · rename_i h; cases h; cases hc
    · rename_i h; cases h; cases hc
    · rw [hfield, Option.map_some, Int.toNat_of_nonneg hfour.1]
  · have hdigits := readDigits_padded 4 y.natAbs (show isDigit '-' = false by decide) s
    rw [if_neg hfour]
    unfold readYear
    by_cases hn : y < 0
    · rw [if_pos hn, List.cons_append, Text.trimStart_cons (by decide)]
      simp only [hdigits, Option.map_some]
      congr 2
      omega
    · rw [if_neg hn, List.cons_append, Text.trimStart_cons (by decide)]
      simp only [hdigits, Option.map_some]
      congr 2
      omega

/-- The digits of a fraction, of which up to nine count. -/
theorem readFraction_padded {width n : Nat} (hw : 0 < width) (hnine : width ≤ 9) (h : n < 10 ^ width) {c : Char}
    (hc : isDigit c = false) (s : List Char) :
    readFraction ('.' :: (padded width n ++ c :: s)) = some (n * 10 ^ (9 - width), c :: s) := by
  have hlen := length_padded hw h
  have htake : ((padded width n ++ c :: s).take 9).takeWhile isDigit = padded width n := by
    obtain ⟨k, hk⟩ : ∃ k, 9 = (padded width n).length + k := ⟨9 - width, by omega⟩
    rw [hk, List.take_length_add_append]
    cases k with
    | zero =>
      rw [List.take_zero, List.append_nil, List.takeWhile_eq_self_iff]
      exact fun c hc => isDigit_of_mem_padded hc
    | succ k => exact takeWhile_padded width n hc _
  obtain ⟨d, r, hp, -⟩ := padded_eq_cons width n
  unfold readFraction
  simp only [htake, dropWhile_padded width n hc]
  rw [hp]
  simp only
  rw [← hp, number_padded, hlen]
  rfl

theorem readFraction_writeFraction {n : Nat} (h : n < 1000000000) (s : List Char) :
    readFraction (writeFraction n ++ 'Z' :: s) = some (n, 'Z' :: s) := by
  have hread : ∀ width m, 0 < width → width ≤ 9 → m < 10 ^ width → m * 10 ^ (9 - width) = n →
      readFraction ('.' :: padded width m ++ 'Z' :: s) = some (n, 'Z' :: s) := by
    rintro width m hw hnine hm rfl
    exact readFraction_padded hw hnine hm (by decide) s
  unfold writeFraction
  split
  · rename_i hzero
    rw [hzero]
    rfl
  · split
    · exact hread 3 (n / 1000000) (by decide) (by decide) (by omega) (by omega)
    · split
      · exact hread 6 (n / 1000) (by decide) (by decide) (by omega) (by omega)
      · exact hread 9 n (by decide) (by decide) (by omega) (by omega)

/-! ## Timestamps -/

theorem readMark_cons (c : Char) (s : List Char) : readMark c (c :: s) = some s := if_pos rfl

/-- The written parts of a timestamp are read one by one. -/
theorem read?_parts {date : Date} (hdate : date.isValid = true) {hour minute second nanos : Nat} (hh : hour < 100)
    (hm : minute < 100) (hs : second < 100) (hn : nanos < 1000000000) :
    read? (writeYear date.year ++ '-' :: padded 2 date.month ++ '-' :: padded 2 date.day ++
      'T' :: padded 2 hour ++ ':' :: padded 2 minute ++ ':' :: padded 2 second ++ writeFraction nanos ++ ['Z']) =
        ofParts date hour minute second nanos 0 := by
  obtain ⟨hmonth, hday⟩ := Date.le_of_isValid hdate
  have htwo : ∀ {n : Nat}, n < 100 → ∀ s, readField 2 (padded 2 n ++ s) = some (n, s) :=
    fun hn s => readField_padded (by decide) hn s
  have hmonth : ∀ s, readField 2 (padded 2 date.month ++ s) = some (date.month, s) := htwo (by omega)
  have hday : ∀ s, readField 2 (padded 2 date.day ++ s) = some (date.day, s) := htwo (by omega)
  simp only [List.append_assoc, List.cons_append]
  unfold read?
  simp only [bind, Option.bind, readYear_writeYear, Text.trimStart_cons (show Text.isBlank '-' = false by decide),
    Text.trimStart_cons (show Text.isBlank ':' = false by decide), readMark_cons, hmonth, hday, true_or, if_true,
    htwo hh, htwo hm, htwo hs, readFraction_writeFraction hn]
  rfl

/-- What is written for an instant of the calendar reads back as the instant. -/
theorem read?_write {t : Timestamp} (hon : t.instant.onCalendar = true) (hi : t.inserted = false) :
    read? t.write = some t := by
  obtain ⟨⟨nanos⟩, inserted⟩ := t
  obtain rfl : inserted = false := hi
  have hbounds : Instant.earliest ≤ ⟨nanos⟩ ∧ ⟨nanos⟩ ≤ Instant.latest := by
    simpa only [Instant.onCalendar, Bool.and_eq_true, decide_eq_true_eq] using hon
  have hl : -8334601228800 * 1000000000 ≤ nanos := hbounds.1
  have hm : nanos ≤ 8210266876799999999999 := hbounds.2
  obtain ⟨days, hdays⟩ : ∃ days, days = nanos / 1000000000 / 86400 := ⟨_, rfl⟩
  obtain ⟨s, hs⟩ : ∃ s : Nat, (nanos / 1000000000 % 86400).toNat = s := ⟨_, rfl⟩
  have hvalid := Date.isValid_ofDays days
  have hyear : -262143 ≤ (Date.ofDays days).year ∧ (Date.ofDays days).year ≤ 262142 :=
    Date.year_ofDays (by omega) (by omega)
  -- The day, the time of day and the fraction make up the instant again.
  have hinstant : ((Date.ofDays days).toDays * 86400 + (s / 3600 : Nat) * 3600 + (s / 60 % 60 : Nat) * 60 +
      (s % 60 : Nat) - 0) * 1000000000 + ((nanos % 1000000000).toNat : Nat) = nanos := by
    rw [Date.toDays_ofDays]
    omega
  have hsecond : s % 60 ≠ 60 := by omega
  unfold write
  simp only [Instant.seconds, Instant.fraction, ← hdays, hs, Bool.false_eq_true, if_false, Nat.add_zero]
  rw [read?_parts hvalid (by omega) (by omega) (by omega) (by omega)]
  unfold ofParts
  simp only [hsecond, if_false, decide_false, hinstant]
  refine if_pos ?_
  simp only [hvalid, hon, Bool.and_eq_true, decide_eq_true_eq, true_and, and_true]
  refine ⟨⟨⟨⟨⟨⟨hyear.1, hyear.2⟩, ?_⟩, ?_⟩, ?_⟩, ?_⟩, ?_⟩ <;> omega

end EdgeFleet.Timestamp
