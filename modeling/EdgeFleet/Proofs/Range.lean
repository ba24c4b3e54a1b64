import EdgeFleet.Proofs.Decimal
import EdgeFleet.Proofs.Pool
import Mathlib.Data.List.TakeWhile
import Mathlib.SetTheory.Cardinal.Finite
/-!
# Which texts are port ranges

A text spells two ports when it has a hyphen and what stands on either side of the first one is, the blanks
around it aside, a literal of a port (`Spells`). Reading accepts exactly the texts that spell two ports in order,
as the range between them, whose size is the number of its ports (`reads_iff_spells`). Two ports that stand the
wrong way round are named in the refusal.
-/

namespace EdgeFleet

namespace Text

variable {c : Char} {s t : List Char}

/-! ## Trimming -/

/-- Whether a text is what is left of another without the blanks that this one starts and ends with. -/
structure Trims (s t : List Char) : Prop where
  around : ∃ before after, s = before ++ t ++ after ∧
    (∀ c ∈ before, isBlank c = true) ∧ ∀ c ∈ after, isBlank c = true
  head : ∀ c ∈ t.head?, isBlank c = false
  last : ∀ c ∈ t.getLast?, isBlank c = false

theorem trimStart_eq_self (h : ∀ c ∈ s.head?, isBlank c = false) : trimStart s = s := by
  cases s with
  | nil => rfl
  | cons c s => exact trimStart_cons (h c rfl) s

/-- Blanks are taken off until there is none. -/
theorem exists_trimStart (s : List Char) :
    (∃ before, s = before ++ trimStart s ∧ ∀ c ∈ before, isBlank c = true) ∧
      ∀ c ∈ (trimStart s).head?, isBlank c = false := by
  refine ⟨⟨s.takeWhile isBlank, List.takeWhile_append_dropWhile.symm, List.all_eq_true.1 List.all_takeWhile⟩, ?_⟩
  intro c hc
  have hhead := List.head?_dropWhile_not isBlank s
  rw [show (s.dropWhile isBlank).head? = some c from hc] at hhead
  exact hhead

theorem trims_trim (s : List Char) : Trims s (trim s) := by
  obtain ⟨⟨before, hbefore, hblank⟩, hhead⟩ := exists_trimStart s
  obtain ⟨⟨after, hafter, hblank'⟩, hlast⟩ := exists_trimStart (trimStart s).reverse
  have hstart : trimStart s = trim s ++ after.reverse := by
    rw [trim, ← List.reverse_append, ← hafter, List.reverse_reverse]
  refine ⟨⟨before, after.reverse, ?_, hblank, fun c hc => hblank' c (List.mem_reverse.1 hc)⟩, fun c hc => ?_, ?_⟩
  · rw [List.append_assoc, ← hstart]
    exact hbefore
  · refine hhead c ?_
    rw [hstart, List.head?_append, hc]
    rfl
  · rw [trim, List.getLast?_reverse]
    exact hlast

theorem Trims.trim_eq (h : Trims s t) : trim s = t := by
  obtain ⟨before, after, rfl, hbefore, hafter⟩ := h.around
  have hlast : trimStart t.reverse = t.reverse := trimStart_eq_self (by rw [List.head?_reverse]; exact h.last)
  have hend : trimStart (t ++ after).reverse = t.reverse := by
    rw [List.reverse_append, trimStart_append (fun c hc => hafter c (List.mem_reverse.1 hc)), hlast]
  rw [List.append_assoc, trim, trimStart_append hbefore]
  cases t with
  | nil =>
    -- Nothing is left, so the blanks behind are taken off at the start.
    have hall : trimStart after = [] := List.dropWhile_eq_nil_iff.2 hafter
    rw [List.nil_append, hall]
    rfl
  | cons c t => rw [List.cons_append, trimStart_cons (h.head c rfl), ← List.cons_append, hend, List.reverse_reverse]

theorem trim_eq_iff : trim s = t ↔ Trims s t := ⟨fun h => h ▸ trims_trim s, Trims.trim_eq⟩

theorem trims_self (h : ∀ c ∈ s, isBlank c = false) : Trims s s :=
  ⟨⟨[], [], by simp, by simp, by simp⟩, fun c hc => h c (List.mem_of_head? hc),
    fun c hc => h c (List.mem_of_getLast? hc)⟩

end Text

namespace PortRange

variable {s p : List Char} {port first last : UInt16} {r : PortRange}

/-! ## What spells two ports -/

/-- Whether a text is, the blanks around it aside, a literal of a port. -/
def SpellsPort (s : List Char) (port : UInt16) : Prop :=
  ∃ literal, Text.Trims s literal ∧ Decimal.Denotes Decimal.word16 literal port.toNat

/-- Whether a text has a hyphen and the texts before and after the first one spell two ports. -/
def Spells (s : List Char) (first last : UInt16) : Prop :=
  ∃ before after, s = before ++ '-' :: after ∧ '-' ∉ before ∧ SpellsPort before first ∧ SpellsPort after last

theorem readPort_eq_ok_iff : readPort s = .ok port ↔ SpellsPort s port := by
  unfold readPort SpellsPort
  simp only [map_eq_ok_iff, Decimal.read_eq_ok_iff (r := Decimal.word16) (by decide) (by decide), ← Text.trim_eq_iff]
  constructor
  · rintro ⟨n, hn, rfl⟩
    exact ⟨_, rfl, by rwa [Decimal.toNat_ofInt hn.holds]⟩
  · rintro ⟨_, rfl, hn⟩
    exact ⟨_, hn, Decimal.ofInt_toNat port⟩

/-! ## What is read -/

theorem decide_ne_hyphen (h : '-' ∉ s) : ∀ c ∈ s, decide (c ≠ '-') = true :=
  fun _ hc => decide_eq_true (fun e => h (e ▸ hc))

/-- A text without a hyphen is refused, and the refusal repeats it. -/
theorem read_of_not_mem (h : '-' ∉ s) : read s = .error (.noHyphen (String.ofList s)) := by
  have hnone : s.dropWhile (· ≠ '-') = [] := List.dropWhile_eq_nil_iff.2 (decide_ne_hyphen h)
  unfold read
  rw [hnone]

/-- The text is cut at its first hyphen, and what stands before it is read first. -/
theorem read_append_cons (h : '-' ∉ p) (q : List Char) : read (p ++ '-' :: q) = (do
    let first ← (readPort p).mapError .badFirst
    let last ← (readPort q).mapError .badLast
    if h : first ≤ last then .ok ⟨first, last, h⟩ else .error (.reversed first last)) := by
  unfold read
  rw [List.dropWhile_append_of_pos (decide_ne_hyphen h), List.takeWhile_append_of_pos (decide_ne_hyphen h),
    List.dropWhile_cons_of_neg (by decide), List.takeWhile_cons_of_neg (by decide), List.append_nil]

/-- Two ports make a range if they are in order; else both are named in the refusal. -/
theorem Spells.read_eq (h : Spells s first last) :
    read s = if h : first ≤ last then .ok ⟨first, last, h⟩ else .error (.reversed first last) := by
  obtain ⟨before, after, rfl, hbefore, hfirst, hlast⟩ := h
  rw [read_append_cons hbefore, readPort_eq_ok_iff.2 hfirst, readPort_eq_ok_iff.2 hlast]
  rfl

example : read "9000 - 8000".toList = .error (.reversed 9000 8000) := by decide

theorem spells_of_read (h : read s = .ok r) : Spells s r.first r.last := by
  by_cases hmem : '-' ∈ s
  · obtain ⟨before, after, rfl, hbefore⟩ := List.eq_append_cons_of_mem hmem
    rw [read_append_cons hbefore] at h
    obtain ⟨first, hfirst, h⟩ := bind_eq_ok_iff.1 h
    obtain ⟨last, hlast, h⟩ := bind_eq_ok_iff.1 h
    rw [mapError_eq_ok_iff, readPort_eq_ok_iff] at hfirst hlast
    split at h
    · cases h
      exact ⟨before, after, rfl, hbefore, hfirst, hlast⟩
    · cases h
  · rw [read_of_not_mem hmem] at h
    cases h

theorem read_eq_ok_iff : read s = .ok r ↔ Spells s r.first r.last :=
  ⟨spells_of_read, fun h => h.read_eq.trans (dif_pos r.ordered)⟩

theorem Spells.bounds (h : Spells s first last) (hr : read s = .ok r) : r.first = first ∧ r.last = last := by
  rw [h.read_eq] at hr
  split at hr
  · cases hr
    exact ⟨rfl, rfl⟩
  · cases hr

/-! ## What is written -/

theorem spellsPort_digits (port : UInt16) : SpellsPort (Decimal.digits port.toNat) port := by
  refine ⟨_, Text.trims_self (fun c hc => ?_), Decimal.denotes_write (by decide) (by decide) (Decimal.holds_toNat port)⟩
  obtain ⟨hl, hm⟩ := (Decimal.isDigit_iff c).1 (Decimal.isDigit_of_mem_digits hc)
  exact Text.isBlank_of_digit hl hm

theorem spells_write (r : PortRange) : Spells r.write r.first r.last :=
  ⟨_, _, rfl, fun hm => absurd (Decimal.isDigit_of_mem_digits hm) (by decide), spellsPort_digits _, spellsPort_digits _⟩

/-- The text of a range is made of the standard texts of its ends. -/
theorem toList_text (r : PortRange) : s!"{r.first}-{r.last}".toList = r.write := by
  have hdigits : ∀ port : UInt16, (toString port).toList = Decimal.digits port.toNat := fun port =>
    Decimal.toList_toString port.toNat
  change (toString r.first ++ "-" ++ toString r.last).toList = r.write
  rw [String.toList_append, String.toList_append, hdigits, hdigits, List.append_assoc]
  rfl

theorem read_write (r : PortRange) : read r.write = .ok r := read_eq_ok_iff.2 r.spells_write

/-! ## How many ports there are -/

/-- The distance of the ends as words is the one of their numbers, because the first is not above the last. -/
theorem toNat_sub_add (r : PortRange) : (r.last - r.first).toNat + r.first.toNat = r.last.toNat := by
  rw [UInt16.toNat_sub_of_le _ _ r.ordered]
  exact Nat.sub_add_cancel (UInt16.le_iff_toNat_le.1 r.ordered)

theorem size_eq (r : PortRange) : r.size = (r.last - r.first).toNat + 1 := by
  have hsub := r.toNat_sub_add
  unfold size
  omega

theorem size_le (r : PortRange) : r.size ≤ 65536 := by
  have hlt := r.last.toNat_lt
  unfold size
  omega

theorem card_contains (r : PortRange) : Nat.card {port : UInt16 // r.contains port = true} = r.size := by
  rw [Nat.subtype_card r.ports.toFinset (fun port => by rw [List.mem_toFinset, r.mem_ports]),
    List.toFinset_card_of_nodup r.nodup_ports, r.length_ports]

/-- A text is read as a range exactly when it spells two ports in order, and these are the ends of the range. Its
size is their distance and one more, where the distance does not go below zero; it lies between 1 and 65536 and is
the number of ports that the range contains. Any two ports in order with a hyphen between them are read as their
range. -/
theorem reads_iff_spells (s : List Char) :
    ((∃ r, read s = .ok r) ↔ ∃ first last, Spells s first last ∧ first ≤ last) ∧
    (∀ r, read s = .ok r →
      (∀ first last, Spells s first last → r.first = first ∧ r.last = last) ∧
      (r.last - r.first).toNat + r.first.toNat = r.last.toNat ∧ r.size = (r.last - r.first).toNat + 1 ∧
      1 ≤ r.size ∧ r.size ≤ 65536 ∧ Nat.card {port : UInt16 // r.contains port = true} = r.size) ∧
    ∀ first last (h : first ≤ last), read s!"{first}-{last}".toList = .ok ⟨first, last, h⟩ := by
  refine ⟨⟨?_, ?_⟩, fun r hr => ?_, fun first last h => ?_⟩
  · rintro ⟨r, hr⟩
    exact ⟨r.first, r.last, read_eq_ok_iff.1 hr, r.ordered⟩
  · rintro ⟨first, last, hspells, hle⟩
    exact ⟨⟨first, last, hle⟩, read_eq_ok_iff.2 hspells⟩
  · exact ⟨fun first last hspells => hspells.bounds hr, r.toNat_sub_add, r.size_eq, r.size_pos, r.size_le,
      r.card_contains⟩
  · exact (congrArg read (toList_text ⟨first, last, h⟩)).trans (read_write _)

/-- Blanks beyond ASCII, a plus sign and leading zeros are passed over, and the range of all ports is read. -/
theorem reads_padded_ports :
    Spells "\u3000+080-\t0090 ".toList 80 90 ∧
    (∃ r, read "\u3000+080-\t0090 ".toList = .ok r ∧ r.first = 80 ∧ r.last = 90 ∧ r.size = 11 ∧
      Nat.card {port : UInt16 // r.contains port = true} = 11) ∧
    read "0-65535".toList = .ok ⟨0, 65535, by decide⟩ := by
  have hspells : Spells "\u3000+080-\t0090 ".toList 80 90 :=
    ⟨"\u3000+080".toList, "\t0090 ".toList, by decide, by decide, readPort_eq_ok_iff.1 (by decide),
      readPort_eq_ok_iff.1 (by decide)⟩
  obtain ⟨hiff, hread, hback⟩ := reads_iff_spells "\u3000+080-\t0090 ".toList
  obtain ⟨r, hr⟩ := hiff.2 ⟨80, 90, hspells, by decide⟩
  obtain ⟨hbounds, -, hsize, -, -, hcard⟩ := hread r hr
  obtain ⟨hfirst, hlast⟩ := hbounds 80 90 hspells
  have hsize : r.size = 11 := by rw [hsize, hfirst, hlast]; rfl
  exact ⟨hspells, ⟨r, hr, hfirst, hlast, hsize, hcard.trans hsize⟩, hback 0 65535 (by decide)⟩

end PortRange

end EdgeFleet
