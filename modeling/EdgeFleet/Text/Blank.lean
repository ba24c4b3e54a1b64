/-!
# Blank space

The characters with the Unicode property White_Space, and trimming by them.
-/

namespace EdgeFleet.Text

/-- The characters of the property White_Space. -/
def isBlank (c : Char) : Bool :=
  let n := c.toNat
  (0x9 ≤ n && n ≤ 0xD) || n == 0x20 || n == 0x85 || n == 0xA0 || n == 0x1680 ||
    (0x2000 ≤ n && n ≤ 0x200A) || n == 0x2028 || n == 0x2029 || n == 0x202F || n == 0x205F || n == 0x3000

/-- The text without the blanks it starts with. -/
def trimStart (s : List Char) : List Char := s.dropWhile isBlank

/-- The text without the blanks it starts and ends with. -/
def trim (s : List Char) : List Char := (trimStart (trimStart s).reverse).reverse

/-- No digit is a blank. -/
theorem isBlank_of_digit {c : Char} (hl : 48 ≤ c.toNat) (hm : c.toNat ≤ 57) : isBlank c = false := by
  simp only [isBlank, Bool.or_eq_false_iff, Bool.and_eq_false_iff, decide_eq_false_iff_not, beq_eq_false_iff_ne]
  omega

theorem trimStart_append {b : List Char} (h : ∀ c ∈ b, isBlank c = true) (s : List Char) :
    trimStart (b ++ s) = trimStart s :=
  List.dropWhile_append_of_pos h

/-- A character that is no blank ends the blanks. -/
theorem trimStart_cons {c : Char} (h : isBlank c = false) (s : List Char) : trimStart (c :: s) = c :: s :=
  List.dropWhile_cons_of_neg (by rw [h]; decide)

end EdgeFleet.Text
