/-!
# Hexadecimal digits

Two lower-case digits for each byte, and the value of one digit of either case.
-/

namespace EdgeFleet.Hex

/-- The digit of a value below sixteen. -/
def digit (n : Nat) : Char := if n < 10 then Char.ofNat (48 + n) else Char.ofNat (87 + n)

/-- The value of a digit, given as its byte. -/
def value? (b : UInt8) : Option Nat :=
  let n := b.toNat
  if 48 ≤ n ∧ n ≤ 57 then some (n - 48)
  else if 97 ≤ n ∧ n ≤ 102 then some (n - 87)
  else if 65 ≤ n ∧ n ≤ 70 then some (n - 55)
  else none

/-- Writes bytes, two digits each. -/
def encode (bytes : List UInt8) : List Char :=
  bytes.flatMap (fun b => [digit (b.toNat / 16), digit (b.toNat % 16)])

theorem value?_digit {n : Nat} (h : n < 16) : value? (digit n).toNat.toUInt8 = some n := by
  have : ∀ n < 16, value? (digit n).toNat.toUInt8 = some n := by decide
  exact this n h

end EdgeFleet.Hex
