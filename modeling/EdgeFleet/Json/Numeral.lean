import EdgeFleet.Json.Scan
import EdgeFleet.Text.Decimal
/-!
# Numbers in JSON texts

A number is first read for its parts (`Numeral`), then for its value. Only whole numbers have one;
a number with a fraction or an exponent, a negative zero and a whole number of more than 64 bits
are read as approximations, which fit nothing here, and a number whose approximation is infinite
is malformed.
-/

namespace EdgeFleet.Json

/-- The parts of a number: its sign, the digits before and behind the point, and the exponent
with its sign. -/
structure Numeral where
  negative : Bool
  whole : List Nat
  fraction : List Nat
  exponent : Option (Bool × List Nat)
deriving DecidableEq, Repr

namespace Numeral

/-- The value of a byte that is a decimal digit. -/
def digit? (b : UInt8) : Option Nat :=
  if 48 ≤ b.toNat ∧ b.toNat ≤ 57 then some (b.toNat - 48) else none

/-- Reads a run of digits, which may be empty. -/
def run : List UInt8 → List Nat × List UInt8
  | [] => ([], [])
  | b :: r =>
    match digit? b with
    | some d => (d :: (run r).1, (run r).2)
    | none => ([], b :: r)

/-- Reads at least one digit; `atEnd` is the fault of an input that ends instead. -/
def someDigits (atEnd : Fault) : Reader (List Nat)
  | [] => .error atEnd
  | b :: r => if (digit? b).isSome then .ok (run (b :: r)) else .error .malformed

/-- Reads the digits before the point: a zero, or a run that starts with none. -/
def wholeDigits (atEnd : Fault) (s : List UInt8) : Except Fault (List Nat × List UInt8) := do
  let (ds, rest) ← someDigits atEnd s
  match ds with
  | 0 :: _ :: _ => .error .malformed
  | _ => .ok (ds, rest)

/-- Reads a fraction, if one follows. -/
def fractionDigits (atEnd : Fault) : Reader (List Nat)
  | [] => .ok ([], [])
  | b :: r => if b = byte '.' then someDigits atEnd r else .ok ([], b :: r)

/-- Reads the sign of an exponent, where a missing one is `+`. -/
def exponentSign : List UInt8 → Bool × List UInt8
  | [] => (false, [])
  | b :: r => if b = byte '-' then (true, r) else if b = byte '+' then (false, r) else (false, b :: r)

/-- Reads an exponent, if one follows. -/
def exponentPart (atEnd : Fault) : Reader (Option (Bool × List Nat))
  | [] => .ok (none, [])
  | b :: r =>
    if b = byte 'e' ∨ b = byte 'E' then do
      let (negative, r) := exponentSign r
      let (ds, rest) ← someDigits atEnd r
      .ok (some (negative, ds), rest)
    else .ok (none, b :: r)

/-- Reads the parts of a number. -/
def read (atEnd : Fault) (s : List UInt8) : Except Fault (Numeral × List UInt8) := do
  let (negative, s) := match s with
    | [] => (false, [])
    | b :: r => if b = byte '-' then (true, r) else (false, b :: r)
  let (whole, s) ← wholeDigits atEnd s
  let (fraction, s) ← fractionDigits atEnd s
  let (exponent, s) ← exponentPart atEnd s
  .ok (⟨negative, whole, fraction, exponent⟩, s)

/-! ## Values -/

/-- The number of a list of digits. -/
def number (ds : List Nat) : Nat := ds.foldl (fun n d => n * 10 + d) 0

/-- Extends a number by digits as long as it keeps to 64 bits, and counts the digits left over. -/
def extend : Nat → List Nat → Nat × Nat
  | n, [] => (n, 0)
  | n, d :: r => if n * 10 + d < 0x10000000000000000 then extend (n * 10 + d) r else (n, r.length + 1)

/-- The nearest number with at most 53 significant bits; a tie goes to the even one. -/
def nearest53 (n : Nat) : Nat :=
  let unit := Nat.pow 2 (n.log2 - 52)
  let q := n / unit
  let r := n % unit
  if 2 * r > unit ∨ (2 * r = unit ∧ q % 2 = 1) then (q + 1) * unit else q * unit

/-- Whether a significand and a decimal exponent give an infinite approximation: the product of
both, each rounded to 53 bits, rounds to a number of more than 1024 bits. -/
def isInfinite (significand : Nat) (exponent : Int) : Bool :=
  significand != 0 && (308 < exponent ||
    (0 ≤ exponent && Nat.pow 2 1024 - Nat.pow 2 970 ≤ nearest53 significand * nearest53 (Nat.pow 10 exponent.toNat)))

/-- The value of a number, `none` for one that is only approximated. -/
def value (x : Numeral) : Except Fault (Option Int) :=
  let n := number x.whole
  if x.fraction = [] ∧ x.exponent = none ∧ n < 0x10000000000000000 then
    if ¬ x.negative then .ok (some n)
    else if 0 < n ∧ n ≤ 0x8000000000000000 then .ok (some (-n))
    else .ok none
  else
    let (significand, dropped) := extend 0 x.whole
    let (significand, ignored) := extend significand x.fraction
    let scale : Int := (dropped : Int) - ((x.fraction.length - ignored : Nat) : Int)
    match x.exponent with
    | none => if isInfinite significand scale then .error .malformed else .ok none
    | some (negative, ds) =>
      let e : Int := number ds
      if negative then if isInfinite significand (scale - e) then .error .malformed else .ok none
      else if isInfinite significand (scale + e) then .error .malformed else .ok none

end Numeral

end EdgeFleet.Json
