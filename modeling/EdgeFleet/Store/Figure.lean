import EdgeFleet.Text.Decimal
/-!
# Columns of numbers

A column of numbers holds whole numbers of 64 bits, but takes anything: a text that is the literal
of a number is kept as that number, any other text as it is. A literal with a point or an exponent
counts as the nearest binary number of 53 significant bits, and is kept as a whole number if that
is one of 64 bits.
-/

namespace EdgeFleet

/-- What a column of numbers holds. -/
inductive Figure where
  | whole (n : Int)
  /-- A number that is not kept as a whole one; nothing asks which. -/
  | real
  | text (s : String)
deriving DecidableEq, Repr

namespace Figure

/-- The literal of a number: its sign, its digits with those behind the point, and the power of ten
that they are multiplied by. -/
structure Literal where
  negative : Bool
  digits : Nat
  scale : Int
  /-- Whether the literal has neither point nor exponent. -/
  plain : Bool
deriving DecidableEq, Repr

/-- The blanks that may stand around a literal. -/
def isBlank (c : Char) : Bool := c = ' ' || (9 ≤ c.toNat && c.toNat ≤ 13)

/-- Whether a character is a decimal digit. -/
def isDigit (c : Char) : Bool := (Decimal.digitValue? c).isSome

/-- The number of a list of digits. -/
def number (s : List Char) : Nat := s.foldl (fun n c => n * 10 + (c.toNat - 48)) 0

/-- Reads a sign, where a missing one is `+`. -/
def readSign : List Char → Bool × List Char
  | '-' :: r => (true, r)
  | '+' :: r => (false, r)
  | s => (false, s)

/-- Reads the exponent that is all of a text, if it is not empty. -/
def readExponent? : List Char → Option (Option Int)
  | [] => some none
  | c :: r =>
    let (negative, ds) := readSign r
    if (c = 'e' ∨ c = 'E') ∧ ds ≠ [] ∧ ds.all isDigit then
      some (some (if negative then -(number ds : Int) else number ds))
    else none

/-- Reads a text as the literal of a number. -/
def literal? (s : List Char) : Option Literal := do
  let s := ((s.dropWhile isBlank).reverse.dropWhile isBlank).reverse
  let (negative, s) := readSign s
  let whole := s.takeWhile isDigit
  let (fraction, plain, s) := match s.dropWhile isDigit with
    | '.' :: r => (r.takeWhile isDigit, false, r.dropWhile isDigit)
    | s => ([], true, s)
  let exponent ← readExponent? s
  let x : Literal :=
    { negative
      digits := number (whole ++ fraction)
      scale := exponent.getD 0 - fraction.length
      plain := plain && exponent.isNone }
  if whole ++ fraction = [] then none else some x

/-- A quotient rounded to the nearest whole number; a tie goes to the even one. -/
def roundedQuotient (n d : Nat) : Nat :=
  let q := n / d
  let r := n % d
  if 2 * r > d ∨ (2 * r = d ∧ q % 2 = 1) then q + 1 else q

/-- The nearest binary number with 53 significant bits to a quotient, if it is whole: below one half
only zero is, and zero is nearest only to what the smallest such number is not nearer to. -/
def wholeNearest? (n d : Nat) : Option Nat :=
  if 2 * n < d then if n * Nat.pow 2 1075 ≤ d then some 0 else none
  else
    let bits := (n / d).log2
    if n < d then
      let m := roundedQuotient (n * Nat.pow 2 53) d
      if m % Nat.pow 2 53 = 0 then some (m / Nat.pow 2 53) else none
    else if bits ≤ 52 then
      let m := roundedQuotient (n * Nat.pow 2 (52 - bits)) d
      if m % Nat.pow 2 (52 - bits) = 0 then some (m / Nat.pow 2 (52 - bits)) else none
    else some (roundedQuotient n (d * Nat.pow 2 (bits - 52)) * Nat.pow 2 (bits - 52))

/-- The whole number that a literal with a point or an exponent is kept as, up to its sign. Literals
that are too large for any, or too small for anything but zero, are told by their power of ten. -/
def Literal.nearest? (x : Literal) : Option Nat :=
  if x.digits = 0 then some 0
  else if 0 ≤ x.scale then
    if 20 < x.scale then none else wholeNearest? (x.digits * Nat.pow 10 x.scale.toNat) 1
  else if (Decimal.digits x.digits).length + 400 < (-x.scale).toNat then some 0
  else wholeNearest? x.digits (Nat.pow 10 (-x.scale).toNat)

/-- What a literal is kept as. -/
def ofLiteral (x : Literal) : Figure :=
  let signed (n : Nat) : Int := if x.negative then -(n : Int) else n
  if x.plain ∧ Decimal.signed64.holds (signed x.digits) then .whole (signed x.digits)
  else match x.nearest? with
    | some n => if n < 0x8000000000000000 then .whole (signed n) else .real
    | none => .real

/-- What a text is kept as. -/
def ofText (s : String) : Figure :=
  match literal? s.toList with
  | some x => ofLiteral x
  | none => .text s

end Figure

end EdgeFleet
