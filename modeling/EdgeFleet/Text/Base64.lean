import EdgeFleet.Text.Utf8
/-!
# Base64 without padding

Three bytes are written as four letters of an alphabet; one or two bytes at the end as two or
three letters, whose unused low bits are zero. Reading accepts exactly what writing produces:
a letter outside the alphabet, a lone last letter and unused bits that are not zero are faults.
-/

namespace EdgeFleet.Base64

/-- The two alphabets: they differ in their last two letters. -/
inductive Alphabet where
  | standard
  | urlSafe
deriving DecidableEq, Repr

/-- The letter of a value below 64. -/
def Alphabet.letter (a : Alphabet) (n : Nat) : Char :=
  if n < 26 then Char.ofNat (65 + n)
  else if n < 52 then Char.ofNat (97 + (n - 26))
  else if n < 62 then Char.ofNat (48 + (n - 52))
  else match a with
    | .standard => if n = 62 then '+' else '/'
    | .urlSafe => if n = 62 then '-' else '_'

/-- The value of a letter, given as its byte. -/
def Alphabet.value? (a : Alphabet) (b : UInt8) : Option Nat :=
  let n := b.toNat
  if 65 ≤ n ∧ n ≤ 90 then some (n - 65)
  else if 97 ≤ n ∧ n ≤ 122 then some (n - 97 + 26)
  else if 48 ≤ n ∧ n ≤ 57 then some (n - 48 + 52)
  else match a with
    | .standard => if n = 43 then some 62 else if n = 47 then some 63 else none
    | .urlSafe => if n = 45 then some 62 else if n = 95 then some 63 else none

/-- Why a text is not the writing of any bytes. -/
inductive Fault where
  | outsideAlphabet (byte : UInt8) (offset : Nat)
  | loneLetter
  | unusedBits (byte : UInt8) (offset : Nat)
deriving DecidableEq, Repr

def Fault.message : Fault → String
  | outsideAlphabet byte offset => s!"Invalid byte {byte.toNat}, offset {offset}."
  | loneLetter => "Encoded text cannot have a 6-bit remainder."
  | unusedBits byte offset => s!"Invalid last symbol {byte.toNat}, offset {offset}."

def encode (a : Alphabet) : List UInt8 → List Char
  | [] => []
  | [x] => [a.letter (x.toNat / 4), a.letter (x.toNat % 4 * 16)]
  | [x, y] =>
    [a.letter (x.toNat / 4), a.letter (x.toNat % 4 * 16 + y.toNat / 16), a.letter (y.toNat % 16 * 4)]
  | x :: y :: z :: r =>
    a.letter (x.toNat / 4) :: a.letter (x.toNat % 4 * 16 + y.toNat / 16) ::
      a.letter (y.toNat % 16 * 4 + z.toNat / 64) :: a.letter (z.toNat % 64) :: encode a r

/-- The values of letters that start at an offset, or the first that has none. -/
def values (a : Alphabet) (offset : Nat) : List UInt8 → Except Fault (List Nat)
  | [] => .ok []
  | b :: r =>
    match a.value? b with
    | none => .error (.outsideAlphabet b offset)
    | some v => (values a (offset + 1) r).map (v :: ·)

/-- The bytes of letter values, four values for three bytes; `none` when the unused low bits of
the last value are not zero. A lone last value has no byte. -/
def pack : List Nat → Option (List UInt8)
  | [] => some []
  | [_] => some []
  | [p, q] => if q % 16 = 0 then some [(p * 4 + q / 16).toUInt8] else none
  | [p, q, s] =>
    if s % 4 = 0 then some [(p * 4 + q / 16).toUInt8, (q % 16 * 16 + s / 4).toUInt8] else none
  | p :: q :: s :: t :: r =>
    (pack r).map (fun l =>
      (p * 4 + q / 16).toUInt8 :: (q % 16 * 16 + s / 4).toUInt8 :: (s % 4 * 64 + t).toUInt8 :: l)

/-- Reads the bytes that a text, given as its own bytes, writes. A lone last letter is reported
before anything that precedes it; else the first letter outside the alphabet is. -/
def decode (a : Alphabet) (s : List UInt8) : Except Fault (List UInt8) :=
  let last := s.getLast?.getD 0
  let offset := s.length - 1
  if s.length % 4 = 1 then
    if (a.value? last).isNone then .error (.outsideAlphabet last offset) else .error .loneLetter
  else do
    let vs ← values a 0 s
    match pack vs with
    | some bytes => .ok bytes
    | none => .error (.unusedBits last offset)

def text (a : Alphabet) (bytes : List UInt8) : String := String.ofList (encode a bytes)

end EdgeFleet.Base64
