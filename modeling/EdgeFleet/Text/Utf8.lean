/-!
# UTF-8

A character is written as one to four bytes; the arithmetic is on natural numbers. Reading
refuses overlong forms, surrogates and numbers beyond the last character, and says where the
first fault lies: how many bytes form the broken sequence, or that the bytes end inside one.
-/

namespace EdgeFleet.Utf8

def encodeChar (c : Char) : List UInt8 :=
  let n := c.toNat
  if n < 0x80 then [n.toUInt8]
  else if n < 0x800 then [(0xC0 + n / 64).toUInt8, (0x80 + n % 64).toUInt8]
  else if n < 0x10000 then
    [(0xE0 + n / 4096).toUInt8, (0x80 + n / 64 % 64).toUInt8, (0x80 + n % 64).toUInt8]
  else
    [(0xF0 + n / 262144).toUInt8, (0x80 + n / 4096 % 64).toUInt8, (0x80 + n / 64 % 64).toUInt8,
      (0x80 + n % 64).toUInt8]

def encode (s : List Char) : List UInt8 := s.flatMap encodeChar

def bytes (s : String) : List UInt8 := encode s.toList

/-- What is wrong where a character should start: a broken sequence of some bytes, or an end of
input inside a sequence. -/
inductive Break where
  | broken (length : Nat)
  | cut
deriving DecidableEq, Repr

/-- The first fault of a byte sequence and its index. -/
inductive Fault where
  | invalid (length index : Nat)
  | incomplete (index : Nat)
deriving DecidableEq, Repr

def Fault.message : Fault → String
  | invalid length index => s!"invalid utf-8 sequence of {length} bytes from index {index}"
  | incomplete index => s!"incomplete utf-8 byte sequence from index {index}"

/-- The six bits of a continuation byte. -/
def continuation? (b : UInt8) : Option Nat :=
  if 0x80 ≤ b.toNat ∧ b.toNat < 0xC0 then some (b.toNat - 0x80) else none

/-- Whether a second byte may follow the first byte of a sequence of three or four. -/
def secondFits (first second : Nat) : Bool :=
  if first = 0xE0 then 0xA0 ≤ second && second < 0xC0
  else if first = 0xED then 0x80 ≤ second && second < 0xA0
  else if first = 0xF0 then 0x90 ≤ second && second < 0xC0
  else if first = 0xF4 then 0x80 ≤ second && second < 0x90
  else 0x80 ≤ second && second < 0xC0

/-- Reads one character off the front, with the number of bytes it took. -/
def step (b : UInt8) (r : List UInt8) : Except Break (Char × Nat) :=
  let f := b.toNat
  if f < 0x80 then .ok (Char.ofNat f, 1)
  else if 0xC2 ≤ f ∧ f < 0xE0 then
    match r with
    | [] => .error .cut
    | b1 :: _ =>
      match continuation? b1 with
      | none => .error (.broken 1)
      | some x => .ok (Char.ofNat ((f - 0xC0) * 64 + x), 2)
  else if 0xE0 ≤ f ∧ f < 0xF0 then
    match r with
    | [] => .error .cut
    | b1 :: r =>
      if secondFits f b1.toNat then
        match r with
        | [] => .error .cut
        | b2 :: _ =>
          match continuation? b2 with
          | none => .error (.broken 2)
          | some x => .ok (Char.ofNat ((f - 0xE0) * 4096 + (b1.toNat - 0x80) * 64 + x), 3)
      else .error (.broken 1)
  else if 0xF0 ≤ f ∧ f < 0xF5 then
    match r with
    | [] => .error .cut
    | b1 :: r =>
      if secondFits f b1.toNat then
        match r with
        | [] => .error .cut
        | b2 :: r =>
          match continuation? b2 with
          | none => .error (.broken 2)
          | some x =>
            match r with
            | [] => .error .cut
            | b3 :: _ =>
              match continuation? b3 with
              | none => .error (.broken 3)
              | some y =>
                .ok (Char.ofNat ((f - 0xF0) * 262144 + (b1.toNat - 0x80) * 4096 + x * 64 + y), 4)
      else .error (.broken 1)
  else .error (.broken 1)

/-- Reads the rest of a byte sequence whose first `index` bytes were read. -/
def decodeFrom (index : Nat) : List UInt8 → Except Fault (List Char)
  | [] => .ok []
  | b :: r =>
    match step b r with
    | .error .cut => .error (.incomplete index)
    | .error (.broken n) => .error (.invalid n index)
    | .ok (c, n) => (decodeFrom (index + n) (r.drop (n - 1))).map (c :: ·)
termination_by s => s.length
decreasing_by simp only [List.length_drop, List.length_cons]; omega

/-- Reads a byte sequence as text. -/
def decode (s : List UInt8) : Except Fault (List Char) := decodeFrom 0 s

/-- The character that takes the place of a broken sequence. -/
def replacement : Char := '\uFFFD'

/-- Reads a byte sequence as text with a replacement for every fault. -/
def decodeLossy : List UInt8 → List Char
  | [] => []
  | b :: r =>
    match step b r with
    | .error .cut => [replacement]
    | .error (.broken n) => replacement :: decodeLossy (r.drop (n - 1))
    | .ok (c, n) => c :: decodeLossy (r.drop (n - 1))
termination_by s => s.length
decreasing_by all_goals simp only [List.length_drop, List.length_cons]; omega

end EdgeFleet.Utf8
