/-!
# SHA-256

The hash of a byte sequence: the padded message is cut into blocks of sixteen words, and each
block is mixed into eight working words by sixty-four rounds.
-/

namespace EdgeFleet.Sha256

/-- The round constants. -/
def roundConstants : List UInt32 :=
  [0x428a2f98, 0x71374491, 0xb5c0fbcf, 0xe9b5dba5, 0x3956c25b, 0x59f111f1, 0x923f82a4, 0xab1c5ed5,
   0xd807aa98, 0x12835b01, 0x243185be, 0x550c7dc3, 0x72be5d74, 0x80deb1fe, 0x9bdc06a7, 0xc19bf174,
   0xe49b69c1, 0xefbe4786, 0x0fc19dc6, 0x240ca1cc, 0x2de92c6f, 0x4a7484aa, 0x5cb0a9dc, 0x76f988da,
   0x983e5152, 0xa831c66d, 0xb00327c8, 0xbf597fc7, 0xc6e00bf3, 0xd5a79147, 0x06ca6351, 0x14292967,
   0x27b70a85, 0x2e1b2138, 0x4d2c6dfc, 0x53380d13, 0x650a7354, 0x766a0abb, 0x81c2c92e, 0x92722c85,
   0xa2bfe8a1, 0xa81a664b, 0xc24b8b70, 0xc76c51a3, 0xd192e819, 0xd6990624, 0xf40e3585, 0x106aa070,
   0x19a4c116, 0x1e376c08, 0x2748774c, 0x34b0bcb5, 0x391c0cb3, 0x4ed8aa4a, 0x5b9cca4f, 0x682e6ff3,
   0x748f82ee, 0x78a5636f, 0x84c87814, 0x8cc70208, 0x90befffa, 0xa4506ceb, 0xbef9a3f7, 0xc67178f2]

/-- The eight working words. -/
structure Words where
  a : UInt32
  b : UInt32
  c : UInt32
  d : UInt32
  e : UInt32
  f : UInt32
  g : UInt32
  h : UInt32
deriving DecidableEq, Repr

/-- The words before the first block. -/
def initial : Words :=
  ⟨0x6a09e667, 0xbb67ae85, 0x3c6ef372, 0xa54ff53a, 0x510e527f, 0x9b05688c, 0x1f83d9ab, 0x5be0cd19⟩

/-- The word turned right by some bits, fewer than 32 and more than none. -/
def turn (x n : UInt32) : UInt32 := (x >>> n) ||| (x <<< (32 - n))

/-- The sixteen words of a block of bytes, the most significant byte first. -/
def blockWords : List UInt8 → List UInt32
  | p :: q :: r :: s :: rest =>
    ((p.toUInt32 <<< 24) ||| (q.toUInt32 <<< 16) ||| (r.toUInt32 <<< 8) ||| s.toUInt32) :: blockWords rest
  | _ => []

/-- Extends a schedule, kept latest word first, by some words. -/
def extend : Nat → List UInt32 → List UInt32
  | 0, w => w
  | n + 1, w =>
    let w2 := w[1]?.getD 0
    let w7 := w[6]?.getD 0
    let w15 := w[14]?.getD 0
    let w16 := w[15]?.getD 0
    let s0 := turn w15 7 ^^^ turn w15 18 ^^^ (w15 >>> 3)
    let s1 := turn w2 17 ^^^ turn w2 19 ^^^ (w2 >>> 10)
    extend n ((w16 + s0 + w7 + s1) :: w)

/-- The sixty-four words of the rounds of a block. -/
def schedule (block : List UInt8) : List UInt32 := (extend 48 (blockWords block).reverse).reverse

/-- One round with its constant and its schedule word. -/
def round (v : Words) (k w : UInt32) : Words :=
  let s1 := turn v.e 6 ^^^ turn v.e 11 ^^^ turn v.e 25
  let choice := (v.e &&& v.f) ^^^ (~~~v.e &&& v.g)
  let t1 := v.h + s1 + choice + k + w
  let s0 := turn v.a 2 ^^^ turn v.a 13 ^^^ turn v.a 22
  let majority := (v.a &&& v.b) ^^^ (v.a &&& v.c) ^^^ (v.b &&& v.c)
  ⟨t1 + (s0 + majority), v.a, v.b, v.c, v.d + t1, v.e, v.f, v.g⟩

/-- Mixes a block into the working words. -/
def mix (v : Words) (block : List UInt8) : Words :=
  let w := (roundConstants.zip (schedule block)).foldl (fun x p => round x p.1 p.2) v
  ⟨v.a + w.a, v.b + w.b, v.c + w.c, v.d + w.d, v.e + w.e, v.f + w.f, v.g + w.g, v.h + w.h⟩

/-- The bytes of a number, a given count of them, the most significant first. -/
def bigEndian (count n : Nat) : List UInt8 :=
  (List.range count).reverse.map (fun i => (n / Nat.pow 256 i % 256).toUInt8)

/-- The message followed by a one bit, zeros, and its length in bits, to whole blocks. -/
def pad (message : List UInt8) : List UInt8 :=
  let zeros := (119 - message.length % 64) % 64
  message ++ 0x80 :: List.replicate zeros 0 ++ bigEndian 8 (message.length * 8)

/-- A byte sequence in blocks of sixty-four. -/
def blocks (s : List UInt8) : List (List UInt8) :=
  (List.range (s.length / 64)).map (fun i => (s.drop (64 * i)).take 64)

/-- The thirty-two bytes of a hash. -/
def hash (message : List UInt8) : List UInt8 :=
  let v := (blocks (pad message)).foldl mix initial
  [v.a, v.b, v.c, v.d, v.e, v.f, v.g, v.h].flatMap (fun w => bigEndian 4 w.toNat)

-- A published test case of one block.
example : hash ("abc".toList.map Char.toUInt8) =
    [0xba, 0x78, 0x16, 0xbf, 0x8f, 0x01, 0xcf, 0xea, 0x41, 0x41, 0x40, 0xde, 0x5d, 0xae, 0x22, 0x23,
     0xb0, 0x03, 0x61, 0xa3, 0x96, 0x17, 0x7a, 0x9c, 0xb4, 0x10, 0xff, 0x61, 0xf2, 0x00, 0x15, 0xad] := by
  decide +kernel

end EdgeFleet.Sha256
