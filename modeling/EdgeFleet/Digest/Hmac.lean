import EdgeFleet.Digest.Sha256
/-!
# Keyed hashes

HMAC over SHA-256: a key is brought to one block, and the message is hashed twice, each time
behind the key combined with a constant.
-/

namespace EdgeFleet.Hmac

/-- The key as one block: hashed when it is longer, filled up with zeros when it is shorter. -/
def blockKey (key : List UInt8) : List UInt8 :=
  let k := if key.length > 64 then Sha256.hash key else key
  k ++ List.replicate (64 - k.length) 0

/-- The keyed hash of a message. -/
def sign (key message : List UInt8) : List UInt8 :=
  let k := blockKey key
  Sha256.hash (k.map (· ^^^ 0x5c) ++ Sha256.hash (k.map (· ^^^ 0x36) ++ message))

-- A published test case, with a key that is shorter than a block.
example : sign ("Jefe".toList.map Char.toUInt8) ("what do ya want for nothing?".toList.map Char.toUInt8) =
    [0x5b, 0xdc, 0xc1, 0x46, 0xbf, 0x60, 0x75, 0x4e, 0x6a, 0x04, 0x24, 0x26, 0x08, 0x95, 0x75, 0xc7,
     0x5a, 0x00, 0x3f, 0x08, 0x9d, 0x27, 0x39, 0x83, 0x9d, 0xec, 0x58, 0xb9, 0x64, 0xec, 0x38, 0x43] := by
  decide +kernel

end EdgeFleet.Hmac
