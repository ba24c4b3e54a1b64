import EdgeFleet.Json.Any
/-!
# Keys in headers

The header of a token may carry a public key. Nothing here uses it, but a header with something
else in its place is none: a key has the fields that its kind asks for, and what it may say beside
them has to fit too.
-/

namespace EdgeFleet

inductive KeyKind where
  | ellipticCurve
  | rsa
  | octets
  | octetPair
deriving DecidableEq, Repr

namespace KeyKind

open Json (Any Codec)

/-- Every kind, in the order in which they are tried. -/
def all : List KeyKind := [ellipticCurve, rsa, octets, octetPair]

def name : KeyKind → String
  | ellipticCurve => "EC"
  | rsa => "RSA"
  | octets => "oct"
  | octetPair => "OKP"

def curves : List String := ["P-256", "P-384", "P-521", "Ed25519"]

/-- The names of algorithms that a key may be for. -/
def algorithms : List String :=
  ["HS256", "HS384", "HS512", "ES256", "ES384", "RS256", "RS384", "RS512", "PS256", "PS384", "PS512",
    "EdDSA", "RSA1_5", "RSA-OAEP", "RSA-OAEP-256"]

/-- A field of an object: its name and what its value has to be. -/
abbrev Demand : Type := String × (Any → Bool)

/-- The fields that a kind asks for. -/
def demands (k : KeyKind) : List Demand :=
  let curve : Demand := ("crv", Any.isOneOf curves Any.isNull)
  ("kty", Any.isOneOf [k.name] Any.isNull) :: match k with
    | ellipticCurve => [curve, ("x", Any.isText), ("y", Any.isText)]
    | rsa => [("n", Any.isText), ("e", Any.isText)]
    | octets => [("k", Any.isText)]
    | octetPair => [curve, ("x", Any.isText)]

/-- The fields that any key may have. -/
def options : List Demand :=
  [("use", Any.isText), ("key_ops", Any.isTexts),
    ("alg", Any.isOneOf algorithms (fun v => v.isNull || v.isEmptyObject)), ("kid", Any.isText),
    ("x5u", Any.isText), ("x5c", Any.isTexts), ("x5t", Any.isText), ("x5t#S256", Any.isText)]

/-- The values under a name in the members of an object. -/
def valuesOf (name : String) (members : List (String × Any)) : List Any :=
  (members.filter (fun m => m.1 = name)).map (·.2)

/-- Whether an object has a field once, with a value that fits. -/
def meets (members : List (String × Any)) (d : Demand) : Bool :=
  match valuesOf d.1 members with
  | [v] => d.2 v
  | _ => false

/-- Whether an object lacks a field, or has it once with `null` or a value that fits. -/
def allows (members : List (String × Any)) (d : Demand) : Bool :=
  match valuesOf d.1 members with
  | [] => true
  | [v] => v.isNull || d.2 v
  | _ => false

/-- The kind of the key that an object is. -/
def ofMembers? (members : List (String × Any)) : Option KeyKind :=
  if options.all (allows members) then all.find? (fun k => k.demands.all (meets members)) else none

/-- A key inside a header, of which only the kind is kept. Its brackets are inside two others. -/
def codec : Codec KeyKind where
  write k := .obj [("kty", .str k.name)]
  read := Codec.ofKind (fun b => b = Json.byte '{') (fun _ r => do
    let (members, r) ← Codec.members Json.text (Any.read (Any.deepest - 2)) true r
    match ofMembers? members with
    | some k => .ok (k, r)
    | none => .error .unfitting)

end KeyKind

end EdgeFleet
