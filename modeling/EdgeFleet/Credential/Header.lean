import EdgeFleet.Credential.Key
/-!
# Token headers

The header of a token names the algorithm of its signature. The other fields that headers may
have are read only for their shape.
-/

namespace EdgeFleet

/-- The algorithms that a token may name. -/
inductive Algorithm where
  | hs256
  | hs384
  | hs512
  | es256
  | es384
  | rs256
  | rs384
  | rs512
  | ps256
  | ps384
  | ps512
  | edDsa
deriving DecidableEq, Repr

namespace Algorithm

def all : List Algorithm :=
  [hs256, hs384, hs512, es256, es384, rs256, rs384, rs512, ps256, ps384, ps512, edDsa]

/-- The name of an algorithm. -/
def name : Algorithm → String
  | hs256 => "HS256"
  | hs384 => "HS384"
  | hs512 => "HS512"
  | es256 => "ES256"
  | es384 => "ES384"
  | rs256 => "RS256"
  | rs384 => "RS384"
  | rs512 => "RS512"
  | ps256 => "PS256"
  | ps384 => "PS384"
  | ps512 => "PS512"
  | edDsa => "EdDSA"

end Algorithm

structure TokenHeader where
  type : Option String
  algorithm : Algorithm
  contentType : Option String
  keySetUrl : Option String
  key : Option KeyKind
  keyId : Option String
  certificateUrl : Option String
  certificates : Option (List String)
  certificateHash : Option String
  longCertificateHash : Option String
deriving DecidableEq, Repr

namespace TokenHeader

def standard : TokenHeader :=
  ⟨some "JWT", .hs256, none, none, none, none, none, none, none, none⟩

open Json (Codec Fields)

/-- A field that is left out when it has no value and may be missing from an object. -/
def optional {α : Type} (name : String) (codec : Codec α) : Json.Field (Option α) where
  name := name
  codec := .option codec
  absent := some none
  leavesOut := Option.isNone

def codec : Codec TokenHeader :=
  (Fields.and (optional "typ" .string) <|
    .and { name := "alg", codec := .oneOf Algorithm.name Algorithm.all } <|
    .and (optional "cty" .string) <|
    .and (optional "jku" .string) <|
    .and (optional "jwk" KeyKind.codec) <|
    .and (optional "kid" .string) <|
    .and (optional "x5u" .string) <|
    .and (optional "x5c" (.list .string)) <|
    .and (optional "x5t" .string) <|
    .and (optional "x5t#S256" .string) .done).codec.rename
    (fun (type, algorithm, contentType, keySetUrl, key, keyId, certificateUrl, certificates,
        certificateHash, longCertificateHash, ()) =>
      { type, algorithm, contentType, keySetUrl, key, keyId, certificateUrl, certificates,
        certificateHash, longCertificateHash })
    (fun h => (h.type, h.algorithm, h.contentType, h.keySetUrl, h.key, h.keyId, h.certificateUrl,
      h.certificates, h.certificateHash, h.longCertificateHash, ()))

end TokenHeader

end EdgeFleet
