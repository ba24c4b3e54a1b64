import EdgeFleet.Attempt
import EdgeFleet.Credential.Header
import EdgeFleet.Credential.Payload
import EdgeFleet.Digest.Hmac
import EdgeFleet.Text.Base64
import EdgeFleet.Text.Split
/-!
# Issuing and verifying tunnel credentials

A token is three parts between dots, each in URL-safe base64: a header, the claims, and the keyed
hash of the first two parts as they are written. A token is verified from left to right in a fixed
order, and the first check that fails decides: its shape, its header, the algorithm, the signature,
the claims, their end of validity, their issuer and audience, and last the environment.
-/

namespace EdgeFleet

/-- A signed token and the instant from which it counts as expired. -/
structure Credentials where
  token : String
  expiresAt : Instant
deriving DecidableEq, Repr

/-- Whether credentials count as expired at an instant. -/
def Credentials.isExpiredAt (c : Credentials) (now : Instant) : Bool := c.expiresAt ≤ now

/-- Credentials count as expired at their end and past it. -/
theorem Credentials.isExpiredAt_iff {c : Credentials} {now : Instant} : c.isExpiredAt now = true ↔ c.expiresAt ≤ now :=
  decide_eq_true_iff

/-- What is wrong with a token itself. -/
inductive TokenFault where
  | shape
  | notBase64
  | notJson
  | algorithm
  | signature
  | noExpiry
  | issuer
  | audience
deriving DecidableEq, Repr

def TokenFault.message : TokenFault → String
  | shape => "InvalidToken"
  | notBase64 => "Base64 error"
  | notJson => "JSON error"
  | algorithm => "InvalidAlgorithm"
  | signature => "InvalidSignature"
  | noExpiry => "Missing required claim: exp"
  | issuer => "InvalidIssuer"
  | audience => "InvalidAudience"

/-- Why a token is not accepted. -/
inductive CredentialError where
  | token (fault : TokenFault)
  | expired
  | wrongEnvironment (expected : EnvironmentId) (presented : String)
deriving DecidableEq, Repr

def CredentialError.message : CredentialError → String
  | token fault => s!"JWT encoding error: {fault.message}"
  | expired => "Credentials expired"
  | wrongEnvironment expected presented =>
    s!"Credentials issued for environment {presented}, expected {expected}"

/-- Issues and verifies credentials with a secret, each valid for a span. -/
structure Issuer where
  secret : List UInt8
  validity : Span
deriving DecidableEq, Repr

namespace Issuer

def part (s : String) : List Char := Base64.encode .urlSafe (Utf8.bytes s)

/-- The signed part of the token with some claims. -/
def message (claims : Claims) : List Char :=
  part (TokenHeader.codec.encode .standard) ++ '.' :: part (Claims.codec.encode claims)

/-- The signature of a signed part. -/
def signature (i : Issuer) (message : List Char) : List Char :=
  Base64.encode .urlSafe (Hmac.sign i.secret (Utf8.encode message))

/-- The token with some claims. -/
def token (i : Issuer) (claims : Claims) : List Char :=
  message claims ++ '.' :: i.signature (message claims)

/-- Credentials for an environment, if the clock can be read and the calendar has the end of their
validity. -/
def issue? (i : Issuer) (now : Instant) (id : EnvironmentId) : Option Credentials :=
  (Claims.make? now i.validity id).map (fun c =>
    ⟨String.ofList (i.token c), .ofSeconds c.expiresAt.toInt⟩)

/-! ## Verifying -/

/-- The bytes of a part of a token. -/
def partBytes (s : List Char) : Except TokenFault (List UInt8) :=
  (Base64.decode .urlSafe (Utf8.encode s)).mapError (fun _ => .notBase64)

/-- The algorithm that the header part of a token names. -/
def algorithmOf (header : List Char) : Except TokenFault Algorithm := do
  let bytes ← partBytes header
  let h ← (TokenHeader.codec.decode bytes).mapError (fun _ => .notJson)
  .ok h.algorithm

/-- The claims in the payload part of a token. -/
def claimsOf (payload : List Char) : Except TokenFault Claims := do
  let bytes ← partBytes payload
  let (claims, hasEnd) ← (Payload.read bytes).mapError (fun _ => .notJson)
  if hasEnd then .ok claims else .error .noExpiry

/-- The signed part of a token with its two parts, and the signature. -/
def parts (token : List Char) : Option (List Char × List Char × List Char × List Char) := do
  let (message, signature) ← Text.splitLast '.' token
  let (header, payload) ← Text.splitLast '.' message
  some (message, header, payload, signature)

def signedClaims (i : Issuer) (token : List Char) : Except TokenFault Claims :=
  match parts token with
  | none => .error .shape
  | some (message, header, payload, signature) => do
    let algorithm ← algorithmOf header
    if algorithm ≠ .hs256 then .error .algorithm
    else if signature ≠ i.signature message then .error .signature
    else claimsOf payload

/-- The claims of a token that an agent of an environment presents. The clock is read once the claims
are known, and a second time before the environment is compared; the first reading asks only for
the seconds from the epoch, which has them beyond the calendar too. -/
def verify (i : Issuer) (now : Instant) (token : String) (id : EnvironmentId) :
    Outcome CredentialError Claims :=
  match i.signedClaims token.toList with
  | .error fault => .refused (.token fault)
  | .ok claims =>
    if now < .epoch then .crashed
    else if claims.isExpired now then .refused .expired
    else if claims.issuer ≠ Claims.ownIssuer then .refused (.token .issuer)
    else if claims.audience ≠ Claims.ownAudience then .refused (.token .audience)
    else if !now.isReadable then .crashed
    else if claims.environmentId? ≠ some id then .refused (.wrongEnvironment id claims.subject)
    else .done claims

end Issuer

end EdgeFleet
