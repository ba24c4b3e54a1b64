import EdgeFleet.Environment.Codec
import EdgeFleet.Time.Instant
/-!
# Claims

What a tunnel credential says: for which environment it was issued, when, until when, by whom and
for whom. Times are whole seconds. A validity that leads off the calendar makes no claims, nor does
a clock that cannot be read.
-/

namespace EdgeFleet

structure Claims where
  subject : String
  issuedAt : Int64
  expiresAt : Int64
  issuer : String
  audience : String
deriving DecidableEq, Repr

namespace Claims

/-- Who issues tunnel credentials. -/
def ownIssuer : String := "edgeward"

/-- For whom tunnel credentials are issued. -/
def ownAudience : String := "edgeward-tunnel"

/-- The claims for an environment made at an instant and valid for a span, if a clock can be read
then and the calendar has their end. -/
def make? (now : Instant) (validity : Span) (id : EnvironmentId) : Option Claims :=
  if now.isReadable then
    (now.plus? validity).map (fun e =>
      ⟨id.text, Int64.ofInt now.seconds, Int64.ofInt e.seconds, ownIssuer, ownAudience⟩)
  else none

/-- Whether the end of validity lies before the current second. -/
def isExpired (c : Claims) (now : Instant) : Bool := c.expiresAt.toInt < now.seconds

/-- Whether the claims are expired by a clock, if it can be read. -/
def isExpiredBy? (c : Claims) (now : Instant) : Option Bool :=
  if now.isReadable then some (c.isExpired now) else none

/-- The environment that the subject names. -/
def environmentId? (c : Claims) : Option EnvironmentId :=
  match Decimal.read Decimal.signed32 c.subject.toList with
  | .ok n => some ⟨Int32.ofInt n⟩
  | .error _ => none

open Json (Codec Fields)

def codec : Codec Claims :=
  (Fields.and { name := "sub", codec := .string } <|
    .and { name := "iat", codec := .int64 } <|
    .and { name := "exp", codec := .int64 } <|
    .and { name := "iss", codec := .string } <|
    .and { name := "aud", codec := .string } .done).codec.rename
    (fun (subject, issuedAt, expiresAt, issuer, audience, ()) =>
      { subject, issuedAt, expiresAt, issuer, audience })
    (fun c => (c.subject, c.issuedAt, c.expiresAt, c.issuer, c.audience, ()))

end Claims

end EdgeFleet
