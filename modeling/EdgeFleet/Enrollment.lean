import EdgeFleet.Digest.Sha256
import EdgeFleet.Environment.Basic
import EdgeFleet.Text.Base64
import EdgeFleet.Text.Decimal
import EdgeFleet.Text.Hex
import EdgeFleet.Text.Split
/-!
# Enrollment keys

An enrollment key tells a fresh agent where to poll, where to open its tunnel, which server
fingerprint to trust and which environment it belongs to: four fields between bars, written in
base64 without padding. Reading ignores padding at the end.
-/

namespace EdgeFleet

/-- What an agent enrolls with. -/
structure EnrollmentKey where
  apiUrl : String
  tunnelAddress : String
  fingerprint : String
  environmentId : EnvironmentId
deriving DecidableEq, Repr

/-- Why a text is no enrollment key. -/
inductive EnrollmentKeyFault where
  | notBase64 (fault : Base64.Fault)
  | notText (fault : Utf8.Fault)
  | fieldCount (found : Nat)
  | badId (fault : Decimal.Fault)
deriving DecidableEq, Repr

def EnrollmentKeyFault.message : EnrollmentKeyFault → String
  | notBase64 fault => s!"Invalid edge key: {fault.message}"
  | notText fault => s!"Invalid edge key: {fault.message}"
  | fieldCount found => s!"Invalid edge key: expected 4 fields, found {found}"
  | badId fault => s!"Invalid edge key: environment id: {fault.message}"

namespace EnrollmentKey

/-- The fields between bars. -/
def plain (k : EnrollmentKey) : List Char :=
  k.apiUrl.toList ++ '|' :: k.tunnelAddress.toList ++ '|' :: k.fingerprint.toList ++
    '|' :: Decimal.write k.environmentId.number.toInt

def encode (k : EnrollmentKey) : List Char := Base64.encode .standard (Utf8.encode k.plain)

def text (k : EnrollmentKey) : String := String.ofList k.encode

/-- The text without the padding at its end. -/
def withoutPadding (s : List Char) : List Char := (s.reverse.dropWhile (· = '=')).reverse

/-- Reads the fields between bars. -/
def ofPlain (s : List Char) : Except EnrollmentKeyFault EnrollmentKey :=
  match Text.splitAll '|' s with
  | [apiUrl, tunnelAddress, fingerprint, id] => do
    let n ← (Decimal.read Decimal.signed32 id).mapError .badId
    .ok
      { apiUrl := String.ofList apiUrl
        tunnelAddress := String.ofList tunnelAddress
        fingerprint := String.ofList fingerprint
        environmentId := ⟨Int32.ofInt n⟩ }
  | fields => .error (.fieldCount fields.length)

/-- Reads a written key. -/
def decode (s : List Char) : Except EnrollmentKeyFault EnrollmentKey := do
  let bytes ← (Base64.decode .standard (Utf8.encode (withoutPadding s))).mapError .notBase64
  let plain ← (Utf8.decode bytes).mapError .notText
  ofPlain plain

end EnrollmentKey

/-- The fingerprint of a server's secret, which agents compare: its hash in hexadecimal digits. -/
def fingerprint (secret : List UInt8) : String := String.ofList (Hex.encode (Sha256.hash secret))

end EdgeFleet
