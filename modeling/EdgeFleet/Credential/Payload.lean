import EdgeFleet.Credential.Claims
/-!
# Payloads

The payload of a token is read twice: for its claims, and then for the times between which it is
good. The second reading also looks at the beginning of validity, `nbf`, which is no claim here. It
takes no offence at a value that is no time, but it goes on where it gave that value up: behind a
whole text, number or empty pair of brackets, but inside anything that it could not read to the
end. What stands there does not go on as an object does, and so the payload is no JSON to it.
-/

namespace EdgeFleet

namespace Payload

open Json (Codec Fields)

/-- Where the reading of an escape, behind its backslash, is given up. -/
def escapeStop (r : List UInt8) : List UInt8 :=
  match Json.fourHex r.tail with
  | .error _ => r.tail
  | .ok n =>
    let behind := r.drop 5
    if 0xDC00 ≤ n ∧ n < 0xE000 then behind
    else match behind with
      | b :: c :: _ =>
        if b ≠ Json.byte '\\' then behind.drop 1
        else if c ≠ Json.byte 'u' then behind.drop 2
        else behind.drop 6
      | _ => []

/-- Where the reading of a text, behind its opening quote, stops: behind its closing quote, or where
an escape is given up. -/
def textStop : List UInt8 → List UInt8
  | [] => []
  | b :: r =>
    if b = Json.byte '"' then r
    else if b = Json.byte '\\' then
      match Json.escaped r with
      | .ok (_, n) => textStop (r.drop n)
      | .error _ => escapeStop r
    else textStop r
termination_by s => s.length
decreasing_by
  all_goals simp only [List.length_drop, List.length_cons]; omega

/-- How many digits of an exponent are left when it gets larger than a signed 32-bit number. -/
def digitsLeft : Nat → List Nat → Nat
  | _, [] => 0
  | n, d :: r => if n * 10 + d < 0x80000000 then digitsLeft (n * 10 + d) r else r.length

/-- Where the reading of a number stops: behind it, or in the middle of an exponent that is too
large for any number but zero. -/
def numberStop (s : List UInt8) : List UInt8 :=
  match Json.Numeral.read .malformed s with
  | .error _ => s
  | .ok (x, r) =>
    match x.exponent with
    | some (false, ds) =>
      if Json.Numeral.number (x.whole ++ x.fraction) = 0 then r
      else s.drop (s.length - r.length - digitsLeft 0 ds)
    | _ => r

/-- The rest behind a closing bracket, if that comes first. -/
def closeStop (c : Char) (s : List UInt8) : List UInt8 :=
  match Json.skipBlanks s with
  | [] => []
  | b :: r => if b = Json.byte c then r else b :: r

/-- Where the reading of a value stops. -/
def valueStop (s : List UInt8) : List UInt8 :=
  match Json.skipBlanks s with
  | [] => []
  | b :: r =>
    if b = Json.byte '"' then textStop r
    else if b = Json.byte '[' then closeStop ']' r
    else if b = Json.byte '{' then closeStop '}' r
    else if b = Json.byte '-' ∨ (Json.Numeral.digit? b).isSome then numberStop (b :: r)
    else match Json.pass (b :: r) with
      | .ok r => r
      | .error _ => r

/-- A value that is passed over. -/
def passed : Codec Unit where
  write _ := .null
  read s := (Json.pass s).map (fun r => ((), r))

/-- A value that is given up where it cannot be read. -/
def tried : Codec Unit where
  write _ := .null
  read s := .ok ((), valueStop s)

/-- A field that stands once at most. -/
def once (name : String) (codec : Codec Unit) : Json.Field Unit := { name, codec, absent := some () }

/-- The second reading of a payload. -/
def times : Codec Unit :=
  (Fields.and (once "exp" passed) <|
    .and (once "nbf" tried) <|
    .and (once "sub" passed) <|
    .and (once "iss" passed) <|
    .and (once "aud" passed) .done).codec.rename (fun _ => ()) (fun _ => ((), (), (), (), (), ()))

/-- Whether a JSON text is an array. -/
def isArray (s : List UInt8) : Bool := (Json.skipBlanks s).head? = some (Json.byte '[')

/-- The claims of a payload and whether it says a time until which it is good. An array has no field
that could say it, and a negative time is none. -/
def read (s : List UInt8) : Except Json.Fault (Claims × Bool) := do
  let claims ← Claims.codec.decode s
  if isArray s then .ok (claims, false)
  else
    let _ ← times.decode s
    .ok (claims, 0 ≤ claims.expiresAt)

end Payload

end EdgeFleet
