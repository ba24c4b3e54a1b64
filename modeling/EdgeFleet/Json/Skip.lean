import EdgeFleet.Json.Numeral
/-!
# Passing over values

A value that nobody asks for is passed over: brackets may nest to any depth, and numbers and texts
are checked for their shape only. A value of another kind than the one asked for is judged by
`misfit`: a scalar is read to its end first, so a fault inside it goes before the bad fit.
-/

namespace EdgeFleet.Json

/-- A bracket that was opened. -/
inductive Bracket where
  | array
  | object
deriving DecidableEq, Repr

/-- Passes over the key of a member and its colon, behind any blanks. -/
def passKey (s : List UInt8) : Except Fault (List UInt8) := do
  let r ← mark '"' s
  let r ← passText r
  mark ':' r

/-- Passes over what may follow a value inside open brackets: all that close there, up to where
the next value begins, and answers the brackets that stay open. -/
def passClosing : List Bracket → List UInt8 → Except Fault (List Bracket × List UInt8)
  | [], s => .ok ([], s)
  | .array :: o, s =>
    match skipBlanks s with
    | [] => .error .cutOff
    | b :: r =>
      if b = byte ']' then passClosing o r
      else if b = byte ',' then .ok (.array :: o, r)
      else .error .malformed
  | .object :: o, s =>
    match skipBlanks s with
    | [] => .error .cutOff
    | b :: r =>
      if b = byte '}' then passClosing o r
      else if b = byte ',' then (passKey r).map (fun r => (.object :: o, r))
      else .error .malformed

/-- Passes over the opening of a value: all of it, if it is a scalar or an empty array or object,
or its first bracket. The answer says whether that bracket stays open. -/
def passOpening (s : List UInt8) : Except Fault (Option Bracket × List UInt8) :=
  match skipBlanks s with
  | [] => .error .cutOff
  | b :: r =>
    if b = byte 'n' then (word ['u', 'l', 'l'] r).map (fun r => (none, r))
    else if b = byte 't' then (word ['r', 'u', 'e'] r).map (fun r => (none, r))
    else if b = byte 'f' then (word ['a', 'l', 's', 'e'] r).map (fun r => (none, r))
    else if b = byte '"' then (passText r).map (fun r => (none, r))
    else if b = byte '-' ∨ (Numeral.digit? b).isSome then
      (Numeral.read .malformed (b :: r)).map (fun p => (none, p.2))
    else if b = byte '[' then
      match skipBlanks r with
      | [] => .error .cutOff
      | c :: t => if c = byte ']' then .ok (none, t) else .ok (some .array, c :: t)
    else if b = byte '{' then
      match skipBlanks r with
      | [] => .error .cutOff
      | c :: t => if c = byte '}' then .ok (none, t) else (passKey (c :: t)).map (fun r => (some .object, r))
    else .error .malformed

/-- Passes over one value at a time, inside open brackets, until none is open. -/
def passValues : Nat → List Bracket → List UInt8 → Except Fault (List UInt8)
  | 0, _, _ => .error .malformed
  | n + 1, o, s => do
    let (opened, r) ← passOpening s
    match opened with
    | some bracket => passValues n (bracket :: o) r
    | none =>
      let (o, r) ← passClosing o r
      if o.isEmpty then .ok r else passValues n o r

/-- Passes over a value. Every step takes a byte at least, so the length of the input bounds
their number. -/
def pass (s : List UInt8) : Except Fault (List UInt8) := passValues (s.length + 1) [] s

/-- The fault of a value, given by its first byte and the rest, that is not of the kind asked for. -/
def misfit (b : UInt8) (r : List UInt8) : Fault :=
  if b = byte 'n' then faultOf (word ['u', 'l', 'l'] r)
  else if b = byte 't' then faultOf (word ['r', 'u', 'e'] r)
  else if b = byte 'f' then faultOf (word ['a', 'l', 's', 'e'] r)
  else if b = byte '"' then faultOf (text r)
  else if b = byte '-' ∨ (Numeral.digit? b).isSome then
    match Numeral.read .cutOff (b :: r) with
    | .error f => f
    | .ok (x, _) => faultOf x.value
  else if b = byte '[' ∨ b = byte '{' then .unfitting
  else .malformed

end EdgeFleet.Json
