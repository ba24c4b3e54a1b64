import EdgeFleet.Text.Decimal
import EdgeFleet.Text.Hex
import EdgeFleet.Text.Split
/-!
# Authorities of URLs

Behind `scheme://` a URL names a host, maybe with a user before it and a port behind it. A host may
be missing, but not with a user or a port at its side.
-/

namespace EdgeFleet.Authority

/-- The characters that no host has. -/
def forbidden : List Char := ['\x00', ' ', '#', '/', ':', '<', '>', '?', '@', '[', '\\', ']', '^', '|']

/-- What stands before and behind the first colon outside of brackets. -/
def cutPort (inBrackets : Bool) : List Char → List Char × Option (List Char)
  | [] => ([], none)
  | c :: r =>
    if c = ':' ∧ !inBrackets then ([], some r)
    else
      let (host, port) := cutPort (if c = '[' then true else if c = ']' then false else inBrackets) r
      (c :: host, port)

/-- Whether a text is a port; it may be empty, and ends at a backslash. -/
def isPort (s : List Char) : Bool :=
  match s.takeWhile (· ≠ '\\') with
  | [] => true
  | '+' :: _ => false
  | ds => (Decimal.read Decimal.word16 ds).toBool

/-- Whether a text is one to four hexadecimal digits. -/
def isGroup (s : List Char) : Bool :=
  1 ≤ s.length && s.length ≤ 4 && s.all (fun c => c.toNat < 128 && (Hex.value? c.toNat.toUInt8).isSome)

/-- The groups between the colons of a text, none for an empty one. -/
def groups (s : List Char) : List (List Char) := if s.isEmpty then [] else Text.splitAll ':' s

/-- What stands before and behind the first two colons in a row. -/
def cutGap : List Char → Option (List Char × List Char)
  | ':' :: ':' :: r => some ([], r)
  | c :: r => (cutGap r).map (fun p => (c :: p.1, p.2))
  | [] => none

/-- Whether a text is an address as brackets hold it: eight groups, or fewer with a gap. -/
def isBracketed (s : List Char) : Bool :=
  match cutGap s with
  | none => (groups s).length = 8 && (groups s).all isGroup
  | some (a, b) => (groups a ++ groups b).length < 8 && (groups a ++ groups b).all isGroup

/-- Whether a text is a host that is not missing. -/
def isHost (s : List Char) : Bool :=
  match s with
  | '[' :: r => r.getLast? = some ']' && isBracketed r.dropLast
  | s => s.all (fun c => !forbidden.contains c)

/-- Whether what stands behind the slashes starts with an authority. -/
def startsWithAuthority (s : List Char) : Bool :=
  let ends (c : Char) : Bool := c = '/' || c = '?' || c = '#'
  let authority := s.takeWhile (fun c => !ends c)
  let rest := s.dropWhile (fun c => !ends c)
  let (user, place) := match Text.splitLast '@' authority with
    | some (user, place) => (some user, place)
    | none => (none, authority)
  let (host, port) := cutPort false place
  if host.isEmpty then
    port.isNone && (user.getD [] = [] || user = some [':']) && (user ≠ some [] || rest.isEmpty)
  else isHost host && (port.all isPort)

end EdgeFleet.Authority
