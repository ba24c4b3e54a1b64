import EdgeFleet.Text.Hex
import EdgeFleet.Text.Utf8
/-!
# The lexical level of JSON texts

A text is read as bytes from left to right, and the first fault decides: the bytes are no JSON
(`malformed`), they are JSON that does not fit what is asked for (`unfitting`), or they end too
early (`cutOff`). This module reads blanks, words and texts; `Numeral` reads numbers.
-/

namespace EdgeFleet.Json

/-- Why a JSON text cannot be read. -/
inductive Fault where
  | malformed
  | unfitting
  | cutOff
deriving DecidableEq, Repr

/-- Reads off the front of a byte sequence and answers the rest of it too. -/
abbrev Reader (α : Type) : Type := List UInt8 → Except Fault (α × List UInt8)

/-- The fault of a reading that was wanted only for its fault: a flawless value did not fit. -/
def faultOf {α : Type} : Except Fault α → Fault
  | .ok _ => .unfitting
  | .error f => f

/-- The byte of an ASCII character. -/
def byte (c : Char) : UInt8 := c.toNat.toUInt8

/-- The four bytes that may stand between tokens. -/
def isBlank (b : UInt8) : Bool := b == 0x20 || b == 0x0A || b == 0x09 || b == 0x0D

/-- The rest behind any blanks. -/
def skipBlanks (s : List UInt8) : List UInt8 := s.dropWhile isBlank

/-- Reads the bytes of a word. -/
def word : List Char → List UInt8 → Except Fault (List UInt8)
  | [], s => .ok s
  | _ :: _, [] => .error .cutOff
  | c :: w, b :: s => if b = byte c then word w s else .error .malformed

/-- Reads a mark behind any blanks. -/
def mark (c : Char) (s : List UInt8) : Except Fault (List UInt8) := word [c] (skipBlanks s)

/-! ## Texts -/

/-- Reads four hexadecimal digits. -/
def fourHex : List UInt8 → Except Fault Nat
  | a :: b :: c :: d :: _ =>
    match Hex.value? a, Hex.value? b, Hex.value? c, Hex.value? d with
    | some a, some b, some c, some d => .ok (((a * 16 + b) * 16 + c) * 16 + d)
    | _, _, _, _ => .error .malformed
  | _ => .error .cutOff

/-- The character that an escape of one letter stands for. -/
def shortEscape? (b : UInt8) : Option Char :=
  if b = byte '"' then some '"'
  else if b = byte '\\' then some '\\'
  else if b = byte '/' then some '/'
  else if b = byte 'b' then some '\x08'
  else if b = byte 'f' then some '\x0c'
  else if b = byte 'n' then some '\n'
  else if b = byte 'r' then some '\r'
  else if b = byte 't' then some '\t'
  else none

/-- Reads the second half of a surrogate pair, given the first half and the bytes behind it. -/
def secondHalf (first : Nat) : List UInt8 → Except Fault Char
  | [] => .error .cutOff
  | [b] => if b = byte '\\' then .error .cutOff else .error .malformed
  | b :: c :: r =>
    if b = byte '\\' ∧ c = byte 'u' then do
      let second ← fourHex r
      if 0xDC00 ≤ second ∧ second < 0xE000 then
        .ok (Char.ofNat (0x10000 + (first - 0xD800) * 0x400 + (second - 0xDC00)))
      else .error .malformed
    else .error .malformed

/-- Reads what follows a backslash: the character it stands for and how many bytes it took. -/
def escaped : List UInt8 → Except Fault (Char × Nat)
  | [] => .error .cutOff
  | b :: r =>
    if b = byte 'u' then do
      let n ← fourHex r
      if 0xDC00 ≤ n ∧ n < 0xE000 then .error .malformed
      else if 0xD800 ≤ n ∧ n < 0xDC00 then (secondHalf n (r.drop 4)).map (fun c => (c, 11))
      else .ok (Char.ofNat n, 5)
    else match shortEscape? b with
      | some c => .ok (c, 1)
      | none => .error .malformed

/-- Reads the bytes of a text up to its closing quote. -/
def textBytes : Reader (List UInt8)
  | [] => .error .cutOff
  | b :: r =>
    if b = byte '"' then .ok ([], r)
    else if b = byte '\\' then
      match escaped r with
      | .error f => .error f
      | .ok (c, n) => (textBytes (r.drop n)).map (fun p => (Utf8.encodeChar c ++ p.1, p.2))
    else if b < 0x20 then .error .malformed
    else (textBytes r).map (fun p => (b :: p.1, p.2))
termination_by s => s.length
decreasing_by
  all_goals simp only [List.length_drop, List.length_cons]; omega

/-- Reads a text behind its opening quote. -/
def text : Reader String := fun s => do
  let (bytes, rest) ← textBytes s
  match Utf8.decode bytes with
  | .ok cs => .ok (String.ofList cs, rest)
  | .error _ => .error .malformed

/-- Passes over what follows a backslash, with less care than `escaped`: the halves of surrogate
pairs are not matched. The answer is how many bytes it took. -/
def passEscaped : List UInt8 → Except Fault Nat
  | [] => .error .cutOff
  | b :: r =>
    if b = byte 'u' then (fourHex r).map (fun _ => 5)
    else if (shortEscape? b).isSome then .ok 1
    else .error .malformed

/-- Passes over a text behind its opening quote. -/
def passText : List UInt8 → Except Fault (List UInt8)
  | [] => .error .cutOff
  | b :: r =>
    if b = byte '"' then .ok r
    else if b = byte '\\' then
      match passEscaped r with
      | .error f => .error f
      | .ok n => passText (r.drop n)
    else if b < 0x20 then .error .malformed
    else passText r
termination_by s => s.length
decreasing_by
  all_goals simp only [List.length_drop, List.length_cons]; omega

end EdgeFleet.Json
