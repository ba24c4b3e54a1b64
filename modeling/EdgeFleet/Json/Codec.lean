import EdgeFleet.Json.Skip
import EdgeFleet.Json.Value
import EdgeFleet.Table
/-!
# Codecs

A `Codec α` writes values of a type as documents and reads them back. There is one for each kind
of scalar, for optional values, lists, named alternatives and tables keyed by whole numbers, and
`Fields.codec` makes one for a record from a list of its fields, so that one list fixes both
directions. A record is written as an object, and also read from an array of its fields in order.
-/

namespace EdgeFleet.Json

/-- The two directions between a type and its documents. -/
structure Codec (α : Type) where
  write : α → Value
  read : Reader α

namespace Codec

variable {α β : Type}

/-- The written text of a value. -/
def encode (c : Codec α) (a : α) : String := (c.write a).text

/-- Reads a whole text: one value with nothing but blanks behind it. -/
def decode (c : Codec α) (s : List UInt8) : Except Fault α := do
  let (a, r) ← c.read s
  if (skipBlanks r).isEmpty then .ok a else .error .malformed

/-- A codec of a type that is the same as another but for its name. -/
def rename (c : Codec α) (into : α → β) (back : β → α) : Codec β where
  write b := c.write (back b)
  read s := (c.read s).map (fun p => (into p.1, p.2))

/-- Reads a value whose first byte, behind any blanks, is one that its kind starts with. -/
def ofKind (starts : UInt8 → Bool) (read : UInt8 → Reader α) : Reader α := fun s =>
  match skipBlanks s with
  | [] => .error .cutOff
  | b :: r => if starts b then read b r else .error (misfit b r)

def bool : Codec Bool where
  write := .bool
  read := ofKind (fun b => b = byte 't' ∨ b = byte 'f') (fun b r =>
    if b = byte 't' then (word ['r', 'u', 'e'] r).map (fun r => (true, r))
    else (word ['a', 'l', 's', 'e'] r).map (fun r => (false, r)))

def string : Codec String where
  write := .str
  read := ofKind (fun b => b = byte '"') (fun _ r => text r)

/-- Reads a whole number of a range, given by its first byte and the rest. -/
def readInt (range : Decimal.Range) (b : UInt8) : Reader Int := fun r => do
  let (x, rest) ← Numeral.read .cutOff (b :: r)
  match ← x.value with
  | some n => if range.holds n then .ok (n, rest) else .error .unfitting
  | none => .error .unfitting

/-- Whole numbers of a range. -/
def int (range : Decimal.Range) : Codec Int where
  write := .int
  read := ofKind (fun b => b = byte '-' ∨ (Numeral.digit? b).isSome) (readInt range)

/-- Values that may be `null`. -/
def option (c : Codec α) : Codec (Option α) where
  write a := .ofOption (a.map c.write)
  read s :=
    match skipBlanks s with
    | [] => .error .cutOff
    | b :: r =>
      if b = byte 'n' then (word ['u', 'l', 'l'] r).map (fun r => (none, r))
      else (c.read (b :: r)).map (fun p => (some p.1, p.2))

/-- Values that are spelled as texts. -/
def spelled (write : α → String) (read : String → Option α) : Codec α where
  write a := .str (write a)
  read s := do
    let (t, r) ← string.read s
    match read t with
    | some a => .ok (a, r)
    | none => .error .unfitting

/-- Finds an alternative by its name. -/
def pick (name : α → String) (all : List α) (t : String) : Except Fault α :=
  match all.find? (fun a => name a = t) with
  | some a => .ok a
  | none => .error .unfitting

/-- One of several alternatives, each written as its name. An object whose only member has that
name and the value `null` stands for it too. -/
def oneOf (name : α → String) (all : List α) : Codec α where
  write a := .str (name a)
  read s :=
    match skipBlanks s with
    | [] => .error .cutOff
    | b :: r =>
      if b = byte '"' then do
        let (t, r) ← text r
        .ok (← pick name all t, r)
      else if b = byte '{' then do
        let (t, r) ← string.read r
        let a ← pick name all t
        let r ← mark ':' r
        let r ← match skipBlanks r with
          | [] => .error .cutOff
          | c :: r => if c = byte 'n' then word ['u', 'l', 'l'] r else .error (misfit c r)
        .ok (a, ← mark '}' r)
      else .error .malformed

/-! ## Lists -/

/-- Goes to the next item of an array, behind the comma unless it is the first; `none` where the
array closes, which is left to read. -/
def nextItem (first : Bool) (s : List UInt8) : Except Fault (Option (List UInt8)) :=
  match skipBlanks s with
  | [] => .error .cutOff
  | b :: r =>
    if b = byte ']' then .ok none
    else if first then .ok (some (b :: r))
    else if b = byte ',' then
      match skipBlanks r with
      | [] => .error .cutOff
      | c :: t => if c = byte ']' then .error .malformed else .ok (some (c :: t))
    else .error .malformed

/-- Reads the close of an array, where it must come. -/
def closeArray (s : List UInt8) : Except Fault (List UInt8) := mark ']' s

/-- Reads items up to the close of their array. -/
def items (read : Reader α) (first : Bool) (s : List UInt8) : Except Fault (List α × List UInt8) :=
  match nextItem first s with
  | .error f => .error f
  | .ok none => (closeArray s).map (fun r => ([], r))
  | .ok (some t) =>
    match read t with
    | .error f => .error f
    | .ok (a, r) =>
      if _h : r.length < s.length then (items read false r).map (fun p => (a :: p.1, p.2))
      else .error .malformed
termination_by s.length

def list (c : Codec α) : Codec (List α) where
  write as := .arr (as.map c.write)
  read := ofKind (fun b => b = byte '[') (fun _ r => items c.read true r)

/-! ## Tables -/

/-- Goes to the key of the next member of an object, behind the comma unless it is the first and
behind its opening quote; `none` where the object closes. -/
def nextKey (first : Bool) (s : List UInt8) : Except Fault (Option (List UInt8)) :=
  match skipBlanks s with
  | [] => .error .cutOff
  | b :: r =>
    if b = byte '}' then .ok none
    else if first then if b = byte '"' then .ok (some r) else .error .malformed
    else if b = byte ',' then (mark '"' r).map some
    else .error .malformed

/-- Reads the close of an object, where it must come. -/
def closeObject (s : List UInt8) : Except Fault (List UInt8) := mark '}' s

/-- Reads a key that is a whole number of a range, behind its opening quote. -/
def intKey (range : Decimal.Range) : Reader Int
  | [] => .error .malformed
  | b :: r =>
    if b = byte '-' ∨ (Numeral.digit? b).isSome then do
      let (n, r) ← readInt range b r
      match r with
      | [] => .error .malformed
      | c :: r => if c = byte '"' then .ok (n, r) else .error .malformed
    else .error .malformed

/-- Reads members up to the close of their object. -/
def members (key : Reader α) (read : Reader β) (first : Bool) (s : List UInt8) :
    Except Fault (List (α × β) × List UInt8) :=
  match nextKey first s with
  | .error f => .error f
  | .ok none => (closeObject s).map (fun r => ([], r))
  | .ok (some t) =>
    match (do
      let (k, r) ← key t
      let r ← mark ':' r
      let (v, r) ← read r
      .ok ((k, v), r) : Except Fault ((α × β) × List UInt8)) with
    | .error f => .error f
    | .ok (m, r) =>
      if _h : r.length < s.length then (members key read false r).map (fun p => (m :: p.1, p.2))
      else .error .malformed
termination_by s.length

/-- Tables whose keys are whole numbers of a range, written as texts. Of two members with one key
the later counts. -/
def table {κ : Type} [Ord κ] [Std.TransOrd κ] [Std.LawfulEqOrd κ] (range : Decimal.Range)
    (key : Int → κ) (number : κ → Int) (c : Codec β) : Codec (Table κ β) where
  write t := .obj (t.entries.map (fun e => (Decimal.text (number e.1), c.write e.2)))
  read := ofKind (fun b => b = byte '{') (fun _ r =>
    (members (intKey range) c.read true r).map (fun p =>
      (Table.ofList (p.1.map (fun m => (key m.1, m.2))), p.2)))

end Codec

/-! ## Records -/

/-- A field of a record. -/
structure Field (α : Type) where
  name : String
  codec : Codec α
  /-- What an object without the field stands for, if it may lack it. -/
  absent : Option α := none
  /-- What an array that ends before the field stands for, if it may. -/
  cut : Option α := none
  /-- Whether a value is left out of the written object. -/
  leavesOut : α → Bool := fun _ => false

/-- The fields of a record, in order; the record is the tuple of their values. -/
inductive Fields : Type → Type 1 where
  | done : Fields Unit
  | and {α β : Type} (field : Field α) (rest : Fields β) : Fields (α × β)

namespace Fields

/-- The values found so far. -/
def Found : {τ : Type} → Fields τ → Type
  | _, done => Unit
  | _, @and α _ _ rest => Option α × rest.Found

/-- No value found. -/
def nothing : {τ : Type} → (fs : Fields τ) → fs.Found
  | _, done => ()
  | _, .and _ rest => (none, rest.nothing)

/-- What a record makes of a key: it has no such field, its value was found before, or it is to
be read. -/
inductive Slot (ρ : Type) where
  | unknown
  | taken
  | free (read : Reader ρ)

/-- The same slot as a part of more. -/
def Slot.map {ρ σ : Type} (f : ρ → σ) : Slot ρ → Slot σ
  | unknown => unknown
  | taken => taken
  | free read => free (fun s => (read s).map (fun p => (f p.1, p.2)))

/-- What the fields make of a key. -/
def slot (key : String) : {τ : Type} → (fs : Fields τ) → fs.Found → Slot fs.Found
  | _, done, _ => .unknown
  | _, .and field rest, found =>
    if field.name = key then
      match found.1 with
      | some _ => .taken
      | none => .free (fun s => (field.codec.read s).map (fun p => ((some p.1, found.2), p.2)))
    else (rest.slot key found.2).map (fun more => (found.1, more))

/-- The record of the values found, if none is missing that may not be absent. -/
def complete : {τ : Type} → (fs : Fields τ) → fs.Found → Option τ
  | _, done, _ => some ()
  | _, .and field rest, found => do
    let a ← found.1 <|> field.absent
    let b ← rest.complete found.2
    some (a, b)

/-- Reads the members of an object: each key in turn, a field's value only once, the values under
other keys passed over. -/
def readMembers {τ : Type} (fs : Fields τ) (found : fs.Found) (first : Bool) (s : List UInt8) :
    Except Fault (τ × List UInt8) :=
  match Codec.nextKey first s with
  | .error f => .error f
  | .ok none =>
    match fs.complete found with
    | some a => (Codec.closeObject s).map (fun r => (a, r))
    | none => .error .unfitting
  | .ok (some t) =>
    match (do
      let (key, r) ← text t
      match fs.slot key found with
      | .taken => .error .unfitting
      | .free read => read (← mark ':' r)
      | .unknown => .ok (found, ← pass (← mark ':' r)) : Except Fault (fs.Found × List UInt8)) with
    | .error f => .error f
    | .ok (found, r) =>
      if _h : r.length < s.length then readMembers fs found false r else .error .malformed
termination_by s.length

/-- Reads the items of an array as the fields in order. -/
def readItems : {τ : Type} → Fields τ → Bool → Reader τ
  | _, done, _, s => (Codec.closeArray s).map (fun r => ((), r))
  | _, .and field rest, first, s => do
    match ← Codec.nextItem first s with
    | some s =>
      let (a, s) ← field.codec.read s
      let (b, s) ← rest.readItems false s
      .ok ((a, b), s)
    | none =>
      match field.cut with
      | some a =>
        let (b, s) ← rest.readItems false s
        .ok ((a, b), s)
      | none => .error .unfitting

/-- The members of a written record. -/
def writeMembers : {τ : Type} → Fields τ → τ → List (String × Value)
  | _, done, _ => []
  | _, .and field rest, (a, b) =>
    let more := rest.writeMembers b
    if field.leavesOut a then more else (field.name, field.codec.write a) :: more

/-- The codec of a record. -/
def codec {τ : Type} (fs : Fields τ) : Codec τ where
  write a := .obj (fs.writeMembers a)
  read := Codec.ofKind (fun b => b = byte '{' ∨ b = byte '[') (fun b r =>
    if b = byte '{' then fs.readMembers fs.nothing true r else fs.readItems true r)

end Fields

end EdgeFleet.Json
