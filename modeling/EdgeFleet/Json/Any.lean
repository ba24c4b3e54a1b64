import EdgeFleet.Json.Codec
/-!
# Documents of any shape

A document whose shape is not known beforehand is read as a whole, so that its parts can be asked
for afterwards. All texts in it must be sound, no number may be infinite, and brackets nest only to
a depth that is given.
-/

namespace EdgeFleet.Json

/-- A document of any shape. Of a number only that it is one is kept. -/
inductive Any where
  | null
  | bool (b : Bool)
  | number
  | text (s : String)
  | array (items : List Any)
  | object (members : List (String × Any))
deriving Inhabited

namespace Any

/-- How deep brackets may nest in a text. -/
def deepest : Nat := 127

/-- Reads a document, given how the rest of an array and of an object is read. -/
def readWith (array object : Reader Any) : Reader Any := fun s =>
  match skipBlanks s with
  | [] => .error .cutOff
  | b :: r =>
    if b = byte 'n' then (word ['u', 'l', 'l'] r).map (fun r => (null, r))
    else if b = byte 't' then (word ['r', 'u', 'e'] r).map (fun r => (bool true, r))
    else if b = byte 'f' then (word ['a', 'l', 's', 'e'] r).map (fun r => (bool false, r))
    else if b = byte '"' then (Json.text r).map (fun p => (text p.1, p.2))
    else if b = byte '-' ∨ (Numeral.digit? b).isSome then do
      let (x, r) ← Numeral.read .cutOff (b :: r)
      let _ ← x.value
      .ok (number, r)
    else if b = byte '[' then array r
    else if b = byte '{' then object r
    else .error .malformed

/-- Reads a document in which brackets nest to a depth at most. -/
def read : Nat → Reader Any
  | 0 => readWith (fun _ => .error .malformed) (fun _ => .error .malformed)
  | depth + 1 =>
    readWith (fun r => (Codec.items (read depth) true r).map (fun p => (array p.1, p.2)))
      (fun r => (Codec.members Json.text (read depth) true r).map (fun p => (object p.1, p.2)))

/-- Whether a document is `null`. -/
def isNull : Any → Bool
  | null => true
  | _ => false

/-- Whether a document is a text. -/
def isText : Any → Bool
  | text _ => true
  | _ => false

/-- Whether a document is an array of texts. -/
def isTexts : Any → Bool
  | array items => items.all isText
  | _ => false

/-- Whether a document is an object without members. -/
def isEmptyObject : Any → Bool
  | object [] => true
  | _ => false

/-- Whether a document names one of some alternatives: by a text, or by an object whose only member
has that name and a value that counts as nothing. -/
def isOneOf (names : List String) (nothing : Any → Bool) : Any → Bool
  | text t => names.contains t
  | object [(t, v)] => names.contains t && nothing v
  | _ => false

end Any

end EdgeFleet.Json
