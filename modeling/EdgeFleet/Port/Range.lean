import EdgeFleet.Text.Blank
import EdgeFleet.Text.Decimal
/-!
# Port ranges

A range has a first and a last port, both in it, and is never empty. Its text is the two numbers
around a hyphen; blanks around the numbers are allowed.
-/

namespace EdgeFleet

/-- Listener ports between two ends that belong to the range. -/
structure PortRange where
  first : UInt16
  last : UInt16
  ordered : first ≤ last
deriving DecidableEq, Repr

/-- Why a text is no range. -/
inductive PortRangeFault where
  | noHyphen (text : String)
  | badFirst (fault : Decimal.Fault)
  | badLast (fault : Decimal.Fault)
  | reversed (first last : UInt16)
deriving DecidableEq, Repr

def PortRangeFault.message : PortRangeFault → String
  | noHyphen text => s!"Expected START-END, got '{text}'"
  | badFirst fault => s!"Invalid start port: {fault.message}"
  | badLast fault => s!"Invalid end port: {fault.message}"
  | reversed first last => s!"Start port {first} > end port {last}"

namespace PortRange

/-- The range where none is chosen. -/
def standard : PortRange := ⟨49152, 65535, by decide⟩

/-- Whether a port is in the range. -/
def contains (r : PortRange) (port : UInt16) : Bool := r.first ≤ port && port ≤ r.last

/-- The number of ports in the range. -/
def size (r : PortRange) : Nat := r.last.toNat - r.first.toNat + 1

/-- The port some steps after the first. -/
def nth (r : PortRange) (n : Nat) : UInt16 := UInt16.ofNat (r.first.toNat + n)

/-- The ports of the range in ascending order. -/
def ports (r : PortRange) : List UInt16 := (List.range r.size).map r.nth

/-- Reads a port between blanks. -/
def readPort (s : List Char) : Except Decimal.Fault UInt16 :=
  (Decimal.read Decimal.word16 (Text.trim s)).map UInt16.ofInt

/-- Reads a range: the text is cut at its first hyphen. -/
def read (s : List Char) : Except PortRangeFault PortRange :=
  match s.dropWhile (· ≠ '-') with
  | [] => .error (.noHyphen (String.ofList s))
  | _ :: after => do
    let first ← (readPort (s.takeWhile (· ≠ '-'))).mapError .badFirst
    let last ← (readPort after).mapError .badLast
    if h : first ≤ last then .ok ⟨first, last, h⟩ else .error (.reversed first last)

/-- The text of a range. -/
def write (r : PortRange) : List Char := Decimal.digits r.first.toNat ++ '-' :: Decimal.digits r.last.toNat

end PortRange

end EdgeFleet
