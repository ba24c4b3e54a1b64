import EdgeFleet.Environment.Basic
import EdgeFleet.Port.Range
/-!
# Port pools

A pool lends each environment at most one port of its range. It keeps only what is lent; what is
free follows from that. An environment gets the port it asks for if that is free, else the one its
number leads to, so that a returning agent tends to find its listener again, else the lowest free.
-/

namespace EdgeFleet

/-- A range of ports and what of it is lent to whom. -/
structure PortPool where
  range : PortRange
  lent : Table EnvironmentId UInt16
deriving DecidableEq

namespace PortPool

/-- The pool of a range with every port free. -/
def full (range : PortRange) : PortPool := ⟨range, ∅⟩

/-- Whether a port can be lent. -/
def isFree (p : PortPool) (port : UInt16) : Bool := p.range.contains port && !p.lent.values.contains port

/-- The number of free ports. -/
def available (p : PortPool) : Nat := p.range.size - p.lent.size

/-- The port that an environment's number leads to. -/
def preferred (p : PortPool) (id : EnvironmentId) : UInt16 :=
  p.range.nth (id.number.toInt.natAbs % p.range.size)

/-- The port lent to an environment. -/
def port? (p : PortPool) (id : EnvironmentId) : Option UInt16 := p.lent.get? id

/-- The port that an environment without one would get. -/
def choose (p : PortPool) (id : EnvironmentId) (wanted : Option UInt16) : Option UInt16 :=
  match wanted.filter p.isFree with
  | some port => some port
  | none => if p.isFree (p.preferred id) then some (p.preferred id) else p.range.ports.find? p.isFree

/-- Lends a port to an environment, which keeps the one it has; `none` when every port is lent. -/
def lend (p : PortPool) (id : EnvironmentId) (wanted : Option UInt16) : Option (UInt16 × PortPool) :=
  match p.port? id with
  | some port => some (port, p)
  | none => (p.choose id wanted).map (fun port => (port, { p with lent := p.lent.insert id port }))

/-- Takes back the port of an environment. -/
def takeBack (p : PortPool) (id : EnvironmentId) : PortPool := { p with lent := p.lent.erase id }

def exhausted (range : PortRange) : String := s!"Port range {range.first}-{range.last} exhausted"

end PortPool

end EdgeFleet
