import EdgeFleet.Port.Range
/-!
# Configuration

How the control plane is set up: how long tunnels and credentials live, how often overdue tunnels
are closed, and which ports tunnels may use.
-/

namespace EdgeFleet

/-- The set-up of a control plane; times are in seconds. -/
structure Config where
  keepAlive : Nat
  sweepInterval : Nat
  ports : PortRange
  credentialValidity : Nat
deriving DecidableEq, Repr

namespace Config

/-- The set-up where nothing is chosen. -/
def standard : Config := ⟨300, 10, .standard, 3600⟩

/-- The address that agents poll, where none is chosen. -/
def apiUrl : String := "http://localhost:9000"

/-- The address where agents open tunnels, where none is chosen. -/
def tunnelAddress : String := "localhost:8000"

end Config

end EdgeFleet
