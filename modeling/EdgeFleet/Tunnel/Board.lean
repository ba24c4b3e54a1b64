import EdgeFleet.Credential.Issuer
import EdgeFleet.Port.Pool
import EdgeFleet.Tunnel.Report
/-!
# The tunnels of a fleet

A `Tunnel` is what is kept for one environment: its phase, the port and the credentials it holds,
and the port it held before. The `TunnelBoard` holds the tunnels of all environments and the pool
their ports come from; closing a tunnel gives its port back and drops its credentials. An active
tunnel has a deadline, and a sweep closes those whose deadline has passed.
-/

namespace EdgeFleet

inductive Phase where
  | idle
  | required
  | active (deadline : Instant)
deriving DecidableEq, Repr

/-- The status that a phase shows. -/
def Phase.status : Phase → TunnelStatus
  | idle => .idle
  | required => .required
  | active _ => .active

/-- Whether the phase has a deadline before an instant. -/
def Phase.isOver (now : Instant) : Phase → Bool
  | active deadline => deadline < now
  | _ => false

/-- What is kept for the tunnel of one environment. -/
structure Tunnel where
  phase : Phase
  lastActivity : Instant
  port : Option UInt16
  /-- The port held before the last close, asked for again when the tunnel reopens. -/
  previousPort : Option UInt16
  credentials : Option Credentials
deriving DecidableEq

namespace Tunnel

/-- A tunnel that was never open. -/
def fresh (now : Instant) : Tunnel := ⟨.idle, now, none, none, none⟩

/-- The tunnel closed: what it held is given up, and its port remembered. -/
def closed (t : Tunnel) : Tunnel :=
  { t with phase := .idle, port := none, previousPort := t.port <|> t.previousPort, credentials := none }

/-- Whether the tunnel holds credentials that are good at an instant. -/
def hasFreshCredentials (t : Tunnel) (now : Instant) : Bool :=
  match t.credentials with
  | some c => !c.isExpiredAt now
  | none => false

end Tunnel

/-- The tunnels of all environments. -/
structure TunnelBoard where
  tunnels : Table EnvironmentId Tunnel
  pool : PortPool
  /-- Seconds that a tunnel stays active without activity. -/
  keepAlive : Nat
  /-- How often a tunnel was activated, for those who wait for it. -/
  activations : Nat
deriving DecidableEq

namespace TunnelBoard

def empty (range : PortRange) (keepAlive : Nat) : TunnelBoard := ⟨∅, .full range, keepAlive, 0⟩

/-- The tunnel that is kept for an environment. -/
def tunnel? (b : TunnelBoard) (id : EnvironmentId) : Option Tunnel := b.tunnels.get? id

/-- The status of an environment's tunnel. -/
def status (b : TunnelBoard) (id : EnvironmentId) : TunnelStatus :=
  match b.tunnel? id with
  | some t => t.phase.status
  | none => .idle

/-- Keeps a tunnel for an environment. -/
def keep (b : TunnelBoard) (id : EnvironmentId) (t : Tunnel) : TunnelBoard :=
  { b with tunnels := b.tunnels.insert id t }

/-- The pool after a tunnel of an environment gave its port back. -/
def poolWithout (b : TunnelBoard) (id : EnvironmentId) (t : Tunnel) : PortPool :=
  if t.port.isSome then b.pool.takeBack id else b.pool

/-- Closes the tunnel of an environment, if one is kept. -/
def close (b : TunnelBoard) (id : EnvironmentId) : TunnelBoard :=
  match b.tunnel? id with
  | some t => { b with tunnels := b.tunnels.insert id t.closed, pool := b.poolWithout id t }
  | none => b

/-- Drops all that is kept for an environment. -/
def drop (b : TunnelBoard) (id : EnvironmentId) : TunnelBoard :=
  match b.tunnel? id with
  | some t => { b with tunnels := b.tunnels.erase id, pool := b.poolWithout id t }
  | none => b

/-- The instant until which a tunnel stays active that was used at another instant: some seconds
later, at most the last instant. -/
def deadline (now : Instant) (seconds : Nat) : Instant := now.plusCapped (.ofSeconds seconds)

/-- The environments whose deadline lies before an instant. -/
def overdue (b : TunnelBoard) (now : Instant) : List EnvironmentId :=
  (b.tunnels.filter (fun _ t => t.phase.isOver now)).keys

/-- Closes every tunnel whose deadline lies before an instant, and tells which. -/
def sweep (b : TunnelBoard) (now : Instant) : List EnvironmentId × TunnelBoard :=
  (b.overdue now, (b.overdue now).foldl close b)

end TunnelBoard

end EdgeFleet
