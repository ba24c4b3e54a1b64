import EdgeFleet.Job.Queue
import EdgeFleet.Time.Clock
import EdgeFleet.Tunnel.Board
/-!
# Coordinating tunnels

Agents poll from outside, so the control plane can only note that it wants a tunnel (`require`)
and wait for the next poll to open it (`activate`). Every step first looks up whether the
environment is known; `require` and `activate` look it up once more at the end, and drop all they
did if it was forgotten in between. A step reads the clock no earlier than it has to, so where that
cuts it off, what it did before stands.
-/

namespace EdgeFleet

/-- Which environments are known. Look-ups may be limited in number; those beyond the limit find
nothing. -/
structure Census where
  known : Table EnvironmentId Unit
  lookups : Option Nat
deriving DecidableEq

namespace Census

def lookUp (c : Census) (id : EnvironmentId) : Bool × Census :=
  match c.lookups with
  | none => (c.known.contains id, c)
  | some 0 => (false, c)
  | some (n + 1) => (c.known.contains id, { c with lookups := some n })

end Census

/-- Why a step on a tunnel is refused. -/
inductive TunnelError where
  | unknownEnvironment (id : EnvironmentId)
  | noFreePort (range : PortRange)
  | notActiveInTime (id : EnvironmentId)
deriving DecidableEq, Repr

def TunnelError.message : TunnelError → String
  | unknownEnvironment id => s!"Unknown environment {id}"
  | noFreePort range => s!"Port allocation failed: {PortPool.exhausted range}"
  | notActiveInTime id => s!"Tunnel for environment {id} did not become active in time"

/-- What the steps on tunnels work on. -/
structure Coordinator where
  census : Census
  board : TunnelBoard
  jobs : JobBoard
deriving DecidableEq

namespace Coordinator

abbrev Step (α : Type) : Type := Attempt Coordinator TunnelError α

def onBoard (f : TunnelBoard → TunnelBoard) : Step Unit :=
  Attempt.change (fun s => { s with board := f s.board })

def lookUp (id : EnvironmentId) : Step Bool := fun s =>
  let (known, census) := s.census.lookUp id
  (.done known, { s with census })

/-- Refuses an environment that is not known. -/
def ensureKnown (id : EnvironmentId) : Step Unit := do
  if ← lookUp id then pure () else Attempt.refuse (.unknownEnvironment id)

/-- Drops all that is kept for an environment that was forgotten meanwhile, and refuses it. -/
def settle (id : EnvironmentId) : Step Unit := do
  if ← lookUp id then pure ()
  else
    onBoard (·.drop id)
    Attempt.refuse (.unknownEnvironment id)

/-- The tunnel of an environment; one for which none is kept has a fresh one. -/
def tunnelOf (now : Instant) (id : EnvironmentId) : Step Tunnel := do
  match ← Attempt.view (fun s => s.board.tunnel? id) with
  | some t => pure t
  | none => return .fresh (← Attempt.clock now)

/-- The tunnel of an environment, kept from now on if it was not yet. -/
def refer (now : Instant) (id : EnvironmentId) : Step Tunnel := do
  let t ← tunnelOf now id
  onBoard (·.keep id t)
  pure t

/-- The port of a tunnel: the one it holds, or one from the pool. -/
def reserve (id : EnvironmentId) (t : Tunnel) : Step UInt16 := fun s =>
  match t.port with
  | some port => (.done port, s)
  | none =>
    match s.board.pool.lend id t.previousPort with
    | some (port, pool) => (.done port, { s with board := { s.board with pool } })
    | none => (.refused (.noFreePort s.board.pool.range), s)

/-- Credentials for a tunnel: those it holds as long as they are good, else new ones. The step is
cut off where the calendar ends before their validity does. -/
def credentialsFor (issuer : Issuer) (now : Instant) (id : EnvironmentId) (t : Tunnel) :
    Step (Option Credentials) := do
  let now ← Attempt.clock now
  if t.hasFreshCredentials now then pure t.credentials
  else match issuer.issue? now id with
    | some c => pure (some c)
    | none => Attempt.crash

/-- Asks an agent to open a tunnel at its next poll. A tunnel that is already asked for stays as
it is. -/
def require (issuer : Issuer) (now : Instant) (id : EnvironmentId) : Step Unit := do
  ensureKnown id
  let t ← refer now id
  if t.phase = .required then pure ()
  else
    let port ← reserve id t
    let credentials ← credentialsFor issuer now id t
    onBoard (·.keep id { t with phase := .required, port := some port, credentials })
    settle id

/-- Marks a tunnel as open, for as long as the keep-alive says. -/
def activate (now : Instant) (id : EnvironmentId) : Step Unit := do
  ensureKnown id
  let now ← Attempt.clock now
  let t ← refer now id
  let port ← reserve id t
  onBoard (fun b => b.keep id
    { t with
      phase := .active (TunnelBoard.deadline now b.keepAlive)
      lastActivity := now
      port := some port })
  settle id
  onBoard (fun b => { b with activations := b.activations + 1 })

def stop (id : EnvironmentId) : Step Unit := do
  ensureKnown id
  onBoard (·.close id)

/-- Extends the deadline of an active tunnel to some seconds from now at least; the answer says
whether the tunnel was active. -/
def keepAlive (now : Instant) (id : EnvironmentId) (seconds : Nat) : Step Bool := do
  ensureKnown id
  match ← Attempt.view (fun s => s.board.tunnel? id) with
  | some t =>
    match t.phase with
    | .active deadline =>
      let now ← Attempt.clock now
      onBoard (·.keep id
        { t with
          phase := .active (max deadline (TunnelBoard.deadline now seconds))
          lastActivity := now })
      pure true
    | _ => pure false
  | none => pure false

def status (id : EnvironmentId) : Step TunnelStatus := do
  ensureKnown id
  Attempt.view (fun s => s.board.status id)

/-- What an operator sees of a tunnel and of the pending jobs. -/
def details (now : Instant) (id : EnvironmentId) : Step TunnelDetails := do
  ensureKnown id
  let t ← tunnelOf now id
  Attempt.view (fun s =>
    { status := t.phase.status
      lastActivity := .ofInstant t.lastActivity
      port := t.port
      jobs := s.jobs.pending id
      credentials := t.credentials.map Credentials.token })

/-- Drops all that is kept for the tunnel of an environment. -/
def drop (id : EnvironmentId) : Step Unit := onBoard (·.drop id)

/-- Closes every tunnel whose deadline lies before an instant, and tells which. -/
def sweepAt (moment : Instant) : Step (List EnvironmentId) := fun s =>
  let (ids, board) := s.board.sweep moment
  (.done ids, { s with board })

/-- Closes every tunnel whose deadline has passed by the clock, and tells which. -/
def sweep (now : Instant) : Step (List EnvironmentId) := do sweepAt (← Attempt.clock now)

/-! ## Waiting for a tunnel -/

/-- Begins to wait for a tunnel: one that is idle is asked for. -/
def await (issuer : Issuer) (now : Instant) (id : EnvironmentId) : Step Unit := do
  if (← status id) = .idle then require issuer now id

/-- Looks whether a tunnel that is waited for is active. -/
def look (now : Instant) (id : EnvironmentId) : Step (Option TunnelDetails) := do
  if (← status id) = .active then return some (← details now id) else return none

end Coordinator

end EdgeFleet
