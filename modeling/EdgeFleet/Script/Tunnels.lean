import EdgeFleet.Script.Basic
import EdgeFleet.Script.Reply
/-!
# Scripts on tunnels alone

Operations on the coordinator of tunnels and on the parts it is made of: the pool of ports, the
pending jobs, the issuer of credentials, and the census of known environments.
-/

namespace EdgeFleet

namespace Script

/-- An operation on tunnels. -/
inductive TunnelOp where
  | require (id : EnvironmentId)
  | activate (id : EnvironmentId)
  | stop (id : EnvironmentId)
  | drop (id : EnvironmentId)
  | keepAlive (id : EnvironmentId) (seconds : Nat)
  | status (id : EnvironmentId)
  | details (id : EnvironmentId)
  | sweep
  | sweepAt (now : Instant)
  | keepAliveSeconds
  | setKeepAlive (seconds : Nat)
  | lendPort (id : EnvironmentId) (wanted : Option UInt16)
  | takePortBack (id : EnvironmentId)
  | port (id : EnvironmentId)
  | available
  /-- Queues a job, which counts as created now if it was not said when. -/
  | attach (id : EnvironmentId) (job : Job) (createdNow : Bool)
  | detach (job : JobId)
  | pending (id : EnvironmentId)
  | acknowledge (id : EnvironmentId) (job : JobId)
  | forgetJobs (id : EnvironmentId)
  | know (id : EnvironmentId)
  | unknow (id : EnvironmentId)
  /-- Lets only so many more look-ups find anything. -/
  | limitLookups (lookups : Option Nat)
  | issue (id : EnvironmentId)
  | verify (id : EnvironmentId) (token : String)

/-- A job that counts as created now if it was not said when. -/
def dated (now : Instant) (job : Job) (createdNow : Bool) : Job :=
  if createdNow then { job with created := Int64.ofInt now.seconds } else job

namespace TunnelOp

def tunnels {β : Type} (reply : β → Reply) (x : Coordinator.Step β) :
    Attempt Coordinator Refusal Reply :=
  reply <$> x.renamed .tunnel

/-- A step that reads. -/
def view (f : Coordinator → Reply) : Attempt Coordinator Refusal Reply := Attempt.view f

/-- A step that writes. -/
def change (f : Coordinator → Coordinator) : Attempt Coordinator Refusal Reply := fun s =>
  (.done .nothing, f s)

/-- A step that changes the pool of ports. -/
def changePool (f : PortPool → PortPool) : Attempt Coordinator Refusal Reply :=
  change (fun s => { s with board := { s.board with pool := f s.board.pool } })

/-- A step that changes the pending jobs. -/
def changeJobs (f : JobBoard → JobBoard) : Attempt Coordinator Refusal Reply :=
  change (fun s => { s with jobs := f s.jobs })

/-- Carries out an operation on tunnels. -/
def act (issuer : Issuer) (now : Instant) : TunnelOp → Attempt Coordinator Refusal Reply
  | require id => tunnels (fun _ => .nothing) (Coordinator.require issuer now id)
  | activate id => tunnels (fun _ => .nothing) (Coordinator.activate now id)
  | stop id => tunnels (fun _ => .nothing) (Coordinator.stop id)
  | drop id => tunnels (fun _ => .nothing) (Coordinator.drop id)
  | keepAlive id seconds => tunnels .flag (Coordinator.keepAlive now id seconds)
  | status id => tunnels .status (Coordinator.status id)
  | details id => tunnels .details (Coordinator.details now id)
  | sweep => tunnels .ids (Coordinator.sweep now)
  | sweepAt moment => tunnels .ids (Coordinator.sweepAt moment)
  | keepAliveSeconds => view (fun s => .number s.board.keepAlive)
  | setKeepAlive seconds => change (fun s => { s with board := { s.board with keepAlive := seconds } })
  | lendPort id wanted => fun s =>
    match s.board.pool.lend id wanted with
    | some (p, pool) => (.done (.number p.toNat), { s with board := { s.board with pool } })
    | none => (.refused (.noFreePort s.board.pool.range), s)
  | takePortBack id => changePool (·.takeBack id)
  | port id => view (fun s => .ofOption (fun p => .number p.toNat) (s.board.pool.port? id))
  | available => view (fun s => .number s.board.pool.available)
  | attach id job createdNow => changeJobs (·.attach id (dated now job createdNow))
  | detach job => changeJobs (·.detach job)
  | pending id => view (fun s => .jobs (s.jobs.pending id))
  | acknowledge id job => fun s =>
    let (was, jobs) := s.jobs.acknowledge id job
    (.done (.flag was), { s with jobs })
  | forgetJobs id => changeJobs (·.forget id)
  | know id => fun s =>
    (.done (.flag (!s.census.known.contains id)),
      { s with census := { s.census with known := s.census.known.insert id () } })
  | unknow id => fun s =>
    (.done (.flag (s.census.known.contains id)),
      { s with census := { s.census with known := s.census.known.erase id } })
  | limitLookups lookups => change (fun s => { s with census := { s.census with lookups } })
  | issue id =>
    match issuer.issue? now id with
    | some c => pure (.issued c (c.isExpiredAt now) issuer.validity)
    | none => Attempt.crash
  | verify id token => do
    let c ← Attempt.ofOutcome ((issuer.verify now token id).rename .credentials (fun c => c))
    pure (.verified c (c.isExpired now))

end TunnelOp

/-- The coordinator of tunnels as a plane for scripts. -/
def tunnelPlane (issuer : Issuer) : Plane TunnelOp Refusal Reply Coordinator where
  act now op := op.act issuer now
  onTunnels x := x.renamed .tunnel
  await now id seconds := do
    (Coordinator.await issuer now id).renamed .tunnel
    pure (seconds.getD 0)
  inVain id := .tunnel (.notActiveInTime id)
  board := Coordinator.board
  withBoard board s := { s with board }
  restarts _ := 0

/-- A coordinator without tunnels that knows some environments. -/
def coordinator (known : List EnvironmentId) (range : PortRange) (keepAlive : Nat) : Coordinator :=
  ⟨⟨Table.ofList (known.map (fun id => (id, ()))), none⟩, .empty range keepAlive, .empty⟩

end Script

end EdgeFleet
