import EdgeFleet.Enrollment
import EdgeFleet.Registry
import EdgeFleet.Tunnel.Coordinator
/-!
# The control plane

The service puts the registry, the tunnels and the pending jobs together: it manages environments,
answers agents that poll, and lets operators ask for tunnels, queue jobs and change settings. An
agent's poll opens the tunnel that was asked for and keeps an open one alive.
-/

namespace EdgeFleet

/-- Why the service refuses. -/
inductive ServiceError where
  | unknownEdgeId (edgeId : String)
  | registry (cause : RegistryError)
  | tunnel (cause : TunnelError)
  | settings (cause : StoreError)
  | credentials (cause : CredentialError)
  | enrollmentKey (fault : EnrollmentKeyFault)
deriving DecidableEq, Repr

def ServiceError.message : ServiceError → String
  | unknownEdgeId edgeId => s!"No environment is enrolled with edge ID '{edgeId}'"
  | registry cause => cause.message
  | tunnel cause => cause.message
  | settings cause => s!"Settings store error: {cause.message}"
  | credentials cause => cause.message
  | enrollmentKey fault => fault.message

/-- What enrollment keys say beside the environment. -/
structure EnrollmentConfig where
  apiUrl : String
  tunnelAddress : String
  fingerprint : String
deriving DecidableEq, Repr

/-- The control plane. -/
structure Service where
  registry : Registry
  board : TunnelBoard
  jobs : JobBoard
  settings : Settings
  issuer : Issuer
  enrollment : EnrollmentConfig
  /-- How often it was started anew. -/
  restarts : Nat
deriving DecidableEq

namespace Service

abbrev Step (α : Type) : Type := Attempt Service ServiceError α

def onRegistry {α : Type} (x : Registry.Step α) : Step α :=
  x.within Service.registry (fun r s => { s with registry := r }) .registry

def onTunnels {α : Type} (x : Coordinator.Step α) : Step α :=
  x.within (fun s => ⟨⟨s.registry.known, none⟩, s.board, s.jobs⟩)
    (fun c s => { s with board := c.board, jobs := c.jobs }) .tunnel

/-- The service with another way to the store. -/
def withStore (s : Service) (store : Gateway) : Service :=
  { s with registry := { s.registry with store } }

def onSettings {α : Type} (x : Gateway.Step α) : Step α :=
  x.within (fun s => s.registry.store) (fun g s => s.withStore g) .settings

/-- A step that uses the issuer. -/
def withIssuer {α : Type} (x : Issuer → Coordinator.Step α) : Step α := fun s =>
  onTunnels (x s.issuer) s

/-- Refuses an environment that is not known. -/
def ensureKnown (id : EnvironmentId) : Step Unit := do
  if ← Attempt.view (·.registry.contains id) then pure ()
  else Attempt.refuse (.registry (.notFound id))

/-- Applies settings: they are kept, and the keep-alive goes to the tunnels. -/
def apply (s : Service) (settings : Settings) : Service :=
  { s with settings, board := { s.board with keepAlive := settings.keepAliveSeconds.toNat } }

/-- Loads the settings and applies them. -/
def loadSettings : Step Unit := do
  let settings ← onSettings Gateway.settings
  Attempt.change (·.apply settings)

/-- The service over a registry, before its settings are loaded. -/
def assemble (registry : Registry) (range : PortRange) (keepAlive : Nat) (issuer : Issuer)
    (enrollment : EnrollmentConfig) : Service :=
  ⟨registry, .empty range keepAlive, .empty, .standard, issuer, enrollment, 0⟩

/-! ## Environments -/

/-- The enrollment key of an environment. -/
def keyFor (s : Service) (id : EnvironmentId) : String :=
  EnrollmentKey.text ⟨s.enrollment.apiUrl, s.enrollment.tunnelAddress, s.enrollment.fingerprint, id⟩

/-- Stores a new environment; one of an edge kind without an enrollment key gets one. -/
def create (e : Environment) : Step Environment := do
  let created ← onRegistry (Registry.create e)
  if created.kind.isEdge ∧ created.edgeKey = "" then
    let key ← Attempt.view (·.keyFor created.id)
    onRegistry (Registry.update created.id { created with edgeKey := key })
  else pure created

def get (id : EnvironmentId) : Step Environment := do
  match ← onRegistry (Registry.get? id) with
  | some e => pure e
  | none => Attempt.refuse (.registry (.notFound id))

def list : Step (List Environment) := onRegistry Registry.list

def update (id : EnvironmentId) (e : Environment) : Step Environment := onRegistry (Registry.update id e)

/-- Deletes an environment with its tunnel and its pending jobs. -/
def delete (id : EnvironmentId) : Step Unit := do
  onRegistry (Registry.delete id)
  Attempt.change (fun s => { s with board := s.board.drop id, jobs := s.jobs.forget id })

/-! ## Polls -/

/-- The refusal of a poll: an environment that is not stored has no edge id. -/
def refusalOfPoll (edgeId : String) : ServiceError → ServiceError
  | .registry (.notFound _) => .unknownEdgeId edgeId
  | e => e

/-- Moves a tunnel on at a poll: one that is asked for becomes active, and an active one is kept
alive. -/
def advanceTunnel (now : Instant) (id : EnvironmentId) : Coordinator.Step Unit := do
  match ← Coordinator.status id with
  | .required => Coordinator.activate now id
  | .active =>
    let seconds ← Attempt.view (·.board.keepAlive)
    let _ ← Coordinator.keepAlive now id seconds
    pure ()
  | .idle => pure ()

/-- Answers the poll of an agent. -/
def poll (now : Instant) (edgeId : String) (agent : Option Agent) : Step PollAnswer := do
  match ← Attempt.view (·.registry.owner? edgeId) with
  | none => Attempt.refuse (.unknownEdgeId edgeId)
  | some id =>
    let e ← (onRegistry (Registry.recordPoll now id agent)).renamed (refusalOfPoll edgeId)
    onTunnels (advanceTunnel now id)
    let d ← onTunnels (Coordinator.details now id)
    let settings ← Attempt.view (·.settings)
    pure
      { environmentId := id
        status := d.status
        port := d.port
        credentials := d.credentials
        checkInInterval := settings.intervalOf e
        schedules := d.jobs.map (·.scheduleFor id) }

/-- Notes traffic in a tunnel; the answer says whether it was active. -/
def recordActivity (now : Instant) (id : EnvironmentId) : Step Bool := do
  let seconds ← Attempt.view (·.board.keepAlive)
  onTunnels (Coordinator.keepAlive now id seconds)

/-! ## Tunnels -/

def requireTunnel (now : Instant) (id : EnvironmentId) : Step TunnelDetails := do
  withIssuer (Coordinator.require · now id)
  onTunnels (Coordinator.details now id)

def stopTunnel (id : EnvironmentId) : Step Unit := onTunnels (Coordinator.stop id)

def tunnelStatus (id : EnvironmentId) : Step TunnelStatus := onTunnels (Coordinator.status id)

def tunnelDetails (now : Instant) (id : EnvironmentId) : Step TunnelDetails :=
  onTunnels (Coordinator.details now id)

/-- Begins to wait for a tunnel, and tells for how many seconds: two polls of the environment's
agent. -/
def await (now : Instant) (id : EnvironmentId) : Step Nat := do
  let e ← get id
  let settings ← Attempt.view (·.settings)
  withIssuer (Coordinator.await · now id)
  pure (2 * (settings.intervalOf e).toNat)

/-- Checks the token of an agent. -/
def verifyCredentials (now : Instant) (id : EnvironmentId) (token : String) : Step Claims := do
  let issuer ← Attempt.view (·.issuer)
  Attempt.ofOutcome ((issuer.verify now token id).rename .credentials (fun c => c))

/-! ## Jobs -/

/-- Queues a job for an environment. -/
def attachJob (id : EnvironmentId) (job : Job) : Step Unit := do
  ensureKnown id
  Attempt.change (fun s => { s with jobs := s.jobs.attach id job })

/-- Takes a job away from every environment. -/
def detachJob (job : JobId) : Step Unit := Attempt.change (fun s => { s with jobs := s.jobs.detach job })

def pendingJobs (id : EnvironmentId) : Step (List Job) := Attempt.view (fun s => s.jobs.pending id)

/-- Takes a job away from an environment; the answer says whether it was pending. -/
def acknowledgeJob (id : EnvironmentId) (job : JobId) : Step Bool := fun s =>
  let (was, jobs) := s.jobs.acknowledge id job
  (.done was, { s with jobs })

/-! ## Enrollment and settings -/

/-- The enrollment key of a known environment. -/
def enrollmentKey (id : EnvironmentId) : Step String := do
  ensureKnown id
  Attempt.view (·.keyFor id)

/-- Reads an enrollment key. -/
def readEnrollmentKey (key : String) : Step EnrollmentKey :=
  Attempt.ofExcept ((EnrollmentKey.decode key.toList).mapError .enrollmentKey)

/-- Stores new settings and applies them. -/
def updateSettings (now : Instant) (settings : Settings) : Step Unit := do
  onSettings (Gateway.updateSettings now settings)
  Attempt.change (·.apply settings)

/-! ## Restarting -/

/-- A service started anew over the same store. -/
def restarted (s : Service) : Service :=
  { assemble (.blank s.registry.store) s.board.pool.range s.board.keepAlive s.issuer s.enrollment with
    restarts := s.restarts + 1 }

/-- Starts anew over the same store, and tells how many environments are known. A start that
fails leaves all but the store as it was. -/
def restart : Step Nat := fun s =>
  match (do onRegistry Registry.rebuild; loadSettings : Step Unit) s.restarted with
  | (.done (), fresh) => (.done fresh.registry.count, fresh)
  | (.refused e, fresh) => (.refused e, s.withStore fresh.registry.store)
  | (.crashed, fresh) => (.crashed, s.withStore fresh.registry.store)

end Service

end EdgeFleet
