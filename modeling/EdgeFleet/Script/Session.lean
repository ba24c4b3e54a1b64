import EdgeFleet.Script.Tunnels
import EdgeFleet.Store.Cell
/-!
# Scripts on the whole control plane

Operations on the service and on all it is made of, down to single cells of the database. A session
starts with a database that holds some records already.
-/

namespace EdgeFleet

namespace Script

/-- An operation on the control plane. -/
inductive ServiceOp where
  | tunnel (op : TunnelOp)
  | create (e : Environment)
  | get (id : EnvironmentId)
  | list
  | update (id : EnvironmentId) (e : Environment)
  | delete (id : EnvironmentId)
  | poll (edgeId : String) (agent : Option Agent)
  | recordActivity (id : EnvironmentId)
  | requireTunnel (id : EnvironmentId)
  | stopTunnel (id : EnvironmentId)
  | tunnelStatus (id : EnvironmentId)
  | tunnelDetails (id : EnvironmentId)
  | verify (id : EnvironmentId) (token : String)
  | attachJob (id : EnvironmentId) (job : Job) (createdNow : Bool)
  | detachJob (job : JobId)
  | pendingJobs (id : EnvironmentId)
  | acknowledgeJob (id : EnvironmentId) (job : JobId)
  | enrollmentKey (id : EnvironmentId)
  | readEnrollmentKey (key : String)
  | settings
  | updateSettings (s : Settings)
  | keepAliveSeconds
  | owner (edgeId : String)
  | hear (id : EnvironmentId)
  | heartbeat (id : EnvironmentId)
  | recordPoll (id : EnvironmentId) (agent : Option Agent)
  | registered (id : EnvironmentId)
  | isKnown (id : EnvironmentId)
  | count
  | rebuild
  | storeGet (id : EnvironmentId)
  | storeInsert (e : Environment)
  | storeSave (e : Environment)
  | storeDelete (id : EnvironmentId)
  | storeAll
  | storeSettings
  | storeUpdateSettings (s : Settings)
  | refuseNext (method : StoreMethod) (error : StoreError)
  | setCell (table : TableName) (id : Int) (column : String) (cell : Cell)
  | dropIndex
  | migrate
  | migrateDown (steps : Option Nat)
  | pendingMigrations
  | restart

namespace ServiceOp

def service {β : Type} (reply : β → Reply) (x : Service.Step β) : Attempt Service Refusal Reply :=
  reply <$> x.renamed .service

def registry {β : Type} (reply : β → Reply) (x : Registry.Step β) : Attempt Service Refusal Reply :=
  service reply (Service.onRegistry x)

/-- A step straight on the database, with its answer as a reply. -/
def database {δ β : Type} (error : δ → Refusal) (reply : β → Reply) (x : Attempt Database δ β) :
    Attempt Service Refusal Reply :=
  reply <$> x.within (fun s => s.registry.store.database)
    (fun d s => s.withStore { s.registry.store with database := d }) error

/-- A step straight on the store, with its answer as a reply. -/
def store {β : Type} (reply : β → Reply) (x : Database.Step β) : Attempt Service Refusal Reply :=
  database .store reply x

/-- A step that reads. -/
def view (f : Service → Reply) : Attempt Service Refusal Reply := Attempt.view f

/-- No answer. -/
def silent {β : Type} (_ : β) : Reply := .nothing

/-- Carries out an operation on tunnels; the environments of the registry are the known ones. -/
def onCoordinator {β : Type} (x : Issuer → Attempt Coordinator Refusal β) :
    Attempt Service Refusal β := fun s =>
  (x s.issuer).within (fun s => ⟨⟨s.registry.known, none⟩, s.board, s.jobs⟩)
    (fun c s => { s with board := c.board, jobs := c.jobs }) id s

/-- Carries out an operation on the control plane. -/
def act (now : Instant) : ServiceOp → Attempt Service Refusal Reply
  | tunnel op => onCoordinator (fun issuer => op.act issuer now)
  | create e => service .environment (Service.create e)
  | get id => service .environment (Service.get id)
  | list => service .environments Service.list
  | update id e => service .environment (Service.update id e)
  | delete id => service silent (Service.delete id)
  | poll edgeId agent => service .poll (Service.poll now edgeId agent)
  | recordActivity id => service .flag (Service.recordActivity now id)
  | requireTunnel id => service .details (Service.requireTunnel now id)
  | stopTunnel id => service silent (Service.stopTunnel id)
  | tunnelStatus id => service .status (Service.tunnelStatus id)
  | tunnelDetails id => service .details (Service.tunnelDetails now id)
  | verify id token => service .claims (Service.verifyCredentials now id token)
  | attachJob id job createdNow => service silent (Service.attachJob id (dated now job createdNow))
  | detachJob job => service silent (Service.detachJob job)
  | pendingJobs id => service .jobs (Service.pendingJobs id)
  | acknowledgeJob id job => service .flag (Service.acknowledgeJob id job)
  | enrollmentKey id => service .text (Service.enrollmentKey id)
  | readEnrollmentKey key => service .enrollmentKey (Service.readEnrollmentKey key)
  | settings => view (fun s => .settings s.settings)
  | updateSettings new => service silent (Service.updateSettings now new)
  | keepAliveSeconds => view (fun s => .number s.board.keepAlive)
  | owner edgeId =>
    view (fun s => .ofOption (fun id => .number id.number.toInt) (s.registry.owner? edgeId))
  | hear id =>
    registry (fun (t : Instant) => .number t.seconds) (do
      let now ← Attempt.clock now
      Attempt.change (·.hear now id)
      pure now)
  | heartbeat id => view (fun s => .ofOption (fun t => .number t.toInt) (s.registry.heartbeat? id))
  | recordPoll id agent => registry .environment (Registry.recordPoll now id agent)
  | registered id => registry (Reply.ofOption .environment) (Registry.get? id)
  | isKnown id => view (fun s => .flag (s.registry.contains id))
  | count => view (fun s => .number s.registry.count)
  | rebuild => registry silent Registry.rebuild
  | storeGet id => store (Reply.ofOption .environment) (Database.environment? id)
  | storeInsert e => store .environment (Database.insert e)
  | storeSave e => store .environment (Database.save e)
  | storeDelete id => store silent (Database.delete id)
  | storeAll => store .environments Database.all
  | storeSettings => store .settings Database.currentSettings
  | storeUpdateSettings new => store silent (Database.updateSettingsAt now new)
  | refuseNext method error => fun s =>
    (.done .nothing, s.withStore (s.registry.store.refuseNext method error))
  | setCell table id column cell =>
    database .database (fun n => .number n) (Database.setCell table id column cell)
  | dropIndex => database .database silent Database.dropIndex
  | migrate => database .database silent (Database.migrate now)
  | migrateDown steps =>
    database .database silent (match steps with
      | some n => Database.migrateDown n
      | none => Database.migrateDownAll)
  | pendingMigrations => view (fun s => .number s.registry.store.database.pendingMigrations)
  | restart => service (fun n => .number n) Service.restart

end ServiceOp

/-- The control plane as a plane for scripts. -/
def servicePlane : Plane ServiceOp Refusal Reply Service where
  act now op := op.act now
  onTunnels x := (Service.onTunnels x).renamed .service
  await now id _ := (Service.await now id).renamed .service
  inVain id := .service (.tunnel (.notActiveInTime id))
  board := Service.board
  withBoard board s := { s with board }
  restarts := Service.restarts

/-- How a session starts. -/
structure Opening where
  range : PortRange
  keepAlive : Nat
  issuer : Issuer
  enrollment : EnrollmentConfig
  /-- Records that are in the store from the start. -/
  seed : List Environment
  seedSettings : Option Settings
  refusals : List (StoreMethod × StoreError)
  /-- Whether the registry is left to be built by the script. -/
  withoutIndices : Bool

namespace Opening

/-- Puts records and settings into a database. -/
def fill (now : Instant) (seed : List Environment) (seedSettings : Option Settings) :
    Database.Step Unit := do
  seed.forM (fun e => do
    let _ ← Database.insert e
    pure ())
  match seedSettings with
  | some s => Database.updateSettingsAt now s
  | none => pure ()

/-- A database that went through its migrations and was filled. -/
def filled (now : Instant) (seed : List Environment) (seedSettings : Option Settings) :
    Attempt Database Refusal Unit := do
  (Database.migrate now).renamed .database
  (fill now seed seedSettings).renamed .store

/-- Starts the service of a session. -/
def service (now : Instant) (o : Opening) : Outcome Refusal Service :=
  match filled now o.seed o.seedSettings .blank with
  | (.refused e, _) => .refused e
  | (.crashed, _) => .crashed
  | (.done (), database) =>
    let store := o.refusals.foldl (fun g p => g.refuseNext p.1 p.2) (Gateway.clear database)
    let blank := Service.assemble (.blank store) o.range o.keepAlive o.issuer o.enrollment
    match (do
      if !o.withoutIndices then Service.onRegistry Registry.rebuild
      Service.loadSettings : Service.Step Unit) blank with
    | (.refused e, _) => .refused (.service e)
    | (.crashed, _) => .crashed
    | (.done (), s) => .done s

end Opening

end Script

end EdgeFleet
