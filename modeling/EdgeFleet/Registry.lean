import EdgeFleet.Store.Gateway
import EdgeFleet.Time.Instant
/-!
# The registry of environments

Over the stored records the registry keeps which environment an edge id belongs to, when each
environment was last heard of, and which environments are known. Its records show the last contact
it knows of in place of the stored one. An edge id that belongs to another environment is refused
before the store is written.
-/

namespace EdgeFleet

/-- Why the registry refuses. -/
inductive RegistryError where
  | notFound (id : EnvironmentId)
  | alreadyExists (id : EnvironmentId)
  | edgeIdConflict (edgeId : String) (existing : EnvironmentId)
  | storeUnavailable (cause : StoreError)
deriving DecidableEq, Repr

namespace RegistryError

def message : RegistryError → String
  | notFound id => s!"Environment {id} not found"
  | alreadyExists id => s!"Environment {id} already exists"
  | edgeIdConflict edgeId existing => s!"Edge ID '{edgeId}' is already bound to environment {existing}"
  | storeUnavailable cause => s!"Store unavailable: {cause.message}"

/-- The refusal that a refusal of the store leads to. -/
def ofStore : StoreError → RegistryError
  | .notFound id => notFound id
  | .alreadyExists id => alreadyExists id
  | e => storeUnavailable e

end RegistryError

/-- The registry with the way to its store. -/
structure Registry where
  store : Gateway
  edgeIndex : Table String EnvironmentId
  /-- When each environment was last heard of, in seconds from the epoch. -/
  heartbeats : Table EnvironmentId Int64
  known : Table EnvironmentId Unit
deriving DecidableEq

namespace Registry

/-- A registry that was not built yet. -/
def blank (store : Gateway) : Registry := ⟨store, ∅, ∅, ∅⟩

abbrev Step (α : Type) : Type := Attempt Registry RegistryError α

def onStoreAs {α : Type} (error : StoreError → RegistryError) (x : Gateway.Step α) : Step α :=
  x.within Registry.store (fun g r => { r with store := g }) error

def onStore {α : Type} (x : Gateway.Step α) : Step α := onStoreAs .ofStore x

/-! ## Indices -/

/-- Whom an edge id belongs to. -/
def owner? (r : Registry) (edgeId : String) : Option EnvironmentId := r.edgeIndex.get? edgeId

/-- When an environment was last heard of. -/
def heartbeat? (r : Registry) (id : EnvironmentId) : Option Int64 := r.heartbeats.get? id

def contains (r : Registry) (id : EnvironmentId) : Bool := r.known.contains id

def count (r : Registry) : Nat := r.known.size

/-- Notes a contact that was stored; one that is known to be later stays. -/
def seed (r : Registry) (id : EnvironmentId) (stored : Int64) : Registry :=
  { r with heartbeats := r.heartbeats.insert id (match r.heartbeats.get? id with
      | some cached => max cached stored
      | none => stored) }

/-- Notes that an environment is known. -/
def note (r : Registry) (id : EnvironmentId) : Registry := { r with known := r.known.insert id () }

/-- Gives an edge id to an environment. -/
def bind (r : Registry) (edgeId : String) (id : EnvironmentId) : Registry :=
  { r with edgeIndex := r.edgeIndex.insert edgeId id }

/-- Notes a stored record: the environment, its last contact, and its edge id unless that was given
to another record before. -/
def enter (r : Registry) (e : Environment) : Registry :=
  let r := (r.note e.id).seed e.id e.lastCheckIn
  match e.boundEdgeId? with
  | some edgeId => if (r.owner? edgeId).isSome then r else r.bind edgeId e.id
  | none => r

/-- Builds the indices anew from a list of records; contacts already known are kept. -/
def reindex (r : Registry) (es : List Environment) : Registry :=
  es.foldl enter { r with edgeIndex := ∅, known := ∅ }

/-- Notes that an environment is heard of now. -/
def hear (r : Registry) (now : Instant) (id : EnvironmentId) : Registry :=
  { r with heartbeats := r.heartbeats.insert id (Int64.ofInt now.seconds) }

/-- The record with the last contact that is known. -/
def overlay (r : Registry) (e : Environment) : Environment :=
  match r.heartbeat? e.id with
  | some t => { e with lastCheckIn := t }
  | none => e

/-- Refuses an edge id that belongs to another environment than the ones allowed. -/
def conflict? (r : Registry) (e : Environment) (allowed : EnvironmentId → Bool) :
    Option RegistryError := do
  let edgeId ← e.boundEdgeId?
  let existing ← r.owner? edgeId
  if allowed existing then none else some (.edgeIdConflict edgeId existing)

/-- Refuses if there is a reason to. -/
def guard (reason : Registry → Option RegistryError) : Step Unit := do
  match ← Attempt.view reason with
  | some e => Attempt.refuse e
  | none => pure ()

/-! ## Operations -/

/-- Builds the indices anew from the store. -/
def rebuild : Step Unit := do
  let es ← onStoreAs .storeUnavailable Gateway.all
  Attempt.change (·.reindex es)

def get? (id : EnvironmentId) : Step (Option Environment) := do
  let e? ← onStore (Gateway.environment? id)
  Attempt.view (fun r => e?.map r.overlay)

def list : Step (List Environment) := do
  let es ← onStore Gateway.all
  Attempt.view (fun r => es.map r.overlay)

/-- Records a poll of an agent: the contact always, the agent's description of itself if it
changed. -/
def recordPoll (now : Instant) (id : EnvironmentId) (agent : Option Agent) : Step Environment := do
  match ← onStore (Gateway.environment? id) with
  | none => Attempt.refuse (.notFound id)
  | some e =>
    let now ← Attempt.clock now
    Attempt.change (·.hear now id)
    match agent.filter (fun a => a ≠ e.agent) with
    | some agent =>
      let e ← onStore (Gateway.save { e with agent, lastCheckIn := Int64.ofInt now.seconds })
      Attempt.view (·.overlay e)
    | none => Attempt.view (·.overlay e)

/-- Notes a record that was stored as new. -/
def enterNew (r : Registry) (e : Environment) : Registry :=
  let r := match e.boundEdgeId? with
    | some edgeId => r.bind edgeId e.id
    | none => r
  (r.note e.id).seed e.id e.lastCheckIn

def create (e : Environment) : Step Environment := do
  let e := e.normalize
  guard (·.conflict? e (fun _ => false))
  let stored ← onStore (Gateway.insert e)
  Attempt.change (·.enterNew stored)
  pure stored

/-- Gives an environment another edge id in place of an old one. -/
def rebind (r : Registry) (id : EnvironmentId) (old new : Option String) : Registry :=
  if old = new then r
  else
    let freed := match old with
      | some t => if r.owner? t = some id then { r with edgeIndex := r.edgeIndex.erase t } else r
      | none => r
    match new with
    | some t => freed.bind t id
    | none => freed

def update (id : EnvironmentId) (e : Environment) : Step Environment := do
  let e := { e with id }.normalize
  match ← onStore (Gateway.environment? id) with
  | none => Attempt.refuse (.notFound id)
  | some previous =>
    guard (·.conflict? e (fun existing => existing = id))
    let stored ← onStore (Gateway.save e)
    Attempt.change (fun r =>
      ((r.rebind id previous.boundEdgeId? e.boundEdgeId?).note id).seed id stored.lastCheckIn)
    Attempt.view (·.overlay stored)

/-- Forgets an environment in every index. -/
def forget (r : Registry) (id : EnvironmentId) : Registry :=
  { r with
    edgeIndex := r.edgeIndex.filter (fun _ owner => owner ≠ id)
    heartbeats := r.heartbeats.erase id
    known := r.known.erase id }

def delete (id : EnvironmentId) : Step Unit := do
  onStore (Gateway.delete id)
  Attempt.change (·.forget id)

end Registry

end EdgeFleet
