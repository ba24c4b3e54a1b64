import EdgeFleet.Settings
import EdgeFleet.Store.Error
import EdgeFleet.Store.Figure
import EdgeFleet.Time.Timestamp
/-!
# Rows

What the database keeps of an environment and of the settings. A column of numbers may hold what is
no number, and a number that its record has no place for: writing clamps numbers of seconds to 31
bits, and reading refuses what is not a number of 32 bits, takes negative seconds for none, and
refuses unknown codes. The columns of a row are read in their order before the codes are looked up.
-/

namespace EdgeFleet

/-- A row of the table of environments, without its id. -/
structure EnvironmentRow where
  name : String
  kind : Figure
  url : String
  publicUrl : String
  groupId : Figure
  status : Figure
  edgeId : Option String
  edgeKey : String
  checkInInterval : Figure
  lastCheckIn : Figure
  agentPlatform : String
  agentVersion : String
  asynchronous : Figure
  pingInterval : Figure
  snapshotInterval : Figure
  commandInterval : Figure
  isEdgeDevice : Figure
  userTrusted : Figure
  /-- The text that was put in place of the time of creation; the time itself is never asked for. -/
  createdAt : Option String
deriving DecidableEq, Repr

/-! ## Writing and reading columns -/

/-- A number of seconds as a column keeps it, at most the largest signed 32-bit number. -/
def Figure.ofSeconds (n : UInt32) : Figure := .whole (min (n.toNat : Int) 0x7fffffff)

/-- A truth value as a column keeps it. -/
def Figure.ofBool (b : Bool) : Figure := .whole (if b then 1 else 0)

/-- Reads a column as a whole number. -/
def Figure.read (wanted : NumberType) : Figure → Except ColumnFault Int
  | whole n => .ok n
  | real => .error (.mismatch wanted .real)
  | text _ => .error (.mismatch wanted .text)

/-- Reads a column as a whole number of 32 bits. -/
def Figure.readInt32 (f : Figure) : Except ColumnFault Int32 := do
  let n ← f.read .int32
  if n < Decimal.signed32.least then .error (.outOfRange .tooSmall)
  else if Decimal.signed32.most < n then .error (.outOfRange .tooLarge)
  else .ok (Int32.ofInt n)

/-- Reads a column as a whole number of 64 bits. -/
def Figure.readInt64 (f : Figure) : Except ColumnFault Int64 := do
  return Int64.ofInt (← f.read .int64)

/-- Reads a column as a truth value: every number but zero is true. -/
def Figure.readBool (f : Figure) : Except ColumnFault Bool := do
  return (← f.read .truth) ≠ 0

/-- Reads a column that keeps a time, given what was put in the place of the time. -/
def readTime : Option String → Except ColumnFault Unit
  | none => .ok ()
  | some t => if Timestamp.isPlain t.toList then .ok () else .error (.notATime t)

/-- The number of seconds in a column. -/
def secondsOf (n : Int32) : UInt32 := UInt32.ofNat n.toInt.toNat

/-- Names the column that a fault lies in. -/
def inColumn {α : Type} (column : String) (x : Except ColumnFault α) : Except DatabaseFault α :=
  x.mapError (.unreadableColumn column)

/-! ## Environments -/

namespace EnvironmentRow

def ofEnvironment (e : Environment) : EnvironmentRow where
  name := e.name
  kind := .whole e.kind.code
  url := e.url
  publicUrl := e.publicUrl
  groupId := .whole e.groupId.toInt
  status := .whole e.status.code
  edgeId := e.boundEdgeId?
  edgeKey := e.edgeKey
  checkInInterval := .ofSeconds e.checkInInterval
  lastCheckIn := .whole e.lastCheckIn.toInt
  agentPlatform := e.agent.platform
  agentVersion := e.agent.version
  asynchronous := .ofBool e.polling.asynchronous
  pingInterval := .ofSeconds e.polling.pingInterval
  snapshotInterval := .ofSeconds e.polling.snapshotInterval
  commandInterval := .ofSeconds e.polling.commandInterval
  isEdgeDevice := .ofBool e.isEdgeDevice
  userTrusted := .ofBool e.userTrusted
  createdAt := none

/-- The record of a row, once its columns are read. -/
abbrev Record : Type := Except Corruption Environment

/-- Reads the columns of a row, in their order. What comes of it is a record if its codes are known,
the code of the kind first. -/
def read (id : Int) (r : EnvironmentRow) : Except DatabaseFault Record := do
  let id ← inColumn "id" (Figure.whole id).readInt32
  let kindCode ← inColumn "environment_type" r.kind.readInt32
  let groupId ← inColumn "group_id" r.groupId.readInt32
  let statusCode ← inColumn "status" r.status.readInt32
  let checkInInterval ← inColumn "edge_checkin_interval" r.checkInInterval.readInt32
  let lastCheckIn ← inColumn "last_check_in_date" r.lastCheckIn.readInt64
  let asynchronous ← inColumn "edge_async_mode" r.asynchronous.readBool
  let pingInterval ← inColumn "edge_ping_interval" r.pingInterval.readInt32
  let snapshotInterval ← inColumn "edge_snapshot_interval" r.snapshotInterval.readInt32
  let commandInterval ← inColumn "edge_command_interval" r.commandInterval.readInt32
  let isEdgeDevice ← inColumn "is_edge_device" r.isEdgeDevice.readBool
  let userTrusted ← inColumn "user_trusted" r.userTrusted.readBool
  inColumn "created_at" (readTime r.createdAt)
  .ok (do
    let kind ← (EnvironmentKind.ofCode kindCode.toInt).mapError (.unknownCode id.toInt)
    let status ← (EnvironmentStatus.ofCode statusCode.toInt).mapError (.unknownCode id.toInt)
    .ok
      { id := ⟨id⟩
        name := r.name
        kind
        url := r.url
        publicUrl := r.publicUrl
        groupId
        status
        edgeId := r.edgeId.filter (fun t => t ≠ "")
        edgeKey := r.edgeKey
        checkInInterval := secondsOf checkInInterval
        lastCheckIn
        agent := ⟨r.agentPlatform, r.agentVersion⟩
        polling :=
          ⟨asynchronous, secondsOf pingInterval, secondsOf snapshotInterval, secondsOf commandInterval⟩
        isEdgeDevice
        userTrusted })

def toEnvironment (id : Int) (r : EnvironmentRow) : Except StoreError Environment := do
  let record ← (r.read id).mapError .database
  record.mapError .corrupt

end EnvironmentRow

/-! ## Settings -/

/-- A row of the table of settings, without its id. -/
structure SettingsRow where
  checkInInterval : Figure
  keepAliveSeconds : Figure
  /-- The text that was put in place of the time of the last change; the time itself is never asked
  for. -/
  updatedAt : Option String
deriving DecidableEq, Repr

namespace SettingsRow

def ofSettings (s : Settings) : SettingsRow :=
  ⟨.ofSeconds s.checkInInterval, .ofSeconds s.keepAliveSeconds, none⟩

def toSettings (r : SettingsRow) : Except DatabaseFault Settings := do
  let checkInInterval ← inColumn "edge_agent_checkin_interval" r.checkInInterval.readInt32
  let keepAliveSeconds ← inColumn "tunnel_keep_alive_secs" r.keepAliveSeconds.readInt32
  inColumn "updated_at" (readTime r.updatedAt)
  .ok ⟨secondsOf checkInInterval, secondsOf keepAliveSeconds⟩

end SettingsRow

end EdgeFleet
