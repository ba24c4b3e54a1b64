import EdgeFleet.Store.Column
import EdgeFleet.Store.Database
/-!
# Single cells

Writing one column of one row, past every check of the store but those of the database itself: the
column must be one of the table, a column that must have a value gets one, edge ids are kept apart
by their index, and ids are whole numbers that differ.
-/

namespace EdgeFleet

/-- The value of a cell. -/
inductive Cell where
  | null
  | int (n : Int)
  | text (s : String)
deriving DecidableEq, Repr

namespace Cell

/-- What a column of numbers keeps of a value, if there is one. -/
def figure? : Cell → Option Figure
  | null => none
  | int n => some (.whole n)
  | text s => some (.ofText s)

/-- What a column of texts keeps of a value, if there is one; a number becomes its digits. -/
def text? : Cell → Option String
  | null => none
  | int n => some (Decimal.text n)
  | text s => some s

/-- The id that a value is, if it is a whole number. -/
def id? (c : Cell) : Option Int :=
  match c.figure? with
  | some (.whole n) => some n
  | _ => none

end Cell

/-- Writes a cell to a row that has the column, unless the value is missing and must not be. -/
def EnvironmentRow.set? (r : EnvironmentRow) (column : String) (c : Cell) : Option EnvironmentRow :=
  match column with
  | "name" => c.text?.map (fun s => { r with name := s })
  | "environment_type" => c.figure?.map (fun f => { r with kind := f })
  | "url" => c.text?.map (fun s => { r with url := s })
  | "public_url" => c.text?.map (fun s => { r with publicUrl := s })
  | "group_id" => c.figure?.map (fun f => { r with groupId := f })
  | "status" => c.figure?.map (fun f => { r with status := f })
  | "edge_id" => some { r with edgeId := c.text? }
  | "edge_key" => c.text?.map (fun s => { r with edgeKey := s })
  | "edge_checkin_interval" => c.figure?.map (fun f => { r with checkInInterval := f })
  | "last_check_in_date" => c.figure?.map (fun f => { r with lastCheckIn := f })
  | "agent_platform" => c.text?.map (fun s => { r with agentPlatform := s })
  | "agent_version" => c.text?.map (fun s => { r with agentVersion := s })
  | "edge_async_mode" => c.figure?.map (fun f => { r with asynchronous := f })
  | "edge_ping_interval" => c.figure?.map (fun f => { r with pingInterval := f })
  | "edge_snapshot_interval" => c.figure?.map (fun f => { r with snapshotInterval := f })
  | "edge_command_interval" => c.figure?.map (fun f => { r with commandInterval := f })
  | "is_edge_device" => c.figure?.map (fun f => { r with isEdgeDevice := f })
  | "user_trusted" => c.figure?.map (fun f => { r with userTrusted := f })
  | "created_at" => c.text?.map (fun s => { r with createdAt := some s })
  | _ => some r

/-- Writes a cell to a row of settings that has the column, unless the value is missing. -/
def SettingsRow.set? (r : SettingsRow) (column : String) (c : Cell) : Option SettingsRow :=
  match column with
  | "edge_agent_checkin_interval" => c.figure?.map (fun f => { r with checkInInterval := f })
  | "tunnel_keep_alive_secs" => c.figure?.map (fun f => { r with keepAliveSeconds := f })
  | "updated_at" => c.text?.map (fun s => { r with updatedAt := some s })
  | _ => some r

namespace Database

abbrev Write : Type := Attempt Database DatabaseFault Nat

/-- Moves the row under an id to the id that a value is, in a table where it must not be taken. -/
def moved {α : Type} (table : TableName) (rows : Table Int α) (id : Int) (row : α) (c : Cell) :
    Except DatabaseFault (Table Int α) :=
  match c.id? with
  | none => .error .idMismatch
  | some target =>
    if target ≠ id ∧ rows.contains target then .error (.duplicateId table)
    else .ok ((rows.erase id).insert target row)

/-- Writes a cell of the table of environments. -/
def setEnvironmentCell (t : EnvironmentTable) (id : Int) (column : String) (c : Cell) : Write := do
  match t.rows.get? id with
  | none => pure 0
  | some row =>
    let rows ←
      if column = "id" then Attempt.ofExcept (moved .environments t.rows id row c)
      else
        let row ← Attempt.orRefuse (.missingValue .environments column) (row.set? column c)
        if t.collides id row then Attempt.refuse .duplicateEdgeId
        else pure (t.rows.insert id row)
    Attempt.change (fun d => { d with environments := some { t with rows } })
    pure 1

/-- Writes a cell of the table of settings. -/
def setSettingsCell (rows : Table Int SettingsRow) (id : Int) (column : String) (c : Cell) :
    Write := do
  match rows.get? id with
  | none => pure 0
  | some row =>
    let rows ←
      if column = "id" then Attempt.ofExcept (moved .settings rows id row c)
      else
        let row ← Attempt.orRefuse (.missingValue .settings column) (row.set? column c)
        pure (rows.insert id row)
    Attempt.change (fun d => { d with settings := some rows })
    pure 1

/-- The column of a table that a name stands for. -/
def column (table : TableName) (name : String) : Attempt Database DatabaseFault String :=
  Attempt.orRefuse (.noColumn name) (Column.resolve? table name)

/-- Writes a cell of a table, given what stands for the name of the column. -/
def setCell (table : TableName) (id : Int) (name : String) (c : Cell) : Write := do
  let name ← Attempt.ofExcept ((Column.readName name).mapError .badName)
  match table with
  | .environments =>
    let t ← Attempt.orRefuse (.noTable .execution table) (← Attempt.view (·.environments))
    setEnvironmentCell t id (← column table name) c
  | .settings =>
    let rows ← Attempt.orRefuse (.noTable .execution table) (← Attempt.view (·.settings))
    setSettingsCell rows id (← column table name) c

end Database

end EdgeFleet
