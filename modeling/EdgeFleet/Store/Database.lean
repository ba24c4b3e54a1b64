import EdgeFleet.Store.Row
import EdgeFleet.Time.Clock
/-!
# The store

The database has a table of environments and a table of settings, whose row 1 is the one that
counts; either may be missing until it is migrated. The table of environments counts the largest id
it ever held, so that ids it gives out are never used twice, and an index keeps edge ids apart. The
database keeps on record which migrations it went through.
-/

namespace EdgeFleet

structure EnvironmentTable where
  rows : Table Int EnvironmentRow
  /-- The largest id ever held, zero for none. -/
  sequence : Int
  /-- Whether the index keeps edge ids apart. -/
  hasIndex : Bool
deriving DecidableEq

namespace EnvironmentTable

/-- A table that was just made. -/
def empty : EnvironmentTable := ⟨∅, 0, true⟩

/-- The largest id there can be. -/
def largestId : Int := 0x7fffffffffffffff

/-- The id of the next row that brings none, if there is one left: one more than the largest that is
or was held. -/
def nextId? (t : EnvironmentTable) : Option Int :=
  let used := t.rows.keys.foldl max t.sequence
  if used < largestId then some (used + 1) else none


/-- Whether a row under an id would bring an edge id that another row has. -/
def collides (t : EnvironmentTable) (id : Int) (row : EnvironmentRow) : Bool :=
  t.hasIndex && row.edgeId.isSome && t.rows.entries.any (fun e => e.1 ≠ id && e.2.edgeId = row.edgeId)

/-- The table with the index, unless two rows share an edge id. -/
def indexed? (t : EnvironmentTable) : Option EnvironmentTable :=
  let t := { t with hasIndex := true }
  if t.rows.entries.any (fun e => t.collides e.1 e.2) then none else some t

theorem indexed?_empty : empty.indexed? = some empty := rfl

/-- Puts a row under an id. -/
def put (t : EnvironmentTable) (id : Int) (row : EnvironmentRow) : EnvironmentTable :=
  { t with rows := t.rows.insert id row, sequence := max t.sequence id }

end EnvironmentTable

structure Database where
  environments : Option EnvironmentTable
  settings : Option (Table Int SettingsRow)
  /-- The tables whose migrations are on record. -/
  recorded : List TableName
deriving DecidableEq

namespace Database

def blank : Database := ⟨none, none, []⟩

abbrev Step (α : Type) : Type := Attempt Database StoreError α

def environmentTable (access : Access) : Step EnvironmentTable := do
  Attempt.orRefuse (.database (.noTable access .environments)) (← Attempt.view (·.environments))

def putTable (t : EnvironmentTable) : Step Unit :=
  Attempt.change (fun s => { s with environments := some t })

/-! ## Environments -/

/-- The row of an environment, as far as it can be read. -/
def record? (id : EnvironmentId) : Step (Option EnvironmentRow.Record) := do
  let t ← environmentTable .query
  match t.rows.get? id.number.toInt with
  | none => pure none
  | some row => some <$> Attempt.ofExcept ((row.read id.number.toInt).mapError .database)

def environment? (id : EnvironmentId) : Step (Option Environment) := do
  match ← record? id with
  | none => pure none
  | some record => some <$> Attempt.ofExcept (record.mapError .corrupt)

/-- Adds the row of a record, under the next id if it has none. The row stays where its id cannot
be told: a negative one cuts the step off, and one beyond 32 bits is refused. -/
def add (e : Environment) : Step Environment := do
  let t ← environmentTable .execution
  let id ← Attempt.orRefuse (.database .full)
    (if e.id.isAssigned then some e.id.number.toInt else t.nextId?)
  let row := EnvironmentRow.ofEnvironment e
  if t.collides id row then Attempt.refuse (.database .duplicateEdgeId)
  else
    putTable (t.put id row)
    if id < 0 then Attempt.crash
    else if Decimal.signed32.most < id then Attempt.refuse (.database .unreadableId)
    else pure { e.normalize with id := ⟨Int32.ofInt id⟩ }

/-- Adds a record; one with an id that is taken is refused. -/
def insert (e : Environment) : Step Environment := do
  if e.id.isAssigned then
    if (← record? e.id).isSome then Attempt.refuse (.alreadyExists e.id)
    else add e
  else add e

/-- Replaces the row of a record, and answers the record that the row now makes. The row keeps its
time of creation. -/
def replace (e : Environment) : Step Environment := do
  let t ← environmentTable .execution
  let id := e.id.number.toInt
  let row :=
    { EnvironmentRow.ofEnvironment e with createdAt := (t.rows.get? id).bind (·.createdAt) }
  if t.collides id row then Attempt.refuse (.database .duplicateEdgeId)
  else
    putTable { t with rows := t.rows.insert id row }
    Attempt.ofExcept (row.toEnvironment id)

/-- Adds a record, or replaces the one with its id. -/
def save (e : Environment) : Step Environment := do
  if e.id.isAssigned then
    if (← record? e.id).isSome then replace e else add e
  else add e

def delete (id : EnvironmentId) : Step Unit := do
  let t ← environmentTable .execution
  if t.rows.contains id.number.toInt then putTable { t with rows := t.rows.erase id.number.toInt }
  else Attempt.refuse (.notFound id)

/-- The rows of a table in the order of the ids, as far as they can be read. -/
def records (t : EnvironmentTable) : Except DatabaseFault (List EnvironmentRow.Record) :=
  t.rows.entries.mapM (fun e => e.2.read e.1)

/-- Every record, in the order of the ids. All rows are read before the first is made a record. -/
def all : Step (List Environment) := do
  let records ← Attempt.ofExcept ((records (← environmentTable .query)).mapError .database)
  Attempt.ofExcept ((records.mapM id).mapError .corrupt)

/-! ## Settings -/

/-- The id of the row of settings that counts. -/
def settingsId : Int := 1

/-- The stored settings, if any were. -/
def storedSettings? : Step (Option Settings) := do
  let t ← Attempt.orRefuse (.database (.noTable .query .settings)) (← Attempt.view (·.settings))
  match t.get? settingsId with
  | none => pure none
  | some row => some <$> Attempt.ofExcept (row.toSettings.mapError .database)

/-- The settings: those stored, else the standard ones. -/
def currentSettings : Step Settings := do
  return (← storedSettings?).getD .standard

def updateSettings (s : Settings) : Step Unit := do
  let _ ← storedSettings?
  Attempt.change (fun d =>
    { d with settings := d.settings.map (·.insert settingsId (.ofSettings s)) })

/-- Stores settings with the time that the clock shows, if it can be read. -/
def updateSettingsAt (now : Instant) (s : Settings) : Step Unit := do
  let _ ← Attempt.clock now
  updateSettings s

/-! ## Schema -/

/-- Makes a table if it is missing, and the index that goes with it. -/
def make : TableName → Attempt Database DatabaseFault Unit
  | .environments => do
    let t := (← Attempt.view (·.environments)).getD .empty
    let t ← Attempt.orRefuse .duplicateEdgeId t.indexed?
    Attempt.change (fun d => { d with environments := some t })
  | .settings => Attempt.change (fun d => { d with settings := some (d.settings.getD ∅) })

/-- The tables whose migrations are not on record. -/
def missing (d : Database) : List TableName := TableName.all.filter (fun t => !d.recorded.contains t)

/-- The number of migrations to go through. -/
def pendingMigrations (d : Database) : Nat := d.missing.length

/-- Goes through the migrations of some tables. Each is put on record with the time, which there is
only from the epoch on; a table stays where its migration cannot be put on record. -/
def migrateTables (now : Instant) : List TableName → Attempt Database DatabaseFault Unit
  | [] => pure ()
  | t :: r => do
    make t
    if now < .epoch then Attempt.crash
    else
      Attempt.change (fun d => { d with recorded := d.recorded ++ [t] })
      migrateTables now r

/-- Goes through the migrations that are not on record. -/
def migrate (now : Instant) : Attempt Database DatabaseFault Unit := do
  migrateTables now (← Attempt.view missing)

/-- A database that went through every migration and holds nothing. -/
def fresh : Database := ⟨some .empty, some ∅, TableName.all⟩

/-- Migrating a database without tables makes a fresh one, at any time that can be put on record. -/
theorem run_migrate_blank {now : Instant} (h : ¬ now < .epoch) :
    (migrate now).run blank = (.done (), fresh) := by
  simp [migrate, missing, blank, fresh, TableName.all, migrateTables, make, Attempt.run_bind,
    Attempt.orRefuse, EnvironmentTable.indexed?_empty, h]

/-- Drops the index that keeps edge ids apart. -/
def dropIndex : Attempt Database DatabaseFault Unit := do
  match ← Attempt.view (·.environments) with
  | some t =>
    if t.hasIndex then Attempt.change (fun d => { d with environments := some { t with hasIndex := false } })
    else Attempt.refuse .noIndex
  | none => Attempt.refuse .noIndex

/-- Undoes the last migrations on record, as many as are asked for: the settings go first, then the
environments, whose index must be there. -/
def migrateDown : Nat → Attempt Database DatabaseFault Unit
  | 0 => pure ()
  | n + 1 => do
    match (← Attempt.view (·.recorded)).getLast? with
    | none => pure ()
    | some .settings =>
      Attempt.change (fun d => { d with settings := none, recorded := d.recorded.dropLast })
      migrateDown n
    | some .environments =>
      dropIndex
      Attempt.change (fun d => { d with environments := none, recorded := d.recorded.dropLast })
      migrateDown n

/-- Undoes every migration. -/
def migrateDownAll : Attempt Database DatabaseFault Unit := migrateDown TableName.all.length

end Database

end EdgeFleet
