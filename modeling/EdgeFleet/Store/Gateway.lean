import EdgeFleet.Store.Database
/-!
# The way to the store

Calls of the store go through a gateway, which may be told to refuse the next call of a method.
A refused call never reaches the database, so it leaves every row as it was.
-/

namespace EdgeFleet

inductive StoreMethod where
  | environment
  | insert
  | save
  | delete
  | scanAll
  | settings
  | updateSettings
deriving DecidableEq, Repr

namespace StoreMethod

def every : List StoreMethod := [environment, insert, save, delete, scanAll, settings, updateSettings]

def name : StoreMethod → String
  | environment => "environment"
  | insert => "insert"
  | save => "save"
  | delete => "delete"
  | scanAll => "scan_all"
  | settings => "settings"
  | updateSettings => "update_settings"

end StoreMethod

/-- A database behind a gateway, with the calls that are to be refused, one a method. -/
structure Gateway where
  database : Database
  refusals : List (StoreMethod × StoreError)
deriving DecidableEq

namespace Gateway

/-- A gateway that refuses nothing. -/
def clear (d : Database) : Gateway := ⟨d, []⟩

/-- The refusals of the other methods. -/
def without (g : Gateway) (m : StoreMethod) : List (StoreMethod × StoreError) :=
  g.refusals.filter (fun p => p.1 ≠ m)

/-- Refuses the next call of a method. -/
def refuseNext (g : Gateway) (m : StoreMethod) (e : StoreError) : Gateway :=
  { g with refusals := (m, e) :: g.without m }

abbrev Step (α : Type) : Type := Attempt Gateway StoreError α

/-- A step straight on the database. -/
def direct {ε α : Type} (x : Attempt Database ε α) : Attempt Gateway ε α :=
  x.within Gateway.database (fun d g => { g with database := d }) id

/-- Calls a method, unless it is to be refused. -/
def call {α : Type} (m : StoreMethod) (x : Database.Step α) : Step α := fun g =>
  match g.refusals.lookup m with
  | some e => (.refused e, { g with refusals := g.without m })
  | none => direct x g

def environment? (id : EnvironmentId) : Step (Option Environment) :=
  call .environment (Database.environment? id)

def insert (e : Environment) : Step Environment := call .insert (Database.insert e)

def save (e : Environment) : Step Environment := call .save (Database.save e)

def delete (id : EnvironmentId) : Step Unit := call .delete (Database.delete id)

def all : Step (List Environment) := call .scanAll Database.all

def settings : Step Settings := call .settings Database.currentSettings

/-- Stores settings with the time that the clock shows. -/
def updateSettings (now : Instant) (s : Settings) : Step Unit :=
  call .updateSettings (Database.updateSettingsAt now s)

end Gateway

end EdgeFleet
