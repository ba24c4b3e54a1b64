import EdgeFleet.Command.Arguments
import EdgeFleet.Service
import EdgeFleet.Store.Location
/-!
# Running a command

A command opens its database, brings the schema up to date, and either serves until it is
interrupted or prints every environment. Standard output and the first line of a complaint are
part of the result, and so is the database that the process was given, as the command leaves it.
-/

namespace EdgeFleet

namespace Command

/-- How a command ends. -/
structure Result where
  exitCode : Nat
  output : String
  /-- The first line of the complaint. -/
  complaint : Option String
  /-- The database that the process was given. -/
  database : Database

/-- Why a command fails: what it was about to do. -/
inductive Failure where
  | connecting (url : String)
  | migrating
  | loadingSettings
  | storingKeepAlive
  | buildingIndices
  | credentialValidity
  | startingService
  | listing
deriving DecidableEq, Repr

def Failure.message : Failure → String
  | connecting url => s!"Failed to connect to database {url}"
  | migrating => "Failed to run database migrations"
  | loadingSettings => "Failed to load settings"
  | storingKeepAlive => "Failed to persist keep-alive setting"
  | buildingIndices => "Failed to initialize environment registry"
  | credentialValidity => "Credential TTL out of range"
  | startingService => "Failed to start edge service"
  | listing => "Failed to list environments"

def version : String := "edgeward 0.1.0"

/-- The version with its build, as `--version` tells it. -/
def longVersion : String := "edgeward v0.1.0 (unknown, built fixed)"

/-- A step of a command, on a registry over its database. -/
abbrev Step (α : Type) : Type := Attempt Registry Failure α

def onStore {ε α : Type} (failure : Failure) (x : Attempt Database ε α) : Step α :=
  (Gateway.direct x).within Registry.store (fun g r => { r with store := g }) (fun _ => failure)

def onRegistry {α : Type} (failure : Failure) (x : Registry.Step α) : Step α :=
  x.renamed (fun _ => failure)

/-- Stores the keep-alive that was asked for. -/
def storeKeepAlive (seconds : UInt32) : Step Unit := do
  let settings ← onStore .loadingSettings Database.currentSettings
  onStore .storingKeepAlive (Database.updateSettings { settings with keepAliveSeconds := seconds })

/-- Starts to serve. -/
def serve (options : ServeOptions) : Step Service := do
  match options.keepAlive with
  | some seconds => storeKeepAlive seconds
  | none => pure ()
  onRegistry .buildingIndices Registry.rebuild
  if Span.mostSeconds < options.config.credentialValidity then Attempt.refuse .credentialValidity
  else
    let secret := Utf8.bytes options.secret
    let issuer : Issuer := ⟨secret, .ofSeconds options.config.credentialValidity⟩
    let enrollment : EnrollmentConfig := ⟨options.apiUrl, options.tunnelAddress, fingerprint secret⟩
    let registry ← Attempt.view id
    let service := Service.assemble registry options.config.ports options.config.keepAlive issuer enrollment
    match Service.loadSettings service with
    | (.done (), service) => pure service
    | _ => Attempt.refuse .startingService

/-- Prints every environment. -/
def list : Step String := do
  onRegistry .buildingIndices Registry.rebuild
  let es ← onRegistry .listing Registry.list
  pure ((Json.Value.arr (es.map Environment.codec.write)).pretty ++ "\n")

/-- Carries out a request. -/
def carryOut : Request → Step String
  | .serve options => do
    let _ ← serve options
    pure ""
  | .listEnvironments => list

/-- Carries out a request on a database whose schema is brought up to date first; at which time does
not matter. -/
def carryOutOn (request : Request) (d : Database) : Outcome Failure String × Database :=
  let steps : Step String := do
    onStore .migrating (Database.migrate .epoch)
    carryOut request
  let (o, registry) := steps (.blank (.clear d))
  (o, registry.store.database)

/-- Carries out a request on the database that a URL leads to; without one, on the database that
the process was given. A database that can only be read has no schema that could be made. -/
def onDatabase (request : Request) (url : Option String) (given : Database) :
    Outcome Failure String × Database :=
  match url with
  | none => carryOutOn request given
  | some url =>
    match Location.connect url with
    | .done .readWrite => ((carryOutOn request .blank).1, given)
    | .done .readOnly => (.refused .migrating, given)
    | .refused _ => (.refused (.connecting url), given)
    | .crashed => (.crashed, given)

def firstLine (s : String) : String :=
  match s.toList.span (· ≠ '\n') with
  | (line, []) => String.ofList line
  | (line, _) => String.ofList (if line.getLast? = some '\r' then line.dropLast else line)

/-- Runs a command line until it ends by itself or is interrupted. -/
def run (words : List String) (vars : Variables) (given : Database) : Result :=
  match read words vars with
  | .error .version => ⟨0, version ++ "\n", none, given⟩
  | .error .longVersion => ⟨0, longVersion ++ "\n", none, given⟩
  | .error .help => ⟨0, "", none, given⟩
  | .error .usage => ⟨2, "", none, given⟩
  | .ok (request, url) =>
    match onDatabase request url given with
    | (.done output, d) => ⟨0, output, none, d⟩
    | (.refused failure, d) => ⟨1, "", some (firstLine s!"Error: {failure.message}"), d⟩
    | (.crashed, d) => ⟨1, "", none, d⟩

end Command

end EdgeFleet
