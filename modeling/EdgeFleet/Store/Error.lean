import EdgeFleet.Environment.Basic
import EdgeFleet.Text.Decimal
import EdgeFleet.Text.Quoted
import EdgeFleet.Text.Utf8
/-!
# Refusals of the store

A `DatabaseFault` comes from the database itself, a `StoreError` from the store on top of it. Both
keep the cause; the wording is in `message`.
-/

namespace EdgeFleet

/-- The two tables of the database. -/
inductive TableName where
  | environments
  | settings
deriving DecidableEq, Repr

/-- Every table, in the order in which they are made. -/
def TableName.all : List TableName := [.environments, .settings]

def TableName.text : TableName → String
  | environments => "environments"
  | settings => "settings"

/-- What the database was about to do. -/
inductive Access where
  | connection
  | query
  | execution
deriving DecidableEq, Repr

/-- The wording that a fault starts with. -/
def Access.text : Access → String
  | connection => "Connection Error: "
  | query => "Query Error: "
  | execution => "Execution Error: "

/-- What a column of numbers is read as. -/
inductive NumberType where
  | int32
  | int64
  | truth
deriving DecidableEq, Repr

def NumberType.text : NumberType → String
  | int32 => "`core::option::Option<i32>` (as SQL type `INTEGER`)"
  | int64 => "`core::option::Option<i64>` (as SQL type `INTEGER`)"
  | truth => "`core::option::Option<bool>` (as SQL type `BOOLEAN`)"

/-- What a column of numbers may hold that it cannot be read as. -/
inductive Misfit where
  | real
  | text
deriving DecidableEq, Repr

def Misfit.name : Misfit → String
  | real => "REAL"
  | text => "TEXT"

/-- Why the value in a column cannot be read. -/
inductive ColumnFault where
  | outOfRange (fault : Decimal.Fault)
  | mismatch (wanted : NumberType) (held : Misfit)
  | notATime (text : String)
deriving DecidableEq, Repr

def ColumnFault.message : ColumnFault → String
  | outOfRange fault => fault.message
  | mismatch wanted held =>
    s!"mismatched types; Rust type {wanted.text} is not compatible with SQL type `" ++ held.name ++ "`"
  | notATime text => s!"invalid datetime: {text}"

/-- Why a name in a statement cannot be read. -/
inductive NameFault where
  | near (token : String)
  | unknownToken (token : String)
  /-- The statement ends too early. -/
  | incomplete
deriving DecidableEq, Repr

def NameFault.message : NameFault → String
  | near token => s!"near \"{token}\": syntax error"
  | unknownToken token => s!"unrecognized token: \"{token}\""
  | incomplete => "incomplete input"

/-- What is wrong with the URL of a database. -/
inductive LocationFault where
  | unknownParameter (name : String)
  | unknownValue (name value : String)
  | notUtf8 (fault : Utf8.Fault)
deriving DecidableEq, Repr

def LocationFault.message : LocationFault → String
  | unknownParameter name => "unknown query parameter `" ++ name ++ "` while parsing connection URL"
  | unknownValue name value => s!"unknown value {Text.quoted value} for `" ++ name ++ "`"
  | notUtf8 fault => fault.message

/-- A refusal of the database. -/
inductive DatabaseFault where
  | noTable (access : Access) (table : TableName)
  | noColumn (column : String)
  | badName (fault : NameFault)
  | noIndex
  | duplicateEdgeId
  | duplicateId (table : TableName)
  | missingValue (table : TableName) (column : String)
  /-- An id that is no whole number. -/
  | idMismatch
  /-- No id is left to give out. -/
  | full
  | unreadableColumn (column : String) (fault : ColumnFault)
  | unreadableId
  | unsupportedUrl (url : String)
  | badUrl (fault : LocationFault)
  | noFileSystem (name : String)
  | cannotOpen
  | noServer
  | other (text : String)
deriving DecidableEq, Repr

namespace DatabaseFault

/-- The name of the index that keeps edge ids unique. -/
def indexName : String := "idx_environments_edge_id"

def told (access : Access) (code : Nat) (text : String) : String :=
  access.text ++ s!"error returned from database: (code: {code}) {text}"

def message : DatabaseFault → String
  | noTable access table => told access 1 s!"no such table: {table.text}"
  | noColumn column => told .execution 1 s!"no such column: {column}"
  | badName fault => told .execution 1 fault.message
  | noIndex => told .execution 1 s!"no such index: {indexName}"
  | duplicateEdgeId => told .execution 2067 "UNIQUE constraint failed: environments.edge_id"
  | duplicateId table => told .execution 1555 s!"UNIQUE constraint failed: {table.text}.id"
  | missingValue table column => told .execution 1299 s!"NOT NULL constraint failed: {table.text}.{column}"
  | idMismatch => told .execution 20 "datatype mismatch"
  | full => told .execution 13 "database or disk is full"
  | unreadableColumn column fault =>
    s!"{Access.query.text}error occurred while decoding column \"{column}\": {fault.message}"
  | unreadableId => "Failed to unpack last_insert_id"
  | unsupportedUrl url =>
    s!"Custom Error: Unsupported database URL (expected postgres:// or sqlite:): {url}"
  | badUrl fault => s!"{Access.connection.text}error with configuration: {fault.message}"
  | noFileSystem name => told .connection 1 s!"no such vfs: {name}"
  | cannotOpen => told .connection 14 "unable to open database file"
  | noServer => s!"{Access.connection.text}pool timed out while waiting for an open connection"
  | other text => s!"Custom Error: {text}"

end DatabaseFault

/-- Why a row is no record. -/
inductive Corruption where
  | unknownCode (id : Int) (code : UnknownCode)
  | other (text : String)
deriving DecidableEq, Repr

def Corruption.message : Corruption → String
  | unknownCode id code => s!"environment {id}: {code.message}"
  | other text => text

/-- A refusal of the store. -/
inductive StoreError where
  | database (fault : DatabaseFault)
  | notFound (id : EnvironmentId)
  | alreadyExists (id : EnvironmentId)
  | corrupt (reason : Corruption)
deriving DecidableEq, Repr

def StoreError.message : StoreError → String
  | database fault => s!"Database error: {fault.message}"
  | notFound id => s!"Environment {id} not found"
  | alreadyExists id => s!"Environment {id} already exists"
  | corrupt reason => s!"Corrupt record: {reason.message}"

end EdgeFleet
