import Depot.Error
import Depot.Net.SocketAddress
import Depot.Text.Blank

/-!
# Settings

The settings of a server process, read from named variables. The database and the model file must
be named; the other variables have defaults.

* `Settings.read`: the settings, or the first variable that is missing or unreadable.
-/

namespace Depot

/-- The settings of a server process. -/
structure Settings where
  databaseUrl : String
  bindAddress : SocketAddress
  resourceConfig : String
  schemaOverride : Option String
  maxConnections : Nat
  bodyLimit : Nat
  deriving DecidableEq, Repr

namespace Settings

/-- Where a server listens if nothing else is said. -/
def defaultAddress : SocketAddress := .v4 [127, 0, 0, 1] 3000

/-- The number of database connections if nothing else is said. -/
def defaultMaxConnections : Nat := 5

/-- The greatest size of a request body, in bytes, if nothing else is said. -/
def defaultBodyLimit : Nat := 1024 * 1024

/-- The value of a variable that must be there. -/
def required (lookup : String → Option String) (name : String) : Except ConfigError String :=
  match lookup name with
  | some v => .ok v
  | none => .error (.validation (name ++ " is required"))

/-- The number that a variable holds. -/
def number (lookup : String → Option String) (name : String) (limit default : Nat) :
    Except ConfigError Nat :=
  match lookup name with
  | none => .ok default
  | some v =>
    match Text.Natural.parse limit (Text.trim v.toList) with
    | .ok n => .ok n
    | .error fault => .error (.validation (name ++ ": " ++ fault.message))

/-- The address that a variable holds. -/
def address (lookup : String → Option String) (name : String) (default : SocketAddress) :
    Except ConfigError SocketAddress :=
  match lookup name with
  | none => .ok default
  | some v =>
    match SocketAddress.parse? v with
    | some a => .ok a
    | none => .error (.validation (name ++ ": invalid socket address syntax"))

/-- The settings that variables hold. -/
def read (lookup : String → Option String) : Except ConfigError Settings := do
  let databaseUrl ← required lookup "DATABASE_URL"
  let bindAddress ← address lookup "BIND_ADDR" defaultAddress
  let resourceConfig ← required lookup "RESOURCE_CONFIG"
  let schemaOverride := (lookup "DB_SCHEMA").filter fun s => !(Text.trim s.toList).isEmpty
  let maxConnections ← number lookup "DB_MAX_CONNECTIONS" 0xFFFFFFFF defaultMaxConnections
  let bodyLimit ← number lookup "BODY_LIMIT_BYTES" 0xFFFFFFFFFFFFFFFF defaultBodyLimit
  .ok { databaseUrl, bindAddress, resourceConfig, schemaOverride, maxConnections, bodyLimit }

end Settings

end Depot
