import Depot.Json.Record

/-!
# Failures

Three layers fail in their own ways: reading a configuration, the store, and a request on a
resource. Each failure has one wording; a failed request also has a code, a status and a body.

* `ConfigError`, `StoreError`, `RequestError`: the failures, with `message`.
* `RequestError.ofStore`: how a store's failure appears to a request.
* `RequestError.status`, `RequestError.body`: the response to a failed request.
-/

namespace Depot

/-- Failures of a configuration. -/
inductive ConfigError
  | missingReference (kind id : String)
  | invalidPrimaryKey (entity column : String)
  | duplicateMount (mount : String)
  | load
  | validation (detail : String)
  deriving DecidableEq, Repr

/-- The wording of a failure. The cause of an unreadable file is left to the reader of the file. -/
def ConfigError.message : ConfigError → String
  | .missingReference kind id => "missing reference: " ++ kind ++ " '" ++ id ++ "'"
  | .invalidPrimaryKey entity column =>
    "invalid primary key: entity " ++ entity ++ " column " ++ column
  | .duplicateMount mount => "duplicate mount path: " ++ mount
  | .load => "config load"
  | .validation detail => "validation: " ++ detail

/-- Failures of a store. -/
inductive StoreError
  | conflict (detail : String)
  | missing (detail : String)
  | invalidValue (detail : String)
  | unknownEntity (detail : String)
  | database (detail : String)
  | backend (detail : String)
  deriving DecidableEq, Repr

namespace StoreError

/-- What the failure is about. -/
def detail : StoreError → String
  | .conflict d | .missing d | .invalidValue d | .unknownEntity d | .database d | .backend d => d

/-- The wording of a failure. -/
def message : StoreError → String
  | .conflict d => "conflict: " ++ d
  | .missing d => "missing row: " ++ d
  | .invalidValue d => "invalid value: " ++ d
  | .unknownEntity d => "unknown entity: " ++ d
  | .database d => "database: " ++ d
  | .backend d => "backend: " ++ d

end StoreError

/-- Failures of a request on a resource. -/
inductive RequestError
  | notFound (resource detail : String)
  | alreadyExists (resource detail : String)
  | invalidScope (resource detail : String)
  | queryMalformed (resource detail : String)
  | badConfiguration (resource detail : String)
  | updateMalformed (resource detail : String)
  | validation (resource detail : String)
  | store (resource : String) (source : StoreError)
  deriving DecidableEq, Repr

namespace RequestError

/-- The stable code of a failure. -/
def code : RequestError → String
  | .notFound .. => "RES-001 RESOURCE_NOT_FOUND"
  | .alreadyExists .. => "RES-002 RESOURCE_ALREADY_EXISTS"
  | .invalidScope .. => "RES-003 INVALID_RESOURCE_SCOPE"
  | .queryMalformed .. => "RES-004 QUERY_MALFORM"
  | .badConfiguration .. => "RES-005 BAD_CONTROLLER_CONFIGURATION"
  | .updateMalformed .. => "RES-006 UPDATE_MALFORM"
  | .validation .. => "RES-010 VALIDATION_FAILED"
  | .store .. => "RES-500 STORE_FAILURE"

/-- The resource on which the request failed. -/
def resource : RequestError → String
  | .notFound r _ | .alreadyExists r _ | .invalidScope r _ | .queryMalformed r _
  | .badConfiguration r _ | .updateMalformed r _ | .validation r _ | .store r _ => r

/-- What the failure is about. -/
def detail : RequestError → String
  | .notFound _ d | .alreadyExists _ d | .invalidScope _ d | .queryMalformed _ d
  | .badConfiguration _ d | .updateMalformed _ d | .validation _ d => d
  | .store _ source => source.message

/-- The wording of a failure. -/
def message (e : RequestError) : String := e.code ++ ": " ++ e.resource ++ ": " ++ e.detail

/-- How a store's failure appears to a request: a conflict is an existing resource, and a value
    that cannot be stored is a malformed update. -/
def ofStore (resource : String) : StoreError → RequestError
  | .conflict d => .alreadyExists resource d
  | .invalidValue d => .updateMalformed resource d
  | e => .store resource e

/-- The status of the response to a failed request. -/
def status : RequestError → Nat
  | .notFound .. => 404
  | .alreadyExists .. => 409
  | .invalidScope .. | .queryMalformed .. | .updateMalformed .. => 400
  | .validation .. => 422
  | .badConfiguration .. | .store .. => 500

/-- The wording that a caller sees: what went wrong in the store stays hidden. -/
def publicMessage : RequestError → String
  | e@(.store r _) => e.code ++ ": " ++ r ++ ": store failure"
  | e => e.message

/-- The body of the response to a failed request. -/
def body (e : RequestError) : Json :=
  .obj [("error", .obj [("code", .str e.code), ("details", .obj [("resource", .str e.resource)]),
    ("message", .str e.publicMessage)])]

end RequestError

end Depot
