import Depot.Json.Record

/-!
# Model files

What a model file declares: entities with their columns, relations and validation rules, and the
resources under which entities are served.

* `ModelConfig`: a whole file.
-/

namespace Depot

/-- How many rows of its target a relation leads to. -/
inductive RelationKind
  | toOne
  | toMany
  deriving DecidableEq, Repr

/-- The name of a kind. -/
def RelationKind.name : RelationKind → String
  | .toOne => "to_one"
  | .toMany => "to_many"

/-- A relation to another entity: the rows of `target` whose `remoteColumn` equals the
    `localColumn` of this entity's row. -/
structure Relation where
  name : String
  kind : RelationKind
  target : String
  localColumn : String
  remoteColumn : String
  deriving DecidableEq, Repr

/-- A rule for the values of a column. -/
structure Rule where
  required : Option Bool
  format : Option String
  maxLength : Option Nat
  minLength : Option Nat
  pattern : Option String
  allowed : Option (List Json)
  minimum : Option Double
  maximum : Option Double
  deriving DecidableEq

/-- A rule that asks for nothing. -/
def Rule.none : Rule := ⟨.none, .none, .none, .none, .none, .none, .none, .none⟩

/-- A declared column. -/
structure ColumnConfig where
  name : String
  type : String
  nullable : Bool
  hasDefault : Bool
  deriving DecidableEq, Repr

/-- A declared primary key: one column by its name, or several. -/
inductive PrimaryKeyConfig
  | single (column : String)
  | composite (columns : List String)
  deriving DecidableEq, Repr

/-- The columns of a primary key. -/
def PrimaryKeyConfig.columns : PrimaryKeyConfig → List String
  | .single c => [c]
  | .composite cs => cs

/-- A declared entity. -/
structure EntityConfig where
  name : String
  schema : Option String
  table : String
  primaryKey : PrimaryKeyConfig
  columns : List ColumnConfig
  relations : List Relation
  validation : Fields Rule

/-- The names of an entity's columns. -/
def EntityConfig.columnNames (e : EntityConfig) : List String := e.columns.map (·.name)

/-- The relations that are loaded when a request names none: with one row, and with many. -/
structure PopulateConfig where
  one : List String
  many : List String
  deriving DecidableEq, Repr

/-- A declared resource. -/
structure ResourceConfig where
  name : String
  entity : String
  mount : String
  keyPath : Option String
  searchable : List String
  orderBy : Option String
  populate : PopulateConfig
  distinct : Bool
  underscoreAsEmpty : Bool
  scopeHeaders : Fields String
  deriving DecidableEq, Repr

/-- A model file. -/
structure ModelConfig where
  entities : List EntityConfig
  resources : List ResourceConfig

end Depot
