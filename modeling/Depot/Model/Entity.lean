import Depot.Json.Printer
import Depot.Model.Config

/-!
# Entities

An entity as the program works with it: columns with the type that they are cast to, the primary
key, relations and rules. `Model` holds the entities of a model file with its resources.

* `Entity.key?`: the identity of a record, the texts of its primary key values.
* `Entity.columnFields`: the fields of a record that are stored.
* `Entity.generatedKey?`: the key column whose values the store can make up.

Results:
* `key?_isSome_iff`: a record has a key if all its key fields are there and not null.
-/

namespace Depot

/-- How a store makes up values of a key column. -/
inductive KeyType
  | uuid
  | bigInt
  | int
  | text
  deriving DecidableEq, Repr

/-- The name of a key type. -/
def KeyType.name : KeyType → String
  | .uuid => "Uuid"
  | .bigInt => "BigInt"
  | .int => "Int"
  | .text => "Text"

/-- A column of an entity; `keyType` is there for the columns of the primary key, and `sqlType`
    names the type that values are cast to. -/
structure Column where
  name : String
  keyType : Option KeyType
  nullable : Bool
  hasDefault : Bool
  sqlType : String
  deriving DecidableEq, Repr

/-- An entity. -/
structure Entity where
  name : String
  schema : String
  table : String
  primaryKey : List String
  columns : List Column
  relations : List Relation
  rules : Fields Rule
  deriving DecidableEq

/-- The identity of a row: the texts of its primary key values, in the order of the key. -/
structure RowKey where
  parts : List String
  deriving DecidableEq, Repr

/-- The text of a row's identity. -/
def RowKey.text (k : RowKey) : String := String.intercalate ":" k.parts

/-- The text of a key value, unless it is null. A number and a string of the same text name the
    same row. -/
def keyPart? : Json → Option String
  | .null => none
  | v => some v.plainText

namespace Entity

/-- The column of a name. -/
def column? (e : Entity) (name : String) : Option Column := e.columns.find? (·.name == name)

/-- Whether there is a column of a name. -/
def hasColumn (e : Entity) (name : String) : Bool := (e.column? name).isSome

/-- The relation of a name. -/
def relation? (e : Entity) (name : String) : Option Relation :=
  e.relations.find? (·.name == name)

/-- The texts of the values of columns, if none is missing or null. -/
def keyParts? (r : Record) : List String → Option (List String)
  | [] => some []
  | c :: cs => do
    let part ← (r.field? c).bind keyPart?
    let parts ← keyParts? r cs
    some (part :: parts)

/-- The identity of a record, if it has a complete key. -/
def key? (e : Entity) (r : Record) : Option RowKey :=
  if e.primaryKey.isEmpty then none else (keyParts? r e.primaryKey).map RowKey.mk

/-- The key fields of a record. -/
def keyFields (e : Entity) (r : Record) : Record :=
  Fields.ofList (e.primaryKey.filterMap fun c => (r.field? c).map fun v => (c, v))

/-- The fields of a record that are columns. -/
def columnFields (e : Entity) (r : Record) : Record := r.restrict e.hasColumn

/-- The column of a primary key of one column, if that column has a default. -/
def generatedKey? (e : Entity) : Option Column :=
  match e.primaryKey with
  | [c] => (e.column? c).filter (·.hasDefault)
  | _ => none

theorem keyParts?_isSome_iff (r : Record) (cs : List String) :
    (keyParts? r cs).isSome ↔ ∀ c ∈ cs, ((r.field? c).bind keyPart?).isSome := by
  induction cs with
  | nil => simp [keyParts?]
  | cons c cs ih =>
    simp only [keyParts?, List.mem_cons, forall_eq_or_imp, ← ih]
    cases (r.field? c).bind keyPart? <;> cases keyParts? r cs <;> simp

theorem key?_isSome_iff (e : Entity) (r : Record) :
    (e.key? r).isSome ↔
      e.primaryKey ≠ [] ∧ ∀ c ∈ e.primaryKey, ((r.field? c).bind keyPart?).isSome := by
  rw [← keyParts?_isSome_iff, key?]
  cases h : e.primaryKey <;> simp

end Entity

/-- The entities and resources of a model. -/
structure Model where
  entities : List Entity
  resources : List ResourceConfig

/-- The entity of a name. -/
def Model.entity? (m : Model) (name : String) : Option Entity :=
  m.entities.find? (·.name == name)

end Depot
