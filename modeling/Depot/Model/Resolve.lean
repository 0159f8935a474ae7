import Depot.Model.Check
import Depot.Model.Entity
import Depot.Text.Blank
import Depot.Text.Case

/-!
# From a model file to its entities

A consistent model file becomes a `Model`: key columns are never null, serial columns have a
default and are integers, and entities without a schema are in `public`.

* `ModelConfig.resolve`: the model of a file, or its first inconsistency.
-/

namespace Depot

/-- The schema of entities that declare none. -/
def defaultSchema : String := "public"

/-- Whether `part` occurs in a text. -/
def occursIn (part : List Char) : List Char → Bool
  | [] => part.isEmpty
  | c :: cs => (Text.after? part (c :: cs)).isSome || occursIn part cs

/-- Whether a type name contains a word, letter case ignored. -/
def typeContains (type : String) (word : String) : Bool :=
  occursIn word.toList (Text.lowercase type).toList

/-- The type that values of a column are cast to: serial columns are integers, and the name of a
    type in a schema stays as it is written. -/
def sqlTypeOf (type : String) : String :=
  let lower := Text.lowercase (Text.trimmed type)
  match lower with
  | "bigserial" | "serial8" => "bigint"
  | "serial" | "serial4" => "integer"
  | "smallserial" | "serial2" => "smallint"
  | "timestamp with time zone" => "timestamptz"
  | _ => if type.toList.contains '.' then type else lower

/-- How values of a key column of a type are made up. -/
def keyTypeOf (type : String) : KeyType :=
  if typeContains type "uuid" then .uuid
  else if typeContains type "bigserial" || typeContains type "bigint" then .bigInt
  else if typeContains type "serial" || typeContains type "int" then .int
  else .text

/-- A column of an entity with the given primary key. -/
def ColumnConfig.resolve (key : List String) (c : ColumnConfig) : Column :=
  let inKey := key.contains c.name
  { name := c.name
    keyType := if inKey then some (keyTypeOf c.type) else none
    nullable := c.nullable && !inKey
    hasDefault := c.hasDefault || typeContains c.type "serial"
    sqlType := sqlTypeOf c.type }

/-- The entity of a declaration. -/
def EntityConfig.resolve (e : EntityConfig) : Entity :=
  let key := e.primaryKey.columns
  { name := e.name
    schema := e.schema.getD defaultSchema
    table := e.table
    primaryKey := key
    columns := e.columns.map (·.resolve key)
    relations := e.relations
    rules := e.validation }

/-- The model of a file, or its first inconsistency. -/
def ModelConfig.resolve (m : ModelConfig) : Except ConfigError Model := do
  m.check
  .ok ⟨m.entities.map (·.resolve), m.resources⟩

end Depot
