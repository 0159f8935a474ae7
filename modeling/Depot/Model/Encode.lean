import Depot.Model.Config

/-!
# Writing models

The value of a model, with every field in place: what was left out shows as its default, and what
is absent as null.

* `ModelConfig.toJson`: a whole model.
-/

namespace Depot

/-- The value of something that may be absent. -/
def orNull {α : Type} (f : α → Json) : Option α → Json
  | none => .null
  | some a => f a

/-- A double as a value; what is not a finite number is null. -/
def Double.toJson (d : Double) : Json := orNull .num (Number.ofDouble? d)

/-- A list of strings as a value. -/
def stringsJson (ss : List String) : Json := .arr (ss.map .str)

/-- A rule as a value. -/
def Rule.toJson (r : Rule) : Json := .obj (Fields.ofList [
  ("required", orNull .bool r.required),
  ("format", orNull .str r.format),
  ("max_length", orNull .nat r.maxLength),
  ("min_length", orNull .nat r.minLength),
  ("pattern", orNull .str r.pattern),
  ("allowed", orNull .arr r.allowed),
  ("minimum", orNull Double.toJson r.minimum),
  ("maximum", orNull Double.toJson r.maximum)])

/-- Rules as a value. -/
def rulesJson (rules : Fields Rule) : Json := .obj (rules.map fun (k, r) => (k, r.toJson))

/-- A column as a value. -/
def ColumnConfig.toJson (c : ColumnConfig) : Json := .obj (Fields.ofList [
  ("name", .str c.name),
  ("type", .str c.type),
  ("nullable", .bool c.nullable),
  ("has_default", .bool c.hasDefault)])

/-- A relation as a value. -/
def Relation.toJson (r : Relation) : Json := .obj (Fields.ofList [
  ("name", .str r.name),
  ("kind", .str r.kind.name),
  ("target", .str r.target),
  ("local_column", .str r.localColumn),
  ("remote_column", .str r.remoteColumn)])

/-- A primary key as a value. -/
def PrimaryKeyConfig.toJson : PrimaryKeyConfig → Json
  | .single c => .str c
  | .composite cs => stringsJson cs

/-- An entity as a value. -/
def EntityConfig.toJson (e : EntityConfig) : Json := .obj (Fields.ofList [
  ("name", .str e.name),
  ("schema", orNull .str e.schema),
  ("table", .str e.table),
  ("primary_key", e.primaryKey.toJson),
  ("columns", .arr (e.columns.map (·.toJson))),
  ("relations", .arr (e.relations.map (·.toJson))),
  ("validation", rulesJson e.validation)])

/-- A resource as a value. -/
def ResourceConfig.toJson (r : ResourceConfig) : Json := .obj (Fields.ofList [
  ("name", .str r.name),
  ("entity", .str r.entity),
  ("mount", .str r.mount),
  ("key_path", orNull .str r.keyPath),
  ("searchable_fields", stringsJson r.searchable),
  ("order_by", orNull .str r.orderBy),
  ("default_populate", .obj (Fields.ofList [
    ("one", stringsJson r.populate.one),
    ("many", stringsJson r.populate.many)])),
  ("distinct", .bool r.distinct),
  ("replace_underscore_with_empty", .bool r.underscoreAsEmpty),
  ("scope_headers", .obj (r.scopeHeaders.map fun (k, v) => (k, .str v)))])

/-- A model as a value. -/
def ModelConfig.toJson (m : ModelConfig) : Json := .obj (Fields.ofList [
  ("entities", .arr (m.entities.map (·.toJson))),
  ("resources", .arr (m.resources.map (·.toJson)))])

end Depot
