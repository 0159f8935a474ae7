import Depot.Error
import Depot.Model.Config

/-!
# Consistency of models

A model is consistent if its entities have different names, each primary key, relation, searchable
field and scoped field refers to columns that exist, no relation shadows a column, and no two
resources have mounts that differ in trailing slashes only.

* `ModelConfig.check`: the first inconsistency of a model, in the order of the file.
-/

namespace Depot

namespace ModelConfig

/-- The entity of a name. -/
def entity? (m : ModelConfig) (name : String) : Option EntityConfig :=
  m.entities.find? (·.name == name)

/-- Entity names are used once. -/
def checkNames (seen : List String) : List EntityConfig → Except ConfigError Unit
  | [] => .ok ()
  | e :: rest =>
    if seen.contains e.name then .error (.validation ("duplicate entity name: " ++ e.name))
    else checkNames (e.name :: seen) rest

/-- The columns of a primary key exist. -/
def checkKey (e : EntityConfig) : List String → Except ConfigError Unit
  | [] => .ok ()
  | c :: rest =>
    if e.columnNames.contains c then checkKey e rest
    else .error (.invalidPrimaryKey e.name c)

/-- A column as it is named in a failure. -/
def columnId (entity column : String) : String := entity ++ "." ++ column

/-- A relation has a target, its two columns exist, and its name is not that of a column. -/
def checkRelation (m : ModelConfig) (e : EntityConfig) (r : Relation) :
    Except ConfigError Unit :=
  match m.entity? r.target with
  | none => .error (.missingReference "entity" r.target)
  | some target =>
    if !e.columnNames.contains r.localColumn then
      .error (.missingReference "column" (columnId e.name r.localColumn))
    else if !target.columnNames.contains r.remoteColumn then
      .error (.missingReference "column" (columnId r.target r.remoteColumn))
    else if e.columnNames.contains r.name then
      .error (.validation ("relation " ++ columnId e.name r.name ++ " shadows a column"))
    else .ok ()

/-- All relations of an entity are sound. -/
def checkRelations (m : ModelConfig) (e : EntityConfig) : List Relation → Except ConfigError Unit
  | [] => .ok ()
  | r :: rest => do
    checkRelation m e r
    checkRelations m e rest

/-- The keys and relations of entities are sound. -/
def checkEntities (m : ModelConfig) : List EntityConfig → Except ConfigError Unit
  | [] => .ok ()
  | e :: rest => do
    checkKey e e.primaryKey.columns
    checkRelations m e e.relations
    checkEntities m rest

/-- A mount without slashes at its end, under which it is compared with others. -/
def mountKey (mount : String) : List Char := (mount.toList.reverse.dropWhile (· == '/')).reverse

/-- Fields that a resource refers to are columns of its entity. -/
def checkFields (e : EntityConfig) : List String → Except ConfigError Unit
  | [] => .ok ()
  | f :: rest =>
    if e.columnNames.contains f then checkFields e rest
    else .error (.missingReference "column" (columnId e.name f))

/-- Resources have an entity, a mount of their own, and fields that exist. -/
def checkResources (m : ModelConfig) (mounts : List (List Char)) :
    List ResourceConfig → Except ConfigError Unit
  | [] => .ok ()
  | r :: rest =>
    match m.entity? r.entity with
    | none => .error (.missingReference "entity" r.entity)
    | some e =>
      if mounts.contains (mountKey r.mount) then .error (.duplicateMount r.mount)
      else do
        checkFields e (r.searchable ++ r.scopeHeaders.keys)
        checkResources m (mountKey r.mount :: mounts) rest

/-- The first inconsistency of a model. -/
def check (m : ModelConfig) : Except ConfigError Unit := do
  checkNames [] m.entities
  checkEntities m m.entities
  checkResources m [] m.resources

end ModelConfig

end Depot
