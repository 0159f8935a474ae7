import Depot.Error
import Depot.Json.Document
import Depot.Model.Config

/-!
# Reading model files

A model file is a JSON text. A structure is written as an object, whose further entries are
ignored and whose own entries come once, or as an array of its first fields in order. Fields that
may be left out have a default; where a value may be absent, null counts as absent. What is
ignored is not looked at, so it may hold what no value can.

* `ModelConfig.ofText?`: the model of a text.
* `ResourceConfig.ofJson?`, `rulesOfJson?`: a resource and a set of rules given as values.
-/

namespace Depot

namespace Json

/-- A value as a document. -/
def toDocument : Json → Document
  | .null => .null
  | .bool b => .bool b
  | .num n => .num (some n)
  | .str s => .str (some s)
  | .arr items => .arr (itemDocuments items)
  | .obj fields => .obj (fieldDocuments fields)
where
  /-- Values as documents. -/
  itemDocuments : List Json → List Document
    | [] => []
    | v :: vs => toDocument v :: itemDocuments vs
  /-- Fields as entries. -/
  fieldDocuments : List (String × Json) → List (Option String × Document)
    | [] => []
    | (k, v) :: fs => (some k, toDocument v) :: fieldDocuments fs

end Json

namespace Decode

open Json (Document)

/-! ## Scalars -/

/-- A string. -/
def string? : Document → Option String
  | .str s => s
  | _ => none

/-- A truth value. -/
def bool? : Document → Option Bool
  | .bool b => some b
  | _ => none

/-- A natural number of 32 bits. -/
def nat32? : Document → Option Nat
  | .num (some (.int n)) => if 0 ≤ n.val ∧ n.val ≤ 0xFFFFFFFF then some n.val.toNat else none
  | _ => none

/-- A number as a double. -/
def double? : Document → Option Double
  | .num (some n) => some n.toDouble
  | _ => none

/-! ## Containers -/

/-- The items of an array, each read by `f`. -/
def list? {α : Type} (f : Document → Option α) : Document → Option (List α)
  | .arr items => items.mapM f
  | _ => none

/-- The entries of an object, each read by `f`; the last one of a key stays. -/
def fields? {α : Type} (f : Document → Option α) : Document → Option (Fields α)
  | .obj entries => (entries.mapM fun ((k, d) : Option String × Document) => do some (← k, ← f d)).map
      Fields.ofList
  | _ => none

/-- A value that may be null. -/
def nullable? {α : Type} (f : Document → Option α) : Document → Option (Option α)
  | .null => some none
  | d => (f d).map some

/-! ## Structures -/

/-- The parts of a structure, by the names of its fields. -/
abbrev Parts := List (String × Document)

/-- The parts of a structure with the given fields. -/
def parts? (names : List String) : Document → Option Parts
  | .obj entries => do
    let keyed ← entries.mapM fun ((k, d) : Option String × Document) => do some (← k, d)
    let own := keyed.filter fun (k, _) => names.contains k
    if (own.map (·.1)).Nodup then some own else none
  | .arr items => if items.length ≤ names.length then some (names.zip items) else none
  | _ => none

/-- A part that must be there. -/
def Parts.required? {α : Type} (ps : Parts) (name : String) (f : Document → Option α) :
    Option α :=
  (ps.lookup name).bind f

/-- A part that has a default. -/
def Parts.default? {α : Type} (ps : Parts) (name : String) (value : α)
    (f : Document → Option α) : Option α :=
  match ps.lookup name with
  | none => some value
  | some d => f d

/-- A part that may be absent or null. -/
def Parts.optional? {α : Type} (ps : Parts) (name : String) (f : Document → Option α) :
    Option (Option α) :=
  ps.default? name none (nullable? f)

/-! ## Models -/

/-- A primary key: a string, or an array of strings. -/
def primaryKey? (d : Document) : Option PrimaryKeyConfig :=
  match string? d with
  | some s => some (.single s)
  | none => (list? string? d).map .composite

/-- A kind of relation: its name, or an object with its name alone and null. -/
def relationKind? : Document → Option RelationKind
  | .str (some "to_one") => some .toOne
  | .str (some "to_many") => some .toMany
  | .obj [(some "to_one", .null)] => some .toOne
  | .obj [(some "to_many", .null)] => some .toMany
  | _ => none

/-- A column. -/
def column? (d : Document) : Option ColumnConfig := do
  let ps ← parts? ["name", "type", "nullable", "has_default"] d
  some {
    name := ← ps.required? "name" string?
    type := ← ps.required? "type" string?
    nullable := ← ps.default? "nullable" true bool?
    hasDefault := ← ps.default? "has_default" false bool? }

/-- A relation. -/
def relation? (d : Document) : Option Relation := do
  let ps ← parts? ["name", "kind", "target", "local_column", "remote_column"] d
  some {
    name := ← ps.required? "name" string?
    kind := ← ps.required? "kind" relationKind?
    target := ← ps.required? "target" string?
    localColumn := ← ps.required? "local_column" string?
    remoteColumn := ← ps.required? "remote_column" string? }

/-- A rule, whose allowed values may each nest `depth` arrays and objects. -/
def rule? (depth : Nat) (d : Document) : Option Rule := do
  let ps ← parts? ["required", "format", "max_length", "min_length", "pattern", "allowed",
    "minimum", "maximum"] d
  some {
    required := ← ps.optional? "required" bool?
    format := ← ps.optional? "format" string?
    maxLength := ← ps.optional? "max_length" nat32?
    minLength := ← ps.optional? "min_length" nat32?
    pattern := ← ps.optional? "pattern" string?
    allowed := ← ps.optional? "allowed" (list? (·.valueWithin? depth))
    minimum := ← ps.optional? "minimum" double?
    maximum := ← ps.optional? "maximum" double? }

/-- An entity; the values of its rules stand inside six arrays and objects of the file. -/
def entity? (d : Document) : Option EntityConfig := do
  let ps ← parts? ["name", "schema", "table", "primary_key", "columns", "relations",
    "validation"] d
  some {
    name := ← ps.required? "name" string?
    schema := ← ps.optional? "schema" string?
    table := ← ps.required? "table" string?
    primaryKey := ← ps.required? "primary_key" primaryKey?
    columns := ← ps.required? "columns" (list? column?)
    relations := ← ps.default? "relations" [] (list? relation?)
    validation := ← ps.default? "validation" [] (fields? (rule? (Document.maxDepth - 6))) }

/-- The relations that are loaded by default. -/
def populate? (d : Document) : Option PopulateConfig := do
  let ps ← parts? ["one", "many"] d
  some {
    one := ← ps.default? "one" [] (list? string?)
    many := ← ps.default? "many" [] (list? string?) }

/-- A resource. -/
def resource? (d : Document) : Option ResourceConfig := do
  let ps ← parts? ["name", "entity", "mount", "key_path", "searchable_fields", "order_by",
    "default_populate", "distinct", "replace_underscore_with_empty", "scope_headers"] d
  some {
    name := ← ps.required? "name" string?
    entity := ← ps.required? "entity" string?
    mount := ← ps.required? "mount" string?
    keyPath := ← ps.optional? "key_path" string?
    searchable := ← ps.default? "searchable_fields" [] (list? string?)
    orderBy := ← ps.optional? "order_by" string?
    populate := ← ps.default? "default_populate" ⟨[], []⟩ populate?
    distinct := ← ps.default? "distinct" false bool?
    underscoreAsEmpty := ← ps.default? "replace_underscore_with_empty" false bool?
    scopeHeaders := ← ps.default? "scope_headers" [] (fields? string?) }

/-- A model. -/
def model? (d : Document) : Option ModelConfig := do
  let ps ← parts? ["entities", "resources"] d
  some {
    entities := ← ps.default? "entities" [] (list? entity?)
    resources := ← ps.default? "resources" [] (list? resource?) }

end Decode

/-- The model of a text. -/
def ModelConfig.ofText? (s : String) : Except ConfigError ModelConfig :=
  match (Json.Document.parse? s.toList).bind Decode.model? with
  | some m => .ok m
  | none => .error .load

/-- A resource given as a value. -/
def ResourceConfig.ofJson? (v : Json) : Option ResourceConfig := Decode.resource? v.toDocument

/-- A set of rules given as a value. -/
def rulesOfJson? (v : Json) : Option (Fields Rule) :=
  Decode.fields? (Decode.rule? Json.Document.maxDepth) v.toDocument

end Depot
