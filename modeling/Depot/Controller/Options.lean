import Depot.KeyPath
import Depot.Request
import Depot.Store.Call

/-!
# Options of a resource

How a resource differs from another one of the same entity: the field values that every request is
confined to, the fields that can be searched, defaults, and hooks that take part in its
operations. Hooks run in their order, each on what the one before returned.

* `Options.default`: the options of a resource that declares nothing.
* `Options.ofConfig`: the options that a model file declares.
* `chain`: hooks one after the other.
-/

namespace Depot

/-- What takes part in the operations of a resource. All but the hooks after loading are handed
    the transaction; the flag says whether the operation creates. -/
structure Hooks where
  /-- Replaces the body before it is merged. -/
  sanitize : Option (Request → Record → Bool → Program .transaction Record)
  /-- Finds an instance to create onto. -/
  createLoader : Option (Request → Program .transaction (Option Record))
  /-- Replaces what was loaded. -/
  afterLoad : List (Request → List Record → Program .none (List Record))
  /-- Replaces the instance before it is written. -/
  preSave : List (Request → Record → Bool → Program .transaction Record)
  /-- Replaces the instance after it was written. -/
  postSave : List (Request → Record → Bool → Program .transaction Record)
  /-- Replaces the instances that are to be removed. -/
  preDelete : List (Request → List Record → Program .transaction (List Record))
  /-- Sees the instances that were removed. -/
  postDelete : List (Request → List Record → Program .transaction Unit)

/-- No hooks. -/
def Hooks.none : Hooks := ⟨.none, .none, [], [], [], [], []⟩

/-- Passes a value through functions, one after the other. -/
def chain {I : Interface} {α : Type} (a : α) : List (α → Program I α) → Program I α
  | [] => pure a
  | f :: fs => do
    let a ← f a
    chain a fs

/-- The options of a resource. -/
structure Options where
  /-- The field values that a request is confined to. -/
  scope : Request → Record
  searchable : List String
  /-- Changes the text of a searchable field before it is read as a filter. -/
  converters : Fields (String → String)
  orderBy : Option String
  keyPath : String
  /-- The relations that are populated when a request names none: with one row, and with many. -/
  populate : PopulateConfig
  distinct : Bool
  underscoreAsEmpty : Bool
  hooks : Hooks

namespace Options

/-- The options of a resource that declares nothing. -/
def default : Options :=
  { scope := fun _ => [], searchable := [], converters := [], orderBy := none,
    keyPath := defaultKeyPath, populate := ⟨[], []⟩, distinct := false,
    underscoreAsEmpty := false, hooks := .none }

/-- The values of headers by field; a header that is not there gives null. -/
def headerScope (headers : Fields String) (r : Request) : Record :=
  headers.map fun (field, header) =>
    (field, match r.header? header with
      | some v => Json.str v
      | none => .null)

/-- The options that a model file declares. -/
def ofConfig (c : ResourceConfig) : Options :=
  { default with
    scope := headerScope c.scopeHeaders
    searchable := c.searchable
    orderBy := c.orderBy
    keyPath := c.keyPath.getD defaultKeyPath
    populate := c.populate
    distinct := c.distinct
    underscoreAsEmpty := c.underscoreAsEmpty }

end Options

end Depot
