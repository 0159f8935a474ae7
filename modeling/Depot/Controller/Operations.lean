import Depot.Controller.Children
import Depot.Query.Filter
import Depot.Validation

/-!
# Operations

The five operations on a resource. Each checks what it can before it begins a transaction; inside
the transaction it loads, lets the hooks take part, and writes; a request that fails never
commits.

* `Controller.getOne`, `Controller.index`: read.
* `Controller.createOne`, `Controller.updateOne`, `Controller.deleteOne`: write.
-/

namespace Depot.Controller

/-! ## What a request asks for -/

/-- The body of a request that must have an object. -/
def bodyObject (c : Controller) (r : Request) : Except RequestError Record :=
  match r.body with
  | none | some .null =>
    .error (.updateMalformed c.resource "Empty update body, nothing to update!")
  | some (.obj fields) => .ok fields
  | some _ => .error (.updateMalformed c.resource "expected JSON object body.")

/-- The relations that a request asks for, or `usual` if it names none. -/
def populateNames (c : Controller) (r : Request) (usual : List String) :
    Except RequestError (List String) :=
  match r.populate? with
  | none => .ok usual
  | some names =>
    match names.find? (c.entity.relation? · |>.isNone) with
    | none => .ok names
    | some bad => .error (.queryMalformed c.resource ("cannot populate '" ++ bad ++ "'"))

/-- The rows that the path of a request names, within its scope. -/
def keySelection (c : Controller) (r : Request) : Except RequestError Selection := do
  let fields ← c.keyPath.fields c.resource r.params c.options.underscoreAsEmpty
  .ok ((Selection.ofFields fields).mergeFields (c.options.scope r))

/-- The condition that a request sets on a searchable field, if any. -/
def searchCondition (c : Controller) (r : Request) (field : String) :
    Except RequestError (Option Condition) := do
  match ← r.single c.resource field with
  | none => .ok none
  | some raw =>
    let raw := match c.options.converters.field? field with
      | some convert => convert raw
      | none => raw
    match interpret raw with
    | .ok condition => .ok condition
    | .error e => .error (.queryMalformed c.resource e.message)

/-- A selection with the conditions that a request sets on fields. -/
def withSearch (c : Controller) (r : Request) (s : Selection) :
    List String → Except RequestError Selection
  | [] => .ok s
  | field :: fields => do
    let s := match ← c.searchCondition r field with
      | some condition => s.push field condition
      | none => s
    withSearch c r s fields

/-- What is said of an order that cannot be read. -/
def badOrder (token : String) : String :=
  "order MUST has following format \x60db_field_name_1 asc,db_field_name2,db_field_name_3 desc\x60, got '"
    ++ token ++ "'"

/-- The order that a request asks for, or that of the resource. -/
def requestedSort (c : Controller) (r : Request) : Except RequestError (List SortKey) := do
  match ← r.single c.resource "order" with
  | none => .ok c.defaultSort
  | some raw =>
    match SortKey.parseList raw with
    | .error token => .error (.queryMalformed c.resource (badOrder token))
    | .ok keys =>
      match (keys.map (·.field)).find? (!c.entity.hasColumn ·) with
      | none => .ok keys
      | some field => .error (.queryMalformed c.resource ("cannot sort by '" ++ field ++ "'"))

/-! ## Loading -/

/-- Passes records through the hooks after loading. -/
def afterLoad (c : Controller) (r : Request) (records : List Record) :
    Program .none (List Record) :=
  chain records (c.options.hooks.afterLoad.map (· r))

/-- How a failure to look up an instance appears: a value that the key cannot hold names none. -/
def lookupFailure (c : Controller) (s : Selection) : StoreError → RequestError
  | .invalidValue detail => .notFound c.resource ("query=" ++ s.text ++ ": " ++ detail)
  | e => .ofStore c.resource e

/-- What is said if the hooks after loading do not return one instance. -/
def badAfterLoad : String :=
  "Internal hooks might not returned promised objects. Please check afterLoad hooks."

/-- The instance that a request names, with populated relations. -/
def loadOne (c : Controller) (r : Request) (populate : List String) :
    Program .transaction Record := do
  let s ← .done (c.keySelection r)
  match ← Program.askWith .transaction (c.lookupFailure s) (.findOne c.entity s populate) with
  | none => Program.fail (.notFound c.resource ("query=" ++ s.text))
  | some record =>
    match ← (c.afterLoad r [record]).quiet with
    | [record] => pure record
    | _ => Program.fail (.badConfiguration c.resource badAfterLoad)

/-! ## Transactions -/

/-- A call on the store, on behalf of the resource. -/
def onStore (c : Controller) (call : StoreCall) : Program .store call.Reply :=
  Program.ask .store c.resource call

/-- Works in a new transaction. -/
def begin {α : Type} (c : Controller) (work : Program .transaction α) : Program .store α := do
  c.onStore .begin
  work.within

/-- Works in a new transaction and commits it. -/
def commit {α : Type} (c : Controller) (work : Program .transaction α) : Program .store α := do
  let a ← c.begin work
  c.onStore .commit
  pure a

/-- Flushes after some work. -/
def flushed {α : Type} (c : Controller) (work : Program .transaction α) :
    Program .transaction α := do
  let a ← work
  c.perform .flush
  pure a

/-! ## Reading -/

/-- The instance that a request names. -/
def getOne (c : Controller) (r : Request) : Program .store Record := do
  let names ← .done (c.populateNames r c.options.populate.one)
  c.begin (c.loadOne r names)

/-- How a failure to search appears: a value that a column cannot hold is the caller's mistake. -/
def searchFailure (c : Controller) : StoreError → RequestError
  | .invalidValue detail => .queryMalformed c.resource detail
  | e => .ofStore c.resource e

/-- What a request for many instances asks for. -/
structure Search where
  selection : Selection
  options : FindOptions

/-- What a request for many instances asks for. -/
def search (c : Controller) (r : Request) : Except RequestError Search := do
  let offset ← r.natural c.resource "offset"
  let limit ← r.natural c.resource "pagesize"
  let selection ← c.withSearch r (.ofFields (c.options.scope r)) c.options.searchable
  let sort ← c.requestedSort r
  let populate ← c.populateNames r c.options.populate.many
  .ok ⟨selection, limit.getD defaultPageSize, offset.getD 0, sort, populate, c.options.distinct⟩

/-- A page of the instances that a request selects. -/
def index (c : Controller) (r : Request) : Program .store Page := do
  let s ← .done (c.search r)
  let page ← c.begin
    (Program.askWith .transaction c.searchFailure (.findPage c.entity s.selection s.options))
  let items ← (c.afterLoad r page.items).quiet
  pure { page with items }

/-! ## Writing -/

/-- The body of a request as the sanitizer returns it. -/
def sanitized (c : Controller) (r : Request) (body : Record) (creating : Bool) :
    Program .transaction Record :=
  match c.options.hooks.sanitize with
  | none => pure body
  | some sanitize => sanitize r body creating

/-- Writes an instance between the hooks before and after saving. -/
def save (c : Controller) (r : Request) (record : Record) (mode : WriteMode)
    (plans : List ChildPlan) (creating : Bool) : Program .transaction Record := do
  let record ← chain record (c.options.hooks.preSave.map fun hook record => hook r record creating)
  let record ← c.write record mode plans
  chain record (c.options.hooks.postSave.map fun hook record => hook r record creating)

/-- Fails if a record breaks a rule. -/
def checked (c : Controller) (result : Except Violation Unit) : Except RequestError Unit :=
  match result with
  | .ok () => .ok ()
  | .error v => .error (.validation c.resource v.message)

/-- The to-many relations to which a body gives an array. -/
def replacedCollections (c : Controller) (body : Record) : List String :=
  (body.filter fun f => f.2.isArray && (c.toMany? f.1).isSome).map (·.1)

/-- A record with fields of another one. -/
def takeFields (r source : Record) (names : List String) : Record :=
  r.overlay (names.filterMap fun name => (source.field? name).map fun v => (name, v))

/-- An instance with the collections that a body replaces as they are stored, unless it has
    them. -/
def withCollections (c : Controller) (r body : Record) : Program .transaction Record := do
  let names := (c.replacedCollections body).filter fun name => !(r.get name).isArray
  if names.isEmpty then pure r
  else
    let stored ← c.perform (.findOne c.entity (.ofFields (c.entity.keyFields r)) names)
    pure (takeFields r (stored.getD []) names)

/-- The instance to create onto, if there is one. -/
def preloaded (c : Controller) (r : Request) : Program .transaction (Option Record) :=
  match c.options.hooks.createLoader with
  | none => pure none
  | some load => load r

/-- Creates an instance in a transaction, or writes onto the one that the loader finds. A new
    instance has no stored children. -/
def createWork (c : Controller) (r : Request) (body scope : Record) :
    Program .transaction Record := do
  let existing ← c.preloaded r
  let body ← c.sanitized r body true
  let (stored, blank, mode) ← match existing with
    | some existing => do
      let current ← c.withCollections existing body
      pure (current, current, WriteMode.update)
    | none => pure ([], c.entity.blank [], WriteMode.insert)
  let (record, plans) ← .done (c.assignFields (some stored) blank body)
  let record := record.overlay scope
  .done (c.checked (validate (c.entity.columnFields record) c.entity.rules))
  c.save r record mode plans true

/-- Creates an instance. -/
def createOne (c : Controller) (r : Request) : Program .store Record := do
  let body ← .done (c.bodyObject r)
  c.commit (c.flushed (c.createWork r body (c.options.scope r)))

/-- Names with those that are not among them yet. -/
def addNames (names : List String) : List String → List String
  | [] => names
  | name :: rest => addNames (if names.contains name then names else names ++ [name]) rest

/-- Updates the instance that a request names. -/
def updateWork (c : Controller) (r : Request) (body : Record) (populate : List String) :
    Program .transaction Record := do
  let record ← c.loadOne r populate
  let body ← c.sanitized r body false
  .done (c.checked (validatePartial c.entity.rules (c.entity.columnFields body)))
  let (record, plans) ← .done (c.assignFields none record body)
  c.save r record .update plans false

/-- Updates an instance. -/
def updateOne (c : Controller) (r : Request) : Program .store Record := do
  let body ← .done (c.bodyObject r)
  let names ← .done (c.populateNames r c.options.populate.one)
  c.commit (c.flushed (c.updateWork r body (addNames names (c.replacedCollections body))))

/-- Removes instances one after the other, each with a flush. -/
def removeFlushed (c : Controller) : List Record → Program .transaction Unit
  | [] => pure ()
  | record :: rest => do
    c.perform (.remove c.entity record)
    c.perform .flush
    removeFlushed c rest

/-- Shows removed instances to hooks, one after the other. -/
def afterDelete (r : Request) (removed : List Record) :
    List (Request → List Record → Program .transaction Unit) → Program .transaction Unit
  | [] => pure ()
  | hook :: hooks => do
    hook r removed
    afterDelete r removed hooks

/-- Removes the instance that a request names, or those that the hooks put in its place. -/
def deleteWork (c : Controller) (r : Request) (populate : List String) :
    Program .transaction Unit := do
  let target ← c.loadOne r populate
  let doomed ← chain [target] (c.options.hooks.preDelete.map (· r))
  c.removeFlushed doomed
  afterDelete r doomed c.options.hooks.postDelete

/-- Deletes an instance. -/
def deleteOne (c : Controller) (r : Request) : Program .store Unit := do
  let names ← .done (c.populateNames r c.options.populate.one)
  c.commit (c.deleteWork r names)

end Depot.Controller
