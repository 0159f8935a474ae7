import Depot.Controller.Options

/-!
# Scripted hooks

Hooks written as data: each is an action of a small vocabulary. A hook notes its name in the trail
of the request, so that a run shows which hooks took part and in which order.

* `Edit`, `Task`: what actions do to a record, and in the transaction.
* `SaveAction`, `ListAction`, `DeleteAction`, `AuditAction`: the actions of the kinds of hooks.
* `Script.hooks`: the hooks of a script.
-/

namespace Depot

/-- A change of one record, or a failure. -/
inductive Edit
  | set (field : String) (value : Json)
  | remove (field : String)
  | copy (source field : String)
  | creating (field : String)
  | header (field name : String)
  | replace (value : Record)
  | fail (failure : RequestError)
  | failIf (field : String) (value : Json) (failure : RequestError)
  | keep

/-- Something to do in the transaction. Entities are given by name. -/
inductive Task
  | persist (entity : String) (value : Record) (mode : WriteMode)
  | flush
  | count (entity : String) (fields : Record)

/-- What a hook on saving does; a count is put into a field. -/
inductive SaveAction
  | edit (e : Edit)
  | task (t : Task) (field : String)

/-- What a hook on a list of records does. -/
inductive ListAction
  | clear
  | dup
  | reverse
  | take (n : Nat)
  | append (value : Record)
  | fail (failure : RequestError)
  | each (e : Edit)

/-- What a hook before removal does. -/
inductive DeleteAction
  | list (a : ListAction)
  | task (t : Task)
  | find (entity : String) (fields : Record)

/-- What a hook after removal does. -/
inductive AuditAction
  | nothing
  | fail (failure : RequestError)
  | task (t : Task)

/-- A search for an instance to create onto: the fields take their values from the body. -/
structure LoaderScript where
  entity : String
  fields : List String
  populate : List String

/-- The scripts of the hooks of a resource. -/
structure Script where
  sanitize : Option SaveAction
  createLoader : Option LoaderScript
  afterLoad : List ListAction
  preSave : List SaveAction
  postSave : List SaveAction
  preDelete : List DeleteAction
  postDelete : List AuditAction

namespace Script

/-- The resource that failures of hooks name. -/
def hookResource : String := "hook"

/-! ## Actions -/

/-- A record after a change. -/
def edit (r : Request) (creating : Bool) (row : Record) : Edit → Except RequestError Record
  | .set field v => .ok (row.put field v)
  | .remove field => .ok (row.without field)
  | .copy source field => .ok (row.put field (row.get source))
  | .creating field => .ok (row.put field (.bool creating))
  | .header field name =>
    .ok (row.put field (match r.header? name with
      | some v => .str v
      | none => .null))
  | .replace value => .ok value
  | .fail failure => .error failure
  | .failIf field v failure =>
    if ((row.field? field).map v.same).getD false then .error failure else .ok row
  | .keep => .ok row

/-- Records after a change of each. -/
def editAll (r : Request) (e : Edit) : List Record → Except RequestError (List Record)
  | [] => .ok []
  | row :: rest => do
    let row ← edit r false row e
    let rows ← editAll r e rest
    .ok (row :: rows)

/-- A list of records after an action. -/
def onList (r : Request) (rows : List Record) : ListAction → Except RequestError (List Record)
  | .clear => .ok []
  | .dup => .ok (rows ++ rows.take 1)
  | .reverse => .ok rows.reverse
  | .take n => .ok (rows.take n)
  | .append value => .ok (rows ++ [value])
  | .fail failure => .error failure
  | .each e => editAll r e rows

/-- The entity of a name. -/
def entity (m : Model) (name : String) : Except RequestError Entity :=
  match m.entity? name with
  | some e => .ok e
  | none => .error (.ofStore hookResource (.unknownEntity name))

/-- A call within the transaction of a hook. -/
def perform (call : TransactionCall) : Program .transaction call.Reply :=
  Program.ask .transaction hookResource call

/-- Does a task; a count is returned. -/
def run (m : Model) : Task → Program .transaction (Option Nat)
  | .persist name value mode => do
    let e ← .done (entity m name)
    let _ ← perform (.persist e value mode)
    pure none
  | .flush => do
    perform .flush
    pure none
  | .count name fields => do
    let e ← .done (entity m name)
    let page ← perform (.findPage e (.ofFields fields) .default)
    pure (some page.count)

/-! ## Hooks -/

/-- Notes a hook by its list, its place in the list, and what else is to be said. -/
def announce {I : Interface} (list : String) (place : Nat) (more : String) : Program I Unit :=
  Program.leave (list ++ Nat.repr place ++ more)

/-- What is noted of an operation that saves. -/
def savingNote (creating : Bool) : String := if creating then ":create" else ":update"

/-- A hook on saving. -/
def saveHook (m : Model) (list : String) (place : Nat) (a : SaveAction) (r : Request)
    (row : Record) (creating : Bool) : Program .transaction Record := do
  announce list place (savingNote creating)
  match a with
  | .edit e => .done (edit r creating row e)
  | .task t field =>
    match ← run m t with
    | some n => pure (row.put field (.nat n))
    | none => pure row

/-- A hook after loading. -/
def loadHook (list : String) (place : Nat) (a : ListAction) (r : Request) (rows : List Record) :
    Program .none (List Record) := do
  announce list place (":" ++ Nat.repr rows.length)
  .done (onList r rows a)

/-- A hook before removal. -/
def deleteHook (m : Model) (list : String) (place : Nat) (a : DeleteAction) (r : Request)
    (rows : List Record) : Program .transaction (List Record) := do
  announce list place ""
  match a with
  | .list a => .done (onList r rows a)
  | .task t =>
    let _ ← run m t
    pure rows
  | .find name fields =>
    let e ← .done (entity m name)
    let page ← perform (.findPage e (.ofFields fields) .default)
    pure page.items

/-- A hook after removal; a task is noted when it is done. -/
def auditHook (m : Model) (list : String) (place : Nat) (a : AuditAction) (_ : Request)
    (rows : List Record) : Program .transaction Unit := do
  let removed := ":" ++ Nat.repr rows.length
  match a with
  | .nothing => announce list place removed
  | .fail failure => do
    announce list place removed
    .fail failure
  | .task t => do
    let counted ← run m t
    announce list place (removed ++ ":" ++ (counted.map Nat.repr).getD "-")

/-- The fields of an object; other values have none. -/
def fieldsOf : Option Json → Record
  | some (.obj fields) => fields
  | _ => []

/-- The search for an instance to create onto. -/
def loader (m : Model) (s : LoaderScript) (r : Request) :
    Program .transaction (Option Record) := do
  announce "create_loader" 0 ""
  let e ← .done (entity m s.entity)
  let body := fieldsOf r.body
  let fields := Fields.ofList (s.fields.map fun field => (field, Record.get body field))
  perform (.findOne e (.ofFields fields) s.populate)

/-- The hooks of a list, each with its place. -/
def placed {α β : Type} (f : Nat → α → β) (as : List α) : List β :=
  as.zipIdx.map fun (a, place) => f place a

/-- The hooks of a script. -/
def hooks (m : Model) (s : Script) : Hooks :=
  { sanitize := s.sanitize.map (saveHook m "sanitize" 0)
    createLoader := s.createLoader.map (loader m)
    afterLoad := placed (loadHook "after_load") s.afterLoad
    preSave := placed (saveHook m "pre_save") s.preSave
    postSave := placed (saveHook m "post_save") s.postSave
    preDelete := placed (deleteHook m "pre_delete") s.preDelete
    postDelete := placed (auditHook m "post_delete") s.postDelete }

end Script

end Depot
