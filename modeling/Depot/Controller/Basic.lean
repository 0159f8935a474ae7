import Depot.Controller.Options
import Depot.Query.Sort

/-!
# Controllers

A controller serves the instances of one entity as a resource. Its options are checked against
the entity once, so that a request cannot meet a field that is not there.

* `Controller.build`: the controller of a resource, or what is wrong with its options.
-/

namespace Depot

/-- A resource, its entity in a model, and its checked options. -/
structure Controller where
  model : Model
  entity : Entity
  resource : String
  keyPath : KeyPath
  defaultSort : List SortKey
  options : Options

namespace Controller

/-- Fails with a fault of the configuration unless `bad` is none. -/
def refuse (resource : String) (bad : Option String) (say : String → String) :
    Except RequestError Unit :=
  match bad with
  | none => .ok ()
  | some name => .error (.badConfiguration resource (say name))

/-- The key path of a resource: it names a parameter, and all its columns are there. -/
def checkedKeyPath (resource : String) (e : Entity) (path : String) :
    Except RequestError KeyPath :=
  match KeyPath.parse path with
  | .error (raw, fault) => .error (.badConfiguration resource (fault.message raw))
  | .ok k => do
    refuse resource (if k.entries.isEmpty then some path else none)
      fun path => "key path '" ++ path ++ "' names no parameter"
    refuse resource ((k.entries.map (·.column)).find? (!e.hasColumn ·))
      fun c => "key path binds unknown field '" ++ c ++ "'"
    .ok k

/-- The order of a resource that declares none: by the last change, or by the key. -/
def usualSort (e : Entity) : List SortKey :=
  if e.hasColumn updatedAt then [⟨updatedAt, .desc⟩] else e.primaryKey.map fun c => ⟨c, .desc⟩

/-- The order that a resource declares, or the usual one. -/
def declaredSort (resource : String) (e : Entity) : Option String →
    Except RequestError (List SortKey)
  | none => .ok (usualSort e)
  | some raw =>
    match SortKey.parseList raw with
    | .ok keys => .ok keys
    | .error token =>
      .error (.badConfiguration resource ("bad default order token '" ++ token ++ "'"))

/-- The controller of a resource. -/
def build (m : Model) (resource entity : String) (o : Options) :
    Except RequestError Controller := do
  match m.entity? entity with
  | none => .error (.badConfiguration resource ("unknown entity '" ++ entity ++ "'"))
  | some e =>
    let keyPath ← checkedKeyPath resource e o.keyPath
    refuse resource (o.searchable.find? (!e.hasColumn ·))
      fun f => "searchable field '" ++ f ++ "' is not a column"
    refuse resource ((o.populate.one ++ o.populate.many).find? (e.relation? · |>.isNone))
      fun r => "cannot populate unknown relation '" ++ r ++ "'"
    let defaultSort ← declaredSort resource e o.orderBy
    refuse resource ((defaultSort.map (·.field)).find? (!e.hasColumn ·))
      fun f => "cannot sort by unknown field '" ++ f ++ "'"
    .ok ⟨m, e, resource, keyPath, defaultSort, o⟩

/-- A call within a transaction, on behalf of the resource. -/
def perform (c : Controller) (call : TransactionCall) : Program .transaction call.Reply :=
  Program.ask .transaction c.resource call

end Controller

end Depot
