import Depot.Controller.Basic
import Depot.Reconcile

/-!
# Nested collections

The body of a request may give a to-many relation an array. The rows that the relation leads to
are then replaced by its elements: what is to be done is planned before anything is written, and
the instance is written before its children, whose foreign keys take the stored value.

* `Controller.planChildren`: the changes that an array asks for.
* `Controller.assignFields`: merges a body into an instance, with the plans of its arrays.
* `Controller.write`: writes an instance and its children.
-/

namespace Depot

/-- The changes of a to-many collection. -/
structure ChildPlan where
  relation : Relation
  target : Entity
  changes : Reconciliation Record Record

/-- The collection as it will read after the changes. -/
def ChildPlan.resulting (p : ChildPlan) : Json :=
  .arr ((p.changes.toUpdate.map fun (existing, patch) => .obj (existing.overlay patch)) ++
    p.changes.toCreate.map .obj)

namespace Controller

/-! ## Plans -/

/-- The to-many relation of a name. -/
def toMany? (c : Controller) (name : String) : Option Relation :=
  (c.entity.relation? name).filter fun r => r.kind == .toMany

/-- The objects among values. -/
def objects (vs : List Json) : List Record :=
  vs.filterMap fun
    | .obj r => some r
    | _ => none

/-- The stored rows of a collection, if they are known: an instance that is not there yet has
    none. -/
def storedChildren? (current : Record) (field : String) : Option (List Record) :=
  match current.field? field with
  | some (.arr items) => some (objects items)
  | some _ => none
  | none => if current.isEmpty then some [] else none

/-- A row with a foreign key, unless it has one. -/
def withForeignKey (column : String) (key : Option Json) (row : Record) : Record :=
  match key with
  | some k => if row.has column then row else row.put column k
  | none => row

/-- The rows of an array, which must be objects. -/
def childRows (c : Controller) (field : String) : List Json → Except RequestError (List Record)
  | [] => .ok []
  | .obj row :: rest => do
    let rows ← childRows c field rest
    .ok (row :: rows)
  | _ :: _ => .error (.updateMalformed c.resource ("elements of '" ++ field ++ "' must be objects"))

/-- The changes that a value of a field asks for; there are none to plan if the value is assigned
    as a whole. -/
def planChildren (c : Controller) (current : Record) (field : String) (payload : Json) :
    Except RequestError (Option ChildPlan) :=
  match c.toMany? field, payload with
  | some relation, .arr elements =>
    match storedChildren? current field, c.model.entity? relation.target with
    | some existing, some target =>
      if target.primaryKey.isEmpty then .ok none
      else do
        let parentKey := (current.field? relation.localColumn).filter (!·.isNull)
        let rows ← c.childRows field elements
        let incoming := rows.map (withForeignKey relation.remoteColumn parentKey)
        match reconcile existing incoming target.key? target.key? with
        | .ok changes => .ok (some ⟨relation, target, changes⟩)
        | .error key => .error (.updateMalformed c.resource
            ("'" ++ field ++ "' names " ++ key.text ++ " more than once"))
    | _, _ => .ok none
  | _, _ => .ok none

/-- Sets the fields of a body one after the other, and plans the changes of its arrays. The stored
    collections are those of `stored`, or of the instance as it is by then. -/
def assignFields (c : Controller) (stored : Option Record) (r : Record) :
    Record → Except RequestError (Record × List ChildPlan)
  | [] => .ok (r, [])
  | (field, v) :: rest => do
    let plan ← c.planChildren (stored.getD r) field v
    let (r, plans) ← assignFields c stored (r.put field ((plan.map (·.resulting)).getD v)) rest
    .ok (r, plan.toList ++ plans)

/-! ## Writing -/

/-- Persists rows one after the other; they are returned as they are stored. -/
def persistAll (c : Controller) (e : Entity) (mode : WriteMode) :
    List Record → Program .transaction (List Record)
  | [] => pure []
  | row :: rest => do
    let saved ← c.perform (.persist e row mode)
    let others ← persistAll c e mode rest
    pure (saved :: others)

/-- Removes rows one after the other. -/
def removeAll (c : Controller) (e : Entity) : List Record → Program .transaction Unit
  | [] => pure ()
  | row :: rest => do
    c.perform (.remove e row)
    removeAll c e rest

/-- The rows that a plan updates and creates under a parent's key. -/
def ChildPlan.rows (p : ChildPlan) (parentKey : Json) : List Record × List Record :=
  let fk := p.relation.remoteColumn
  (p.changes.toUpdate.map fun (existing, patch) => (existing.overlay patch).put fk parentKey,
    p.changes.toCreate.map fun fields => (p.target.blank fields).put fk parentKey)

/-- Makes the changes of a plan; the collection is returned as it is stored. -/
def writePlan (c : Controller) (p : ChildPlan) (parentKey : Json) :
    Program .transaction (List Record) := do
  let (updates, creations) := ChildPlan.rows p parentKey
  let updated ← c.persistAll p.target .update updates
  let created ← c.persistAll p.target .insert creations
  c.removeAll p.target p.changes.toRemove
  pure (updated ++ created)

/-- Makes the changes of plans for an instance that is written. -/
def writePlans (c : Controller) (out : Record) : List ChildPlan → Program .transaction Record
  | [] => pure out
  | p :: plans => do
    let children ← c.writePlan p (out.get p.relation.localColumn)
    writePlans c (out.put p.relation.name (.arr (children.map .obj))) plans

/-- Writes an instance and its children; the instance is returned as it is stored. -/
def write (c : Controller) (r : Record) (mode : WriteMode) (plans : List ChildPlan) :
    Program .transaction Record := do
  let stored ← c.perform (.persist c.entity r mode)
  c.writePlans (r.overlay stored) plans

end Controller

end Depot
