import Depot.Query.Compare
import Depot.Store.Tables

/-!
# Transactions

A transaction works on tables of its own, which start as those of the store. Rows that are
persisted or removed are staged; a flush applies what is staged to the transaction's tables and
adds it to the log that a commit applies to the store's. Searches see the transaction's tables,
so what is staged but not flushed is not found.

* `Transaction.findOne`, `Transaction.findPage`: searches, with populated relations.
* `Transaction.persist`, `Transaction.remove`: stage writes.
* `Transaction.flush`: applies what is staged.

Results:
* `matching_of_isSound`: a sound selection finds the rows that it selects.
* `matching_of_refuses`: a row that a selection refuses fails the search.
-/

namespace Depot

/-- What the world supplies to a write: the time, and a fresh identifier. -/
structure Stamp where
  now : String
  uuid : String
  deriving DecidableEq, Repr

/-- How an instance is persisted: as a new row, or over the row of its key. -/
inductive WriteMode
  | insert
  | update
  deriving DecidableEq, Repr

/-- The number of rows of a page if nothing else is said. -/
def defaultPageSize : Nat := 20

/-- What a search for many rows asks for. -/
structure FindOptions where
  limit : Nat
  offset : Nat
  sort : List SortKey
  populate : List String
  distinct : Bool
  deriving DecidableEq, Repr

/-- The first page of all rows in their order. -/
def FindOptions.default : FindOptions := ⟨defaultPageSize, 0, [], [], false⟩

/-- Rows of one page, and the number of rows on all pages. -/
structure Page where
  count : Nat
  items : List Record
  deriving DecidableEq

/-- A new instance with the given fields: columns that may be null and have no default start as
    null. -/
def Entity.blank (e : Entity) (fields : Record) : Record :=
  let nullable := e.columns.filter fun c => c.nullable && !c.hasDefault
  (Fields.ofList (nullable.map fun c => (c.name, Json.null))).overlay fields

/-- The column in which the time of a row's last change is kept, by entities that have it. -/
def updatedAt : String := "updated_at"

/-- A transaction: its tables, the writes that wait for a flush, and those that were flushed. -/
structure Transaction where
  working : Tables
  staged : List Write
  flushed : List Write

namespace Transaction

/-- A transaction that starts from the given tables. -/
def start (t : Tables) : Transaction := ⟨t, [], []⟩

/-! ## Searches -/

/-- The rows that a selection selects, unless it refuses one of the entity's rows. -/
def matching (tx : Transaction) (e : Entity) (s : Selection) : Except StoreError (List Record) :=
  let rows := tx.working.rows e.name
  if !s.isSound && rows.any s.refuses then .error (.backend "like pattern")
  else .ok (rows.filter s.selects)

/-- The rows that a relation leads to from a row. -/
def related (tx : Transaction) (r : Relation) (row : Record) : List Record :=
  let v := row.get r.localColumn
  (tx.working.rows r.target).filter fun t => !v.isNull && looseEq (t.get r.remoteColumn) v

/-- The value of a populated relation: the rows, or the first of them. -/
def relatedJson (tx : Transaction) (r : Relation) (row : Record) : Json :=
  match r.kind, tx.related r row with
  | .toMany, rows => .arr (rows.map .obj)
  | .toOne, row :: _ => .obj row
  | .toOne, [] => .null

/-- Rows with relations under their names. -/
def populate (tx : Transaction) (e : Entity) (rows : List Record) :
    List String → Except StoreError (List Record)
  | [] => .ok rows
  | name :: names =>
    match e.relation? name with
    | none => .error (.backend (e.name ++ " has no relation " ++ name))
    | some r => populate tx e (rows.map fun row => row.put r.name (tx.relatedJson r row)) names

/-- The first row that a selection selects. -/
def findOne (tx : Transaction) (e : Entity) (s : Selection) (names : List String) :
    Except StoreError (Option Record) := do
  let rows ← tx.populate e ((← tx.matching e s).take 1) names
  .ok rows.head?

/-- Rows without those that are the same as an earlier one; `seen` are the earlier ones. -/
def distinctRows (seen : List Record) : List Record → List Record
  | [] => []
  | r :: rs =>
    if seen.any (Json.sameFields r) then distinctRows seen rs
    else r :: distinctRows (seen ++ [r]) rs

/-- The rows that a search finds, before they are sorted. -/
def found (tx : Transaction) (e : Entity) (s : Selection) (distinct : Bool) :
    Except StoreError (List Record) :=
  (tx.matching e s).map fun rows => if distinct then distinctRows [] rows else rows

/-- One page of the rows that a selection selects, and their number. -/
def findPage (tx : Transaction) (e : Entity) (s : Selection) (o : FindOptions) :
    Except StoreError Page := do
  let rows ← tx.found e s o.distinct
  let items ← tx.populate e (((sortRows o.sort rows).drop o.offset).take o.limit) o.populate
  .ok ⟨rows.length, items⟩

/-- The row that a key has once what is staged is flushed. -/
def current? (tx : Transaction) (e : Entity) (key : RowKey) : Option Record :=
  match tx.staged.reverse.find? (·.targets e.name key) with
  | some w => w.row?
  | none => findRow? e key (tx.working.rows e.name)

theorem matching_of_isSound (tx : Transaction) (e : Entity) {s : Selection}
    (h : s.isSound = true) : tx.matching e s = .ok ((tx.working.rows e.name).filter s.selects) := by
  simp [matching, h]

theorem matching_of_refuses (tx : Transaction) (e : Entity) {s : Selection} {row : Record}
    (hm : row ∈ tx.working.rows e.name) (hr : s.refuses row = true) :
    tx.matching e s = .error (.backend "like pattern") := by
  have hs : s.isSound = false := by
    cases h : s.isSound with
    | false => rfl
    | true => exact absurd hr (by simp [Selection.refuses_of_isSound h])
  have ha : (tx.working.rows e.name).any s.refuses = true := List.any_eq_true.2 ⟨row, hm, hr⟩
  simp [matching, hs, ha]

/-! ## Defaults -/

/-- The values of a column in the rows of an entity and in those that wait to be inserted. -/
def columnValues (tx : Transaction) (e : Entity) (column : String) : List Json :=
  let staged := tx.staged.filterMap fun
    | .insert entity _ row => if entity = e.name then some row else none
    | _ => none
  (tx.working.rows e.name ++ staged).filterMap (·.field? column)

/-- The number after the greatest that a column holds, counted from zero. -/
def nextSerial (tx : Transaction) (e : Entity) (column : String) : Int :=
  ((tx.columnValues e column).filterMap asNumber?).foldl (fun n d => max n d.truncate) 0 + 1

/-- A value for a key column that the store makes up: a fresh identifier, or a serial of 64 bits,
    which starts again from the least number after the greatest. -/
def generate (tx : Transaction) (e : Entity) (c : Column) (stamp : Stamp) :
    Except StoreError Json :=
  match c.keyType with
  | some .uuid => .ok (.str stamp.uuid)
  | some .int | some .bigInt => .ok (.num (.wrap (tx.nextSerial e c.name)))
  | _ => .error (.backend (e.name ++ ": cannot generate key for column " ++ c.name))

/-- A row with a key, if its entity's key is made up and the row has none. -/
def fillKey (tx : Transaction) (e : Entity) (stamp : Stamp) (row : Record) :
    Except StoreError Record :=
  match e.generatedKey? with
  | none => .ok row
  | some c =>
    if (row.get c.name).isNull then (tx.generate e c stamp).map (row.put c.name) else .ok row

/-- Whether a column that a row does not have is filled with the time. -/
def takesTime (c : Column) : Bool :=
  c.hasDefault && c.keyType.isNone && (Text.after? "timestamp".toList c.sqlType.toList).isSome

/-- A row with the time in the columns that take it. -/
def fillTimes (e : Entity) (stamp : Stamp) (row : Record) : Record :=
  (e.columns.filter takesTime).foldl
    (fun row c => if row.has c.name then row else row.put c.name (.str stamp.now)) row

/-- The first column that may not be null and is null in a row. -/
def nullColumn? (e : Entity) (row : Record) : Option Column :=
  e.columns.find? fun c => !c.nullable && !c.hasDefault && (row.get c.name).isNull

/-- A new row with its defaults. -/
def fillDefaults (tx : Transaction) (e : Entity) (stamp : Stamp) (row : Record) :
    Except StoreError Record := do
  let row ← tx.fillKey e stamp row
  let row := fillTimes e stamp row
  match nullColumn? e row with
  | none => .ok row
  | some c => .error (.backend
      ("null value in column " ++ c.name ++ " of " ++ e.name ++ " violates not-null constraint"))

/-! ## Writes -/

/-- Stages a write. -/
def stage (tx : Transaction) (w : Write) : Transaction := { tx with staged := tx.staged ++ [w] }

/-- What messages say of a row without a complete key. -/
def noKey (e : Entity) : String := e.name ++ ": primary key is incomplete"

/-- Stages a new row with the columns of a record; the row as it will be stored is returned. -/
def insert (tx : Transaction) (e : Entity) (r : Record) (stamp : Stamp) :
    Except StoreError (Record × Transaction) := do
  let row ← tx.fillDefaults e stamp (e.columnFields r)
  match e.key? row with
  | none => .error (.backend (noKey e))
  | some key => .ok (row, tx.stage (.insert e.name key row))

/-- A row with the fields of another laid over, and the time of the change. -/
def touch (e : Entity) (stamp : Stamp) (current row : Record) : Record :=
  let merged := current.overlay row
  if e.hasColumn updatedAt then merged.put updatedAt (.str stamp.now) else merged

/-- Stages the columns of a record over the row of its key; the row as it will be stored is
    returned. -/
def update (tx : Transaction) (e : Entity) (r : Record) (stamp : Stamp) :
    Except StoreError (Record × Transaction) :=
  let row := e.columnFields r
  match e.key? row with
  | none => .error (.missing (noKey e))
  | some key =>
    match tx.current? e key with
    | none => .error (.missing (e.name ++ " " ++ key.text))
    | some current =>
      let merged := touch e stamp current row
      .ok (merged, tx.stage (.update e.name key merged))

/-- Stages the columns of a record. -/
def persist (tx : Transaction) (e : Entity) (r : Record) (mode : WriteMode) (stamp : Stamp) :
    Except StoreError (Record × Transaction) :=
  match mode with
  | .insert => tx.insert e r stamp
  | .update => tx.update e r stamp

/-- Stages the removal of the row that has the key of a record. -/
def remove (tx : Transaction) (e : Entity) (r : Record) : Except StoreError Transaction :=
  match e.key? r with
  | none => .error (.missing (noKey e))
  | some key => .ok (tx.stage (.remove e.name key))

/-- Applies what is staged. After a failure nothing is staged, and what was applied stays. -/
def flush (m : Model) (tx : Transaction) : Transaction × Except StoreError Unit :=
  let applied := applyPrefix m tx.working tx.staged
  let tx := ⟨applied.tables, [], tx.flushed ++ applied.writes⟩
  match applied.failure with
  | none => (tx, .ok ())
  | some e => (tx, .error e)

end Transaction

end Depot
