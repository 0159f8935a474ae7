import Depot.Store.Transaction

/-!
# The database

The committed rows of a model's entities. A transaction starts from them as they are and works on
its own tables; a commit applies its log to the committed rows as they are by then, all of it or
nothing.

* `Database.seed`: adds rows outside any transaction.
* `Database.begin`, `Database.commit`: the two ends of a transaction.

Results:
* `commit_tables`: a commit applies the transaction's log to the committed rows.
-/

namespace Depot

/-- A model and the committed rows of its entities. -/
structure Database where
  model : Model
  tables : Tables

namespace Database

/-- A database without rows. -/
def create (m : Model) : Database := ⟨m, .empty⟩

/-- The committed rows of an entity. -/
def rows (db : Database) (entity : String) : List Record := db.tables.rows entity

/-- The committed rows of every entity. -/
def contents (db : Database) : Fields (List Record) :=
  Fields.ofList (db.model.entities.map fun e => (e.name, db.rows e.name))

/-! ## Seeding -/

/-- Inserts a row of an entity. -/
def seedRow (m : Model) (e : Entity) (t : Tables) (row : Record) : Except StoreError Tables :=
  match e.key? row with
  | none => .error (.backend ("seed row for " ++ e.name ++ " has no key"))
  | some key => (Write.insert e.name key row).apply m t

/-- Inserts rows of an entity up to the first that does not fit. -/
def seedRows (m : Model) (e : Entity) (t : Tables) : List Record → Tables × Except StoreError Unit
  | [] => (t, .ok ())
  | row :: rest =>
    match seedRow m e t row with
    | .ok t => seedRows m e t rest
    | .error failure => (t, .error failure)

/-- Adds rows of an entity outside any transaction. -/
def seed (db : Database) (entity : String) (rows : List Record) :
    Database × Except StoreError Unit :=
  match db.model.entity? entity with
  | none => (db, .error (.unknownEntity entity))
  | some e =>
    let (tables, result) := seedRows db.model e db.tables rows
    ({ db with tables }, result)

/-! ## Transactions -/

/-- A transaction on the rows as they are. -/
def begin (db : Database) : Transaction := .start db.tables

/-- Flushes a transaction and applies its log to the committed rows. -/
def commit (db : Database) (tx : Transaction) : Except StoreError Database :=
  match tx.flush db.model with
  | (_, .error failure) => .error failure
  | (tx, .ok ()) => (applyAll db.model db.tables tx.flushed).map fun tables => { db with tables }

theorem commit_tables {db db' : Database} {tx : Transaction} (h : db.commit tx = .ok db') :
    applyAll db.model db.tables (tx.flushed ++ tx.staged) = .ok db'.tables := by
  simp only [commit, Transaction.flush] at h
  cases hf : (applyPrefix db.model tx.working tx.staged).failure with
  | some e => simp [hf] at h
  | none =>
    simp only [hf, applyPrefix_failure_none hf] at h
    cases ha : applyAll db.model db.tables (tx.flushed ++ tx.staged) with
    | error e => simp [ha, Except.map] at h
    | ok t =>
      simp only [ha, Except.map, Except.ok.injEq] at h
      rw [← h]

end Database

end Depot
