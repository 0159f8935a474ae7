import Depot.Program
import Depot.Store.Database

/-!
# Calls on a store

A request begins a transaction, works in it, and commits it. The calls that work in a transaction
are an interface of their own, so that code that is handed a transaction can neither begin nor
commit one. `Client` answers the calls from a database.

* `Interface.transaction`, `Interface.store`: the two interfaces.
* `Client.answer`: the answer to a call, and the client after it.

Results:
* `db_answer_within`: calls that work in a transaction leave the database as it is.
-/

namespace Depot

/-- A supply of stamps. -/
abbrev Stamps := Nat → Stamp

/-- A call within a transaction. -/
inductive TransactionCall
  | findOne (e : Entity) (s : Selection) (populate : List String)
  | findPage (e : Entity) (s : Selection) (options : FindOptions)
  | persist (e : Entity) (r : Record) (mode : WriteMode)
  | remove (e : Entity) (r : Record)
  | flush

/-- What a call within a transaction is answered with. -/
abbrev TransactionCall.Reply : TransactionCall → Type
  | .findOne .. => Option Record
  | .findPage .. => Page
  | .persist .. => Record
  | .remove .. => Unit
  | .flush => Unit

/-- A call on a store. -/
inductive StoreCall
  | begin
  | commit
  | ping
  | within (c : TransactionCall)

/-- What a call on a store is answered with. -/
abbrev StoreCall.Reply : StoreCall → Type
  | .begin => Unit
  | .commit => Unit
  | .ping => Unit
  | .within c => c.Reply

namespace Interface

/-- The calls within a transaction. -/
abbrev transaction : Interface := ⟨TransactionCall, TransactionCall.Reply⟩

/-- The calls on a store. -/
abbrev store : Interface := ⟨StoreCall, StoreCall.Reply⟩

/-- Calls within a transaction are calls on a store. -/
def Embedding.within : Embedding transaction store := ⟨.within, fun _ reply => reply⟩

end Interface

/-- The program of a transaction as a program on the store. -/
abbrev Program.within {α : Type} (p : Program .transaction α) : Program .store α :=
  p.embed .within

/-- A program without calls as a program on any interface. -/
abbrev Program.quiet {I : Interface} {α : Type} (p : Program .none α) : Program I α :=
  p.embed (.ofNone I)

/-! ## Answers -/

/-- The answer to a call within a transaction, the transaction after it, and the number of stamps
    taken. -/
def Transaction.answer (stamps : Stamps) (m : Model) (tx : Transaction) (taken : Nat) :
    (c : TransactionCall) → Except StoreError c.Reply × Transaction × Nat
  | .findOne e s populate => (tx.findOne e s populate, tx, taken)
  | .findPage e s options => (tx.findPage e s options, tx, taken)
  | .persist e r mode =>
    match tx.persist e r mode (stamps taken) with
    | .ok (row, tx) => (.ok row, tx, taken + 1)
    | .error failure => (.error failure, tx, taken)
  | .remove e r =>
    match tx.remove e r with
    | .ok tx => (.ok (), tx, taken)
    | .error failure => (.error failure, tx, taken)
  | .flush =>
    let (tx, result) := tx.flush m
    (result, tx, taken)

/-- A database, the transaction that was begun on it, and the number of stamps taken. -/
structure Client where
  db : Database
  transaction : Option Transaction
  taken : Nat

namespace Client

/-- A client of a database. -/
def start (db : Database) : Client := ⟨db, none, 0⟩

/-- A client without its transaction, whose writes are lost. -/
def drop (c : Client) : Client := { c with transaction := none }

/-- The failure of calls that need a transaction. -/
def noTransaction : StoreError := .backend "no transaction"

/-- The answer to a call, and the client after it. -/
def answer (stamps : Stamps) : (call : StoreCall) → Client → Except StoreError call.Reply × Client
  | .begin, c => (.ok (), { c with transaction := some c.db.begin })
  | .ping, c => (.ok (), c)
  | .commit, c =>
    match c.transaction with
    | none => (.error noTransaction, c)
    | some tx =>
      match c.db.commit tx with
      | .ok db => (.ok (), { c.drop with db })
      | .error failure => (.error failure, c.drop)
  | .within call, c =>
    match c.transaction with
    | none => (.error noTransaction, c)
    | some tx =>
      let (reply, tx, taken) := tx.answer stamps c.db.model c.taken call
      (reply, { c with transaction := some tx, taken })

theorem db_answer_within (stamps : Stamps) (call : TransactionCall) (c : Client) :
    (answer stamps (.within call) c).2.db = c.db := by
  simp only [answer]
  split <;> rfl

end Client

end Depot
