import Depot.Store.Call

/-!
# Sessions

Several transactions on one database, each under a name, with steps of them in any order.

* `Session.run`: the outcome of a step, and the session after it.

Results:
* `db_run_of_not_writes`: only seeds and commits change the database.
* `field?_run_of_ne`, `field?_runAll_of_ne`: steps of others leave a transaction as it is.
-/

namespace Depot

/-- A database, the open transactions by their names, and the number of stamps taken. -/
structure Session where
  db : Database
  transactions : Fields Transaction
  taken : Nat

namespace Session

/-- A step of a session. -/
inductive Step
  | seed (entity : String) (rows : List Record)
  | rows (entity : String)
  | ping
  | begin (tx : String)
  | drop (tx : String)
  | commit (tx : String)
  | within (tx : String) (c : TransactionCall)

/-- Whether a step can change the committed rows. -/
def Step.writes : Step → Bool
  | .seed .. | .commit _ => true
  | _ => false

/-- The transaction that a step uses. -/
def Step.transaction? : Step → Option String
  | .begin name | .drop name | .commit name | .within name _ => some name
  | .seed .. | .rows _ | .ping => none

/-- What a step answers. -/
inductive Answer
  | done
  | dropped (wasOpen : Bool)
  | rows (rs : List Record)
  | reply (c : TransactionCall) (r : c.Reply)

/-- Why a step was refused: its transaction is not open, or the store failed. -/
inductive Refusal
  | notOpen (tx : String)
  | store (failure : StoreError)
  deriving DecidableEq

/-- A session on a database, without transactions. -/
def start (db : Database) : Session := ⟨db, [], 0⟩

/-- A session without the transaction of a name. -/
def close (s : Session) (name : String) : Session :=
  { s with transactions := s.transactions.without name }

/-- The outcome of a call on the store. -/
def outcome {α : Type} (f : α → Answer) : Except StoreError α → Except Refusal Answer
  | .ok a => .ok (f a)
  | .error failure => .error (.store failure)

/-- Commits a transaction, which is closed by it. -/
def commit (s : Session) (name : String) (tx : Transaction) : Except Refusal Answer × Session :=
  match s.db.commit tx with
  | .ok db => (.ok .done, { s.close name with db })
  | .error failure => (.error (.store failure), s.close name)

/-- Makes a call within a transaction. -/
def call (stamps : Stamps) (s : Session) (name : String) (tx : Transaction)
    (c : TransactionCall) : Except Refusal Answer × Session :=
  let (reply, tx, taken) := tx.answer stamps s.db.model s.taken c
  (outcome (.reply c) reply, { s with transactions := s.transactions.put name tx, taken })

/-- The outcome of a step, and the session after it. -/
def run (stamps : Stamps) (s : Session) : Step → Except Refusal Answer × Session
  | .seed entity rows =>
    let (db, result) := s.db.seed entity rows
    (outcome (fun () => .done) result, { s with db })
  | .rows entity => (.ok (.rows (s.db.rows entity)), s)
  | .ping => (.ok .done, s)
  | .begin name => (.ok .done, { s with transactions := s.transactions.put name s.db.begin })
  | .drop name => (.ok (.dropped (s.transactions.has name)), s.close name)
  | .commit name =>
    match s.transactions.field? name with
    | none => (.error (.notOpen name), s)
    | some tx => s.commit name tx
  | .within name c =>
    match s.transactions.field? name with
    | none => (.error (.notOpen name), s)
    | some tx => s.call stamps name tx c

/-- The session after steps. -/
def runAll (stamps : Stamps) (s : Session) : List Step → Session
  | [] => s
  | step :: steps => runAll stamps (s.run stamps step).2 steps

theorem db_run_of_not_writes (stamps : Stamps) (s : Session) (step : Step)
    (h : step.writes = false) : (s.run stamps step).2.db = s.db := by
  cases step with
  | seed entity rows => simp [Step.writes] at h
  | commit name => simp [Step.writes] at h
  | within name c =>
    simp only [run]
    split <;> rfl
  | _ => rfl

theorem runAll_append (stamps : Stamps) (s : Session) (steps more : List Step) :
    s.runAll stamps (steps ++ more) = (s.runAll stamps steps).runAll stamps more := by
  induction steps generalizing s with
  | nil => rfl
  | cons step steps ih => exact ih (s.run stamps step).2

section

variable {stamps : Stamps} {s : Session} {name : String}

/-- A step of others leaves a transaction as it is. -/
theorem field?_run_of_ne {step : Step} (h : step.transaction? ≠ some name) :
    (s.run stamps step).2.transactions.field? name = s.transactions.field? name := by
  have hne {n : String} (hn : step.transaction? = some n) : n ≠ name := by
    rintro rfl
    exact h hn
  cases step with
  | seed entity rows => rfl
  | rows entity => rfl
  | ping => rfl
  | begin n => rw [run, Fields.field?_put, if_neg (hne rfl)]
  | drop n => rw [run, close, Fields.field?_without, if_neg (hne rfl)]
  | commit n =>
    rw [run]
    cases s.transactions.field? n with
    | none => rfl
    | some tx =>
      have hclose : (s.close n).transactions.field? name = s.transactions.field? name := by
        rw [close, Fields.field?_without, if_neg (hne rfl)]
      dsimp only
      rw [commit]
      cases s.db.commit tx with
      | ok db => exact hclose
      | error failure => exact hclose
  | within n c =>
    rw [run]
    cases s.transactions.field? n with
    | none => rfl
    | some tx =>
      show (s.transactions.put n _).field? name = _
      rw [Fields.field?_put, if_neg (hne rfl)]

theorem field?_runAll_of_ne {steps : List Step}
    (h : ∀ step ∈ steps, step.transaction? ≠ some name) :
    (s.runAll stamps steps).transactions.field? name = s.transactions.field? name := by
  induction steps generalizing s with
  | nil => rfl
  | cons step steps ih =>
    have hrest := ih (s := (s.run stamps step).2) fun t ht => h t (List.mem_cons_of_mem _ ht)
    exact hrest.trans (field?_run_of_ne (h step List.mem_cons_self))

end

end Session

end Depot
