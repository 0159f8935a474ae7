import Depot.Store.Session

/-!
# What calls and steps do

A call within a transaction and a step of a session are answered by cases, and some of the cases
can fail. Here each way in which a call or a step can go stands for itself, with all that holds
then. What a transaction or a session keeps is proved way by way.

* `Transaction.Answers`: what a call is answered, and the transaction after it.
* `Session.Moves`: the session after a step.

Results:
* `Transaction.answers_answer`: calls are answered in these ways only.
* `Session.moves_run`: so are the steps of a session.
* `Session.runAll_induction`: what every step keeps is kept by steps one after the other.
-/

namespace Depot

/-! ## Calls -/

/-- What a call within a transaction is answered, and the transaction after it. A flush that fails
    can change the transaction, other calls that fail cannot. -/
inductive Transaction.Answers (m : Model) (stamp : Stamp) (tx : Transaction) :
    (c : TransactionCall) → Except StoreError c.Reply → Transaction → Prop
  | findOne (e : Entity) (s : Selection) (populate : List String) :
    Answers m stamp tx (.findOne e s populate) (tx.findOne e s populate) tx
  | findPage (e : Entity) (s : Selection) (options : FindOptions) :
    Answers m stamp tx (.findPage e s options) (tx.findPage e s options) tx
  | persisted {e : Entity} {r row : Record} {mode : WriteMode} {tx' : Transaction}
    (h : tx.persist e r mode stamp = .ok (row, tx')) :
    Answers m stamp tx (.persist e r mode) (.ok row) tx'
  | notPersisted {e : Entity} {r : Record} {mode : WriteMode} {failure : StoreError}
    (h : tx.persist e r mode stamp = .error failure) :
    Answers m stamp tx (.persist e r mode) (.error failure) tx
  | removed {e : Entity} {r : Record} {tx' : Transaction} (h : tx.remove e r = .ok tx') :
    Answers m stamp tx (.remove e r) (.ok ()) tx'
  | notRemoved {e : Entity} {r : Record} {failure : StoreError}
    (h : tx.remove e r = .error failure) :
    Answers m stamp tx (.remove e r) (.error failure) tx
  | flush : Answers m stamp tx .flush (tx.flush m).2 (tx.flush m).1

theorem Transaction.answers_answer (stamps : Stamps) (m : Model) (tx : Transaction) (taken : Nat)
    (c : TransactionCall) :
    tx.Answers m (stamps taken) c (tx.answer stamps m taken c).1
      (tx.answer stamps m taken c).2.1 := by
  cases c with
  | findOne e s populate => exact .findOne e s populate
  | findPage e s options => exact .findPage e s options
  | flush => exact .flush
  | persist e r mode =>
    cases h : tx.persist e r mode (stamps taken) with
    | ok result =>
      obtain ⟨row, tx'⟩ := result
      simp only [answer, h]
      exact .persisted h
    | error failure =>
      simp only [answer, h]
      exact .notPersisted h
  | remove e r =>
    cases h : tx.remove e r with
    | ok tx' =>
      simp only [answer, h]
      exact .removed h
    | error failure =>
      simp only [answer, h]
      exact .notRemoved h

/-! ## Steps -/

namespace Session

/-- The session after a step. A commit closes its transaction also if it fails; a commit or a call
    without an open transaction does nothing. -/
inductive Moves (stamps : Stamps) (s : Session) : Step → Session → Prop
  | seed (entity : String) (rows : List Record) :
    Moves stamps s (.seed entity rows) { s with db := (s.db.seed entity rows).1 }
  | rows (entity : String) : Moves stamps s (.rows entity) s
  | ping : Moves stamps s .ping s
  | begin (name : String) :
    Moves stamps s (.begin name) { s with transactions := s.transactions.put name s.db.begin }
  | drop (name : String) : Moves stamps s (.drop name) (s.close name)
  | commit {name : String} {tx : Transaction} {db : Database}
    (hopen : s.transactions.field? name = some tx) (h : s.db.commit tx = .ok db) :
    Moves stamps s (.commit name) { s.close name with db }
  | commitFailed {name : String} {tx : Transaction} {failure : StoreError}
    (hopen : s.transactions.field? name = some tx) (h : s.db.commit tx = .error failure) :
    Moves stamps s (.commit name) (s.close name)
  | commitNotOpen {name : String} (hclosed : s.transactions.field? name = none) :
    Moves stamps s (.commit name) s
  | within {name : String} {tx : Transaction} (c : TransactionCall)
    (hopen : s.transactions.field? name = some tx) :
    Moves stamps s (.within name c) (s.call stamps name tx c).2
  | withinNotOpen {name : String} (c : TransactionCall)
    (hclosed : s.transactions.field? name = none) : Moves stamps s (.within name c) s

variable {stamps : Stamps} {s : Session}

theorem moves_run (stamps : Stamps) (s : Session) (step : Step) :
    s.Moves stamps step (s.run stamps step).2 := by
  cases step with
  | seed entity rows => exact .seed entity rows
  | rows entity => exact .rows entity
  | ping => exact .ping
  | begin name => exact .begin name
  | drop name => exact .drop name
  | commit name =>
    rw [run]
    cases hopen : s.transactions.field? name with
    | none => exact .commitNotOpen hopen
    | some tx =>
      dsimp only
      rw [Session.commit]
      cases h : s.db.commit tx with
      | ok db => exact .commit hopen h
      | error failure => exact .commitFailed hopen h
  | within name c =>
    rw [run]
    cases hopen : s.transactions.field? name with
    | none => exact .withinNotOpen c hopen
    | some tx => exact .within c hopen

/-- What each of some steps keeps, all of them keep. -/
theorem runAll_induction {P : Session → Prop} {steps : List Step}
    (hstep : ∀ step ∈ steps, ∀ s s', P s → s.Moves stamps step s' → P s') (h : P s) :
    P (s.runAll stamps steps) := by
  induction steps generalizing s with
  | nil => exact h
  | cons step steps ih =>
    exact ih (fun t ht => hstep t (List.mem_cons_of_mem _ ht))
      (hstep step List.mem_cons_self s _ h (moves_run stamps s step))

/-! ## Open transactions -/

/-- A transaction that is open when one of some name is put was put, or is of another name. -/
theorem of_field?_put {name n : String} {tx t : Transaction}
    (h : (s.transactions.put name tx).field? n = some t) :
    (name = n ∧ tx = t) ∨ (name ≠ n ∧ s.transactions.field? n = some t) := by
  rw [Fields.field?_put] at h
  by_cases hn : name = n
  · rw [if_pos hn, Option.some.injEq] at h
    exact .inl ⟨hn, h⟩
  · rw [if_neg hn] at h
    exact .inr ⟨hn, h⟩

/-- A transaction that is open when one of some name is closed is of another name. -/
theorem of_field?_close {name n : String} {t : Transaction}
    (h : (s.close name).transactions.field? n = some t) :
    name ≠ n ∧ s.transactions.field? n = some t := by
  rw [close, Fields.field?_without] at h
  by_cases hn : name = n
  · rw [if_pos hn] at h
    cases h
  · rw [if_neg hn] at h
    exact ⟨hn, h⟩

section

variable {P : Transaction → Prop} (h : ∀ n t, s.transactions.field? n = some t → P t)
  (name : String)

include h

theorem forall_field?_put {tx : Transaction} (htx : P tx) :
    ∀ n t, (s.transactions.put name tx).field? n = some t → P t := by
  intro n t ht
  rcases of_field?_put ht with ⟨-, rfl⟩ | ⟨-, ht⟩
  · exact htx
  · exact h n t ht

theorem forall_field?_close : ∀ n t, (s.close name).transactions.field? n = some t → P t :=
  fun n t ht => h n t (of_field?_close ht).2

end

end Session

end Depot
