import Depot.Controller.Operations
import Depot.Proofs.Program

/-!
# Requests in their transactions

A request begins one transaction, works in it and commits it. Within the transaction a program runs
as it does by itself, without a client.

* `Transaction.respond`: the answers to the calls of a transaction, by themselves.
* `Program.Works`: a run within a transaction that succeeds.
* `Program.KeepsOnFailure`: what a request does to the database if it fails.

Results:
* `run_within`: a program within a transaction runs on a client as it does by itself.
* `returns_commit_iff`: work that succeeds and is committed.
* `db_commit_of_error`: work that fails, or whose commit fails, leaves the database as it is.
-/

namespace Depot

/-- The answer to a call within a transaction, by the transaction and the number of stamps
    taken. -/
def Transaction.respond (stamps : Stamps) (m : Model) (c : TransactionCall)
    (w : Transaction × Nat) : Except StoreError c.Reply × Transaction × Nat :=
  w.1.answer stamps m w.2 c

/-- A run of a program within a transaction that succeeds. -/
abbrev Program.Works {α : Type} (stamps : Stamps) (m : Model) (p : Program .transaction α)
    (w : Transaction × Nat) (a : α) (w' : Transaction × Nat) : Prop :=
  p.Returns (Transaction.respond stamps m) w a w'

/-- A program that leaves the database as it is if it fails. -/
def Program.KeepsOnFailure {α : Type} (p : Program .store α) : Prop :=
  ∀ stamps client e, (p.run (Client.answer stamps) client).result = .error e →
    (p.run (Client.answer stamps) client).state.db = client.db

/-! ## Transactions of a client -/

/-- A program within a transaction runs on a client as it does by itself. -/
theorem run_within {α : Type} (stamps : Stamps) (db : Database) (p : Program .transaction α)
    (w : Transaction × Nat) :
    (p.within.run (Client.answer stamps) ⟨db, some w.1, w.2⟩).result =
        (p.run (Transaction.respond stamps db.model) w).result ∧
      (p.within.run (Client.answer stamps) ⟨db, some w.1, w.2⟩).state =
        ⟨db, some (p.run (Transaction.respond stamps db.model) w).state.1,
          (p.run (Transaction.respond stamps db.model) w).state.2⟩ := by
  induction p generalizing w with
  | done result => exact ⟨rfl, rfl⟩
  | note text next ih => exact ih w
  | call c next ih =>
    let answered := Transaction.respond stamps db.model c w
    show ((next (answered.1.map id)).within.run (Client.answer stamps)
          ⟨db, some answered.2.1, answered.2.2⟩).result = _ ∧
        ((next (answered.1.map id)).within.run (Client.answer stamps)
          ⟨db, some answered.2.1, answered.2.2⟩).state = _
    have hreply : answered.1.map id = answered.1 := by
      cases answered.1 with
      | ok reply => rfl
      | error failure => rfl
    rw [hreply]
    exact ih answered.1 answered.2

theorem db_answer_commit_of_error {stamps : Stamps} {client : Client} {failure : StoreError}
    (h : (Client.answer stamps .commit client).1 = .error failure) :
    (Client.answer stamps .commit client).2.db = client.db := by
  simp only [Client.answer] at h ⊢
  cases htx : client.transaction with
  | none => rfl
  | some tx =>
    simp only [htx] at h
    cases hcommit : client.db.commit tx with
    | error failure => simp only [hcommit, Client.drop]
    | ok db =>
      simp only [hcommit] at h
      cases h

namespace Controller

variable {α : Type} (c : Controller) {stamps : Stamps} {client client' : Client} {a : α}

theorem run_onStore {σ : Type}
    (answer : (call : StoreCall) → σ → Except StoreError call.Reply × σ) (call : StoreCall)
    (s : σ) :
    ((c.onStore call).run answer s).result = (answer call s).1.mapError (.ofStore c.resource) ∧
      ((c.onStore call).run answer s).state = (answer call s).2 :=
  Program.run_askWith (I := .store) (.ofStore c.resource) call

theorem returns_begin_iff {work : Program .transaction α} :
    (c.begin work).Returns (Client.answer stamps) client a client' ↔
      ∃ w, work.Works stamps client.db.model (client.db.begin, client.taken) a w ∧
        client' = ⟨client.db, some w.1, w.2⟩ := by
  obtain ⟨hresult, hstate⟩ := run_within stamps client.db work (client.db.begin, client.taken)
  show (work.within.run (Client.answer stamps) _).result = _ ∧
    (work.within.run (Client.answer stamps) _).state = _ ↔ _
  constructor
  · rintro ⟨ha, hs⟩
    exact ⟨_, ⟨hresult.symm.trans ha, rfl⟩, hs.symm.trans hstate⟩
  · rintro ⟨w, ⟨ha, rfl⟩, hs⟩
    exact ⟨hresult.trans ha, hstate.trans hs.symm⟩

/-- Work that is committed: it succeeds by itself, and the committed rows take what it wrote. -/
theorem returns_commit_iff {work : Program .transaction α} :
    (c.commit work).Returns (Client.answer stamps) client a client' ↔
      ∃ w db, work.Works stamps client.db.model (client.db.begin, client.taken) a w ∧
        client.db.commit w.1 = .ok db ∧ client' = ⟨db, none, w.2⟩ := by
  let ending (b : α) : Program .store α := c.onStore .commit >>= fun _ => pure b
  show (c.begin work >>= ending).Returns (Client.answer stamps) client a client' ↔ _
  rw [Program.returns_bind_iff]
  have hending {b : α} {w : Transaction × Nat} :
      (ending b).Returns (Client.answer stamps) ⟨client.db, some w.1, w.2⟩ a client' ↔
        b = a ∧ ∃ db, client.db.commit w.1 = .ok db ∧ client' = ⟨db, none, w.2⟩ := by
    rw [Program.returns_bind_iff]
    have hcall {u : Unit} {t : Client} :
        (c.onStore .commit).Returns (Client.answer stamps) ⟨client.db, some w.1, w.2⟩ u t ↔
          ∃ db, client.db.commit w.1 = .ok db ∧ t = ⟨db, none, w.2⟩ := by
      rw [onStore, Program.ask, Program.returns_askWith_iff]
      simp only [Client.answer]
      cases client.db.commit w.1 with
      | ok db => simp [Client.drop, eq_comm]
      | error failure => simp
    constructor
    · rintro ⟨u, t, hc, hpure⟩
      obtain ⟨hb, rfl⟩ := Program.returns_pure_iff.1 hpure
      exact ⟨hb, hcall.1 hc⟩
    · rintro ⟨hb, hc⟩
      exact ⟨(), client', hcall.2 hc, Program.returns_pure_iff.2 ⟨hb, rfl⟩⟩
  constructor
  · rintro ⟨b, t, hbegin, hend⟩
    obtain ⟨w, hw, rfl⟩ := c.returns_begin_iff.1 hbegin
    obtain ⟨rfl, db, hdb, hclient⟩ := hending.1 hend
    exact ⟨w, db, hw, hdb, hclient⟩
  · rintro ⟨w, db, hw, hdb, hclient⟩
    exact ⟨a, _, c.returns_begin_iff.2 ⟨w, hw, rfl⟩, hending.2 ⟨rfl, db, hdb, hclient⟩⟩

/-- Work that fails leaves the database as it is. -/
theorem db_commit_of_error {work : Program .transaction α} {e : RequestError}
    (h : ((c.commit work).run (Client.answer stamps) client).result = .error e) :
    ((c.commit work).run (Client.answer stamps) client).state.db = client.db := by
  have hbegin : ((c.begin work).run (Client.answer stamps) client).state.db = client.db := by
    have hrun := run_within stamps client.db work (client.db.begin, client.taken)
    show (work.within.run (Client.answer stamps)
      (Client.mk client.db (some client.db.begin) client.taken)).state.db = client.db
    rw [hrun.2]
  let ending (b : α) : Program .store α := c.onStore .commit >>= fun _ => pure b
  change ((c.begin work >>= ending).run (Client.answer stamps) client).result = _ at h
  show ((c.begin work >>= ending).run (Client.answer stamps) client).state.db = client.db
  cases hwork : ((c.begin work).run (Client.answer stamps) client).result with
  | error failure => rw [(Program.run_bind_error ending hwork).2, hbegin]
  | ok b =>
    obtain ⟨hresult, hstate⟩ := Program.run_bind_ok ending hwork
    rw [hresult] at h
    rw [hstate, ← hbegin]
    generalize ((c.begin work).run (Client.answer stamps) client).state = d at h
    have hcall := c.run_onStore (Client.answer stamps) .commit d
    cases hreply : (Client.answer stamps .commit d).1 with
    | ok u =>
      rw [hreply] at hcall
      rw [(Program.run_bind_ok (fun _ => pure b) hcall.1).1] at h
      cases h
    | error failure =>
      rw [hreply] at hcall
      rw [(Program.run_bind_error (fun _ => pure b) hcall.1).2, hcall.2]
      exact db_answer_commit_of_error hreply

/-! ## Requests that fail -/

variable {β : Type}

theorem keepsOnFailure_done_bind {result : Except RequestError β} {f : β → Program .store α}
    (h : ∀ b, (f b).KeepsOnFailure) : (Program.done result >>= f).KeepsOnFailure := by
  cases result with
  | ok b => exact h b
  | error e => exact fun _ _ _ _ => rfl

theorem keepsOnFailure_commit (work : Program .transaction α) : (c.commit work).KeepsOnFailure :=
  fun _ _ _ h => c.db_commit_of_error h

theorem keepsOnFailure_createOne (r : Request) : (c.createOne r).KeepsOnFailure :=
  keepsOnFailure_done_bind fun _ => c.keepsOnFailure_commit _

theorem keepsOnFailure_updateOne (r : Request) : (c.updateOne r).KeepsOnFailure :=
  keepsOnFailure_done_bind fun _ => keepsOnFailure_done_bind fun _ => c.keepsOnFailure_commit _

theorem keepsOnFailure_deleteOne (r : Request) : (c.deleteOne r).KeepsOnFailure :=
  keepsOnFailure_done_bind fun _ => c.keepsOnFailure_commit _

end Controller

end Depot
