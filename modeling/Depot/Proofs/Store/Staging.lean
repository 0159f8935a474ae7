import Depot.Proofs.Program
import Depot.Proofs.Store.Steps

/-!
# What a transaction stages

Calls within a transaction other than flushes leave its tables and its flushed log as they are:
they stage at most one write. Each kind of call has one lemma that says all it does when it
succeeds.

* `TransactionCall.write?`: the write that a call stages.
* `Transaction.log`: the writes of a transaction, flushed and staged ones.

Results:
* `insert_eq_ok`, `update_eq_ok`, `remove_eq_ok`: what is staged by each kind of call.
* `Answers.flushed`: only a flush changes the flushed log.
* `Answers.log`: a call adds to the log exactly what it stages, unless it is a flush that fails.
-/

namespace Depot

/-! ## What calls stage -/

/-- The write that a call stages if it succeeds. -/
def TransactionCall.write? : (c : TransactionCall) → c.Reply → Option Write
  | .persist e _ .insert, row => (e.key? row).map fun key => .insert e.name key row
  | .persist e r .update, row => (e.key? (e.columnFields r)).map fun key => .update e.name key row
  | .remove e r, _ => (e.key? r).map fun key => .remove e.name key
  | .findOne .., _ => none
  | .findPage .., _ => none
  | .flush, _ => none

/-- A call within a transaction, with its outcome. -/
structure Exchange where
  call : TransactionCall
  reply : Except StoreError call.Reply

namespace Exchange

/-- The write that was staged. -/
def write? (x : Exchange) : Option Write :=
  match x.reply with
  | .ok reply => x.call.write? reply
  | .error _ => none

/-- Whether the call was a flush that failed. -/
def isFailedFlush (x : Exchange) : Bool :=
  match x.call, x.reply with
  | .flush, .error _ => true
  | _, _ => false

end Exchange

/-! ## Logs -/

theorem mem_writes_applyPrefix {m : Model} {t : Tables} {ws : List Write} :
    ∀ w ∈ (applyPrefix m t ws).writes, w ∈ ws := by
  induction ws generalizing t with
  | nil =>
    intro w hw
    cases hw
  | cons v ws ih =>
    intro w hw
    rw [applyPrefix] at hw
    cases hv : v.apply m t with
    | error failure => rw [hv] at hw; cases hw
    | ok t₁ =>
      rw [hv] at hw
      rcases List.mem_cons.1 hw with rfl | hw
      · exact List.mem_cons_self
      · exact List.mem_cons_of_mem _ (ih w hw)

/-- What was applied of a log that does not fit ends right before a write that does not fit. -/
theorem of_applyPrefix_failure {m : Model} {t : Tables} {ws : List Write} {failure : StoreError}
    (h : (applyPrefix m t ws).failure = some failure) :
    ∃ w rest, ws = (applyPrefix m t ws).writes ++ w :: rest ∧
      w.apply m (applyPrefix m t ws).tables = .error failure := by
  induction ws generalizing t with
  | nil => cases h
  | cons v ws ih =>
    rw [applyPrefix] at h ⊢
    cases hv : v.apply m t with
    | error e =>
      rw [hv] at h
      cases h
      exact ⟨v, ws, rfl, hv⟩
    | ok t₁ =>
      rw [hv] at h
      obtain ⟨w, rest, hsplit, hw⟩ := ih h
      exact ⟨w, rest, congrArg (v :: ·) hsplit, hw⟩

theorem failure_applyPrefix_of_applyAll {m : Model} {t : Tables} {ws : List Write}
    {failure : StoreError} (h : applyAll m t ws = .error failure) :
    (applyPrefix m t ws).failure = some failure := by
  induction ws generalizing t with
  | nil => cases h
  | cons w ws ih =>
    rw [applyAll] at h
    rw [applyPrefix]
    cases hw : w.apply m t with
    | error e =>
      rw [hw] at h
      cases h
      rfl
    | ok t₁ =>
      rw [hw] at h
      exact ih h

theorem Write.targets_iff {w : Write} {entity : String} {key : RowKey} :
    w.targets entity key = true ↔ w.entity = entity ∧ w.key = key := by
  rw [targets, Bool.and_eq_true, beq_iff_eq, beq_iff_eq]

namespace Transaction

/-- The row that a key has by now is left by a write that waits, or is in the tables. -/
theorem of_current? {tx : Transaction} {e : Entity} {key : RowKey} {current : Record}
    (h : tx.current? e key = some current) :
    (∃ w ∈ tx.staged, w.entity = e.name ∧ w.row? = some current) ∨
      findRow? e key (tx.working.rows e.name) = some current := by
  rw [current?] at h
  split at h
  · rename_i w hw
    have hmem := List.mem_reverse.1 (List.mem_of_find?_eq_some hw)
    have htargets := List.find?_some hw
    exact .inl ⟨w, hmem, (Write.targets_iff.1 htargets).1, h⟩
  · exact .inr h

/-! ## Calls that succeed -/

theorem insert_eq_ok {tx tx' : Transaction} {e : Entity} {r row : Record} {stamp : Stamp}
    (h : tx.insert e r stamp = .ok (row, tx')) :
    tx.fillDefaults e stamp (e.columnFields r) = .ok row ∧
      ∃ key, e.key? row = some key ∧ tx' = tx.stage (.insert e.name key row) := by
  obtain ⟨filled, hf, h⟩ := bind_eq_ok_iff.1 h
  cases hk : e.key? filled with
  | none => simp [hk] at h
  | some key =>
    simp only [hk, Except.ok.injEq, Prod.mk.injEq] at h
    obtain ⟨rfl, rfl⟩ := h
    exact ⟨hf, key, hk, rfl⟩

theorem update_eq_ok {tx tx' : Transaction} {e : Entity} {r row : Record} {stamp : Stamp}
    (h : tx.update e r stamp = .ok (row, tx')) :
    ∃ key current, e.key? (e.columnFields r) = some key ∧ tx.current? e key = some current ∧
      row = touch e stamp current (e.columnFields r) ∧
      tx' = tx.stage (.update e.name key row) := by
  simp only [update] at h
  cases hk : e.key? (e.columnFields r) with
  | none => simp [hk] at h
  | some key =>
    cases hc : tx.current? e key with
    | none => simp [hk, hc] at h
    | some current =>
      simp only [hk, hc, Except.ok.injEq, Prod.mk.injEq] at h
      obtain ⟨rfl, rfl⟩ := h
      exact ⟨key, current, rfl, hc, rfl, rfl⟩

theorem remove_eq_ok {tx tx' : Transaction} {e : Entity} {r : Record}
    (h : tx.remove e r = .ok tx') :
    ∃ key, e.key? r = some key ∧ tx' = tx.stage (.remove e.name key) := by
  simp only [remove] at h
  cases hk : e.key? r with
  | none => simp [hk] at h
  | some key =>
    simp only [hk, Except.ok.injEq] at h
    exact ⟨key, rfl, h.symm⟩

/-- A flush that succeeds has applied all that was staged. -/
theorem flush_eq_ok {m : Model} {tx : Transaction} (h : (tx.flush m).2 = .ok ()) :
    ∃ t, applyAll m tx.working tx.staged = .ok t ∧
      (tx.flush m).1 = ⟨t, [], tx.flushed ++ tx.staged⟩ := by
  simp only [flush] at h ⊢
  cases hf : (applyPrefix m tx.working tx.staged).failure with
  | some e => simp [hf] at h
  | none =>
    have ha := applyAll_applied m tx.working tx.staged
    rw [applyPrefix_failure_none hf] at ha ⊢
    exact ⟨_, ha, rfl⟩

/-- Saving a row stages one write, which leaves the row. -/
theorem persist_eq_ok {tx tx' : Transaction} {e : Entity} {r row : Record} {mode : WriteMode}
    {stamp : Stamp} (h : tx.persist e r mode stamp = .ok (row, tx')) :
    ∃ w, (TransactionCall.persist e r mode).write? row = some w ∧ w.entity = e.name ∧
      w.row? = some row ∧ tx' = tx.stage w := by
  cases mode with
  | insert =>
    obtain ⟨-, key, hkey, rfl⟩ := insert_eq_ok h
    exact ⟨.insert e.name key row, congrArg (Option.map _) hkey, rfl, rfl, rfl⟩
  | update =>
    obtain ⟨key, current, hkey, -, -, rfl⟩ := update_eq_ok h
    exact ⟨.update e.name key row, congrArg (Option.map _) hkey, rfl, rfl, rfl⟩

/-! ## Flushes -/

/-- The writes that a flush would move to the log: those up to the first that does not fit. -/
def flushing (m : Model) (tx : Transaction) : List Write :=
  (applyPrefix m tx.working tx.staged).writes

theorem mem_flushing {m : Model} {tx : Transaction} : ∀ w ∈ tx.flushing m, w ∈ tx.staged :=
  mem_writes_applyPrefix

theorem flushed_flush (m : Model) (tx : Transaction) :
    (tx.flush m).1.flushed = tx.flushed ++ tx.flushing m := by
  simp only [flush, flushing]
  split <;> rfl

theorem staged_flush (m : Model) (tx : Transaction) : (tx.flush m).1.staged = [] := by
  rw [flush]
  split <;> rfl

theorem working_flush (m : Model) (tx : Transaction) :
    (tx.flush m).1.working = (applyPrefix m tx.working tx.staged).tables := by
  rw [flush]
  split <;> rfl

/-- The tables after a flush are those before it with the writes that it moved to the log. -/
theorem applyAll_flushing (m : Model) (tx : Transaction) :
    applyAll m tx.working (tx.flushing m) = .ok (tx.flush m).1.working := by
  rw [working_flush]
  exact applyAll_applied m tx.working tx.staged

section

variable {W : Write → Prop} {m : Model} {tx : Transaction} (hstaged : ∀ w ∈ tx.staged, W w)

include hstaged

theorem forall_mem_stage {w : Write} (hw : W w) : ∀ v ∈ (tx.stage w).staged, W v :=
  List.forall_mem_append.2 ⟨hstaged, List.forall_mem_singleton.2 hw⟩

/-- A flush leaves nothing staged, and moves to the log what was staged at most. -/
theorem forall_mem_flush (hflushed : ∀ w ∈ tx.flushed, W w) :
    (∀ w ∈ (tx.flush m).1.staged, W w) ∧ ∀ w ∈ (tx.flush m).1.flushed, W w := by
  rw [staged_flush, flushed_flush]
  exact ⟨List.forall_mem_nil _,
    List.forall_mem_append.2 ⟨hflushed, fun w hw => hstaged w (mem_flushing w hw)⟩⟩

end

/-- Only flushes change the flushed log. -/
theorem Answers.flushed {m : Model} {stamp : Stamp} {tx tx' : Transaction} {c : TransactionCall}
    {reply : Except StoreError c.Reply} (h : tx.Answers m stamp c reply tx') :
    tx'.flushed = tx.flushed ++ match c with
      | .flush => tx.flushing m
      | _ => [] := by
  cases h with
  | persisted h =>
    obtain ⟨w, -, -, -, rfl⟩ := persist_eq_ok h
    exact (List.append_nil _).symm
  | removed h =>
    obtain ⟨key, -, rfl⟩ := remove_eq_ok h
    exact (List.append_nil _).symm
  | flush => exact flushed_flush m tx
  | _ => exact (List.append_nil _).symm

/-! ## The log of a transaction -/

/-- The writes of a transaction in their order: those that were flushed, and those that wait. -/
def log (tx : Transaction) : List Write := tx.flushed ++ tx.staged

theorem log_stage (tx : Transaction) (w : Write) : (tx.stage w).log = tx.log ++ [w] := by
  show tx.flushed ++ (tx.staged ++ [w]) = tx.flushed ++ tx.staged ++ [w]
  rw [List.append_assoc]

theorem log_flush (m : Model) (tx : Transaction) :
    (tx.flush m).1.log = tx.flushed ++ tx.flushing m := by
  rw [log, flushed_flush, staged_flush, List.append_nil]

theorem log_flush_of_ok {m : Model} {tx : Transaction} (h : (tx.flush m).2 = .ok ()) :
    (tx.flush m).1.log = tx.log := by
  obtain ⟨t, -, hf⟩ := flush_eq_ok h
  rw [hf]
  exact List.append_nil _

/-- A call adds to the log what it stages. A flush that fails is left out: it drops the writes
    from the first on that does not fit. -/
theorem Answers.log {m : Model} {stamp : Stamp} {tx tx' : Transaction} {c : TransactionCall}
    {reply : Except StoreError c.Reply} (h : tx.Answers m stamp c reply tx')
    (hflush : Exchange.isFailedFlush ⟨c, reply⟩ = false) :
    tx'.log = tx.log ++ (Exchange.write? ⟨c, reply⟩).toList := by
  cases h with
  | findOne e s populate =>
    simp only [Exchange.write?]
    split <;> simp [TransactionCall.write?]
  | findPage e s options =>
    simp only [Exchange.write?]
    split <;> simp [TransactionCall.write?]
  | persisted h =>
    obtain ⟨w, hw, -, -, rfl⟩ := persist_eq_ok h
    simp only [log_stage, Exchange.write?, hw, Option.toList_some]
  | removed h =>
    obtain ⟨key, hkey, rfl⟩ := remove_eq_ok h
    simp [log_stage, Exchange.write?, TransactionCall.write?, hkey]
  | notPersisted h => exact (List.append_nil _).symm
  | notRemoved h => exact (List.append_nil _).symm
  | flush =>
    cases hf : (tx.flush m).2 with
    | error failure => simp [hf, Exchange.isFailedFlush] at hflush
    | ok u =>
      simp only [Exchange.write?, TransactionCall.write?, Option.toList_none, List.append_nil]
      exact log_flush_of_ok hf

end Transaction

end Depot
