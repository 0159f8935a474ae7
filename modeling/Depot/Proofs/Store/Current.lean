import Depot.Proofs.Model.Resolved
import Depot.Proofs.Store.InPlace
import Mathlib.Data.List.Induction

/-!
# Looking through staged writes

An update lays a record over the row that its key has by then, which may wait to be flushed. That
row is looked up without a flush: the last staged write of the key says what the key leads to, and
the transaction's tables say so for keys that no staged write is of. If all that is staged fits the
tables, then the row is the one that the tables would have after a flush.

Results:
* `findRow?_applyToRows`: the row that a key has after a write.
* `current?_stage`: the row that a key has once one more write is staged.
* `current?_of_applyAll`: the row that is looked up is in the tables that the staged writes lead to.
* `current?_flush`: looking through staged writes equals flushing first.
-/

namespace Depot

/-! ## Keys after a write -/

section

variable {e : Entity} {key : RowKey} {rows rows' : List Record} {w : Write}

/-- The key of a write leads to the row that the write leaves, and to none after a removal. -/
theorem findRow?_applyToRows_self (hkeyed : e.IsKeyed rows) (hw : w.IsProper e)
    (happly : w.applyToRows e rows = .ok rows') : findRow? e w.key rows' = w.row? := by
  cases hrow : w.row? with
  | some row =>
    obtain ⟨before, old, after, -, hrows', -⟩ := Write.applyToRows_eq_ok happly
    have hmem : row ∈ rows' := by
      rw [hrows', hrow]
      exact List.mem_append_left _ (List.mem_append_right _ (List.mem_singleton_self row))
    exact (isKeyed_applyToRows hkeyed hw happly).findRow?_eq hmem (hw row hrow).1
  | none =>
    cases w with
    | insert name key row => cases hrow
    | update name key row => cases hrow
    | remove name key =>
      have hremove := Write.applyToRows_remove_iff.1 happly
      rw [findRow?_eq_none, hkeyed.removeRow?_eq_filter hremove]
      intro r hr
      exact of_decide_eq_true (List.mem_filter.1 hr).2

/-- Other keys lead to the rows that they led to before. -/
theorem findRow?_applyToRows_of_ne (hw : w.IsProper e)
    (happly : w.applyToRows e rows = .ok rows') (hne : w.key ≠ key) :
    findRow? e key rows' = findRow? e key rows := by
  obtain ⟨before, old, after, rfl, rfl, hold⟩ := Write.applyToRows_eq_ok happly
  -- neither the row that goes nor the one that comes has the key
  have hskip (o : Option Record) (ho : ∀ q ∈ o, e.key? q = some w.key) :
      o.toList.find? (e.hasKey key) = none := by
    rw [List.find?_eq_none]
    intro q hq hkey
    rw [hasKey_iff, ho q (Option.mem_toList.1 hq), Option.some.injEq] at hkey
    exact hne hkey
  simp only [findRow?, List.find?_append, hskip old hold,
    hskip w.row? fun row hrow => (hw row hrow).1]

/-- The row that a key has after a write. -/
theorem findRow?_applyToRows (hkeyed : e.IsKeyed rows) (hw : w.IsProper e)
    (happly : w.applyToRows e rows = .ok rows') :
    findRow? e key rows' = if w.key = key then w.row? else findRow? e key rows := by
  by_cases hkey : w.key = key
  · rw [if_pos hkey, ← hkey]
    exact findRow?_applyToRows_self hkeyed hw happly
  · rw [if_neg hkey]
    exact findRow?_applyToRows_of_ne hw happly hkey

end

/-- The row that a key of an entity has in the tables after a write. -/
theorem findRow?_apply {m : Model} {t t' : Tables} {w : Write} {e : Entity} (ht : t.IsSound m)
    (hw : w.IsSound m) (he : m.entity? e.name = some e) (happly : w.apply m t = .ok t')
    (key : RowKey) :
    findRow? e key (t'.rows e.name) =
      if w.targets e.name key then w.row? else findRow? e key (t.rows e.name) := by
  by_cases hname : w.entity = e.name
  · have hstep := rows_apply_self happly (hname ▸ he)
    rw [hname] at hstep
    rw [findRow?_applyToRows (ht e.name e he).1 (hw e (hname ▸ he)) hstep]
    simp only [Write.targets_iff, hname, true_and]
  · rw [rows_apply_of_ne happly hname, if_neg]
    rw [Write.targets_iff]
    exact fun h => hname h.1

namespace Transaction

/-! ## Staged writes -/

/-- A write that is staged is the first that is looked at. -/
theorem current?_stage (tx : Transaction) (w : Write) (e : Entity) (key : RowKey) :
    (tx.stage w).current? e key = if w.targets e.name key then w.row? else tx.current? e key := by
  simp only [current?, stage, List.reverse_append, List.reverse_singleton, List.singleton_append,
    List.find?_cons]
  cases w.targets e.name key with
  | true => rfl
  | false => rfl

/-- The run lemma: the row that a key has by now is the one that it has in the tables to which the
    staged writes lead. The induction is on the staged writes from the last one back, since the
    last one of the key decides. -/
theorem current?_of_applyAll {m : Model} {tx : Transaction} (hsound : tx.IsSound m) {e : Entity}
    (he : m.entity? e.name = some e) {t : Tables}
    (happly : applyAll m tx.working tx.staged = .ok t) (key : RowKey) :
    tx.current? e key = findRow? e key (t.rows e.name) := by
  obtain ⟨working, staged, flushed⟩ := tx
  induction staged using List.reverseRecOn generalizing t with
  | nil =>
    cases happly
    rfl
  | append_singleton ws w ih =>
    have hsound₁ : (Transaction.mk working ws flushed).IsSound m :=
      ⟨hsound.working, fun v hv => hsound.staged v (List.mem_append_left _ hv), hsound.flushed⟩
    have hw : w.IsSound m := hsound.staged w (List.mem_append_right _ (List.mem_singleton_self w))
    dsimp only at happly
    rw [applyAll_append] at happly
    obtain ⟨t₁, hfirst, hlast⟩ := bind_eq_ok_iff.1 happly
    obtain ⟨t₂, hstep, hend⟩ := applyAll_cons_iff.1 hlast
    obtain rfl : t₂ = t := Except.ok.inj hend
    have ht₁ : t₁.IsSound m := hsound.working.applyAll hsound₁.staged hfirst
    rw [findRow?_apply ht₁ hw he hstep, ← ih hsound₁ hfirst]
    exact current?_stage ⟨working, ws, flushed⟩ w e key

/-- An update looks at its transaction only through the row that its key has by now. -/
theorem update_of_current?_eq {tx tx' : Transaction} {e : Entity}
    (h : ∀ key, tx.current? e key = tx'.current? e key) (r : Record) (stamp : Stamp) :
    ∃ outcome : Except StoreError (Record × Write),
      tx.update e r stamp = outcome.map (fun done => (done.1, tx.stage done.2)) ∧
        tx'.update e r stamp = outcome.map fun done => (done.1, tx'.stage done.2) := by
  simp only [update]
  cases e.key? (e.columnFields r) with
  | none => exact ⟨.error (.missing (noKey e)), rfl, rfl⟩
  | some key =>
    simp only [h key]
    cases tx'.current? e key with
    | none => exact ⟨.error (.missing (e.name ++ " " ++ key.text)), rfl, rfl⟩
    | some current =>
      let merged := touch e stamp current (e.columnFields r)
      exact ⟨.ok (merged, .update e.name key merged), rfl, rfl⟩

end Transaction

/-! ## Looking through staged writes -/

/-- Looking through staged writes equals flushing first. In a transaction that can be reached, if
    all that is staged fits the transaction's tables, a key leads to the row with that key in the
    tables as a flush leaves them, and to none exactly if there is no such row. So an update has
    the same outcome with a flush before it as without: the same failure, or the same row and the
    same write. -/
theorem current?_flush {config : ModelConfig} {m : Model} (hm : config.resolve = .ok m)
    (htime : ∀ e ∈ m.entities, updatedAt ∉ e.primaryKey) {tx : Transaction}
    (htx : tx.IsReachable m) {t : Tables} (hfits : applyAll m tx.working tx.staged = .ok t)
    {e : Entity} (he : e ∈ m.entities) :
    let flushed := (tx.flush m).1
    let rows := flushed.working.rows e.name
    (∀ key, (∀ row, tx.current? e key = some row ↔ row ∈ rows ∧ e.key? row = some key) ∧
      (tx.current? e key = none ↔ ∀ row ∈ rows, e.key? row ≠ some key)) ∧
    ∀ r stamp, ∃ outcome : Except StoreError (Record × Write),
      tx.persist e r .update stamp = outcome.map (fun done => (done.1, tx.stage done.2)) ∧
        flushed.persist e r .update stamp =
          outcome.map fun done => (done.1, flushed.stage done.2) := by
  intro flushed rows
  have hentity := entity?_of_resolve hm he
  have hsound := htx.isSound htime
  have hkeyed : e.IsKeyed (t.rows e.name) :=
    (hsound.working.applyAll hsound.staged hfits e.name e hentity).1
  have hcurrent := Transaction.current?_of_applyAll hsound hentity hfits
  have hflush : flushed = ⟨t, [], tx.flushed ++ tx.staged⟩ :=
    congrArg Prod.fst (Transaction.flush_of_applyAll hfits)
  have hrows : rows = t.rows e.name := congrArg (fun tx => tx.working.rows e.name) hflush
  rw [hrows]
  refine ⟨fun key => ⟨fun row => ?_, ?_⟩, fun r stamp => ?_⟩
  · rw [hcurrent key]
    exact ⟨findRow?_eq_some, fun ⟨hrow, hkey⟩ => hkeyed.findRow?_eq hrow hkey⟩
  · rw [hcurrent key]
    exact findRow?_eq_none
  · have hsame (key : RowKey) : tx.current? e key = flushed.current? e key := by
      rw [hcurrent key, hflush]
      rfl
    exact Transaction.update_of_current?_eq hsame r stamp

/-! ## A transaction with several writes of one note -/

namespace Drafts

/-- The model file of notes. -/
def config : ModelConfig :=
  ⟨[⟨"note", none, "note", .single "id",
    [⟨"id", "text", false, false⟩, ⟨"body", "text", true, false⟩], [], []⟩], []⟩

/-- The model of notes. -/
def model : Model := ⟨[noteEntity], []⟩

/-- Two notes are seeded. A transaction changes the first, removes the second, adds a third and
    changes it, and then removes the first and adds it anew. -/
def steps : List Session.Step :=
  [.seed "note" [note "1" "old", note "2" "gone"], .begin "t",
    .within "t" (.persist noteEntity (note "1" "new") .update),
    .within "t" (.remove noteEntity (note "2" "gone")),
    .within "t" (.persist noteEntity (note "3" "first") .insert),
    .within "t" (.persist noteEntity (note "3" "later") .update),
    .within "t" (.remove noteEntity (note "1" "new")),
    .within "t" (.persist noteEntity (note "1" "again") .insert)]

/-- The session after these steps. -/
def session : Session := (Session.start (.create model)).runAll (fun _ => ⟨"now", "fresh"⟩) steps

/-- The transaction after these steps. -/
def transaction : Transaction := (session.transactions.field? "t").getD (.start .empty)

theorem resolve_config : config.resolve = .ok model := by rfl

theorem sorted_note (id body : String) : (note id body).Sorted := by
  rw [Fields.sorted_iff_keys]
  show ["body", "id"].Pairwise (· < ·)
  decide

theorem isReachable_transaction : transaction.IsReachable model := by
  refine ⟨fun _ => ⟨"now", "fresh"⟩, steps, "t", ?_, rfl⟩
  have hentity : model.entity? noteEntity.name = some noteEntity := rfl
  simp [steps, Session.Step.IsOn, TransactionCall.IsOn, sorted_note, hentity]

end Drafts

/-- The first note has its last body, the second is gone, and the third is there already. -/
theorem current?_flush_drafts :
    let tx := Drafts.transaction
    let rows := (tx.flush Drafts.model).1.working.rows "note"
    rows = [note "3" "later", note "1" "again"] ∧
      tx.working.rows "note" = [note "1" "old", note "2" "gone"] ∧
      tx.current? noteEntity ⟨["1"]⟩ = some (note "1" "again") ∧
      tx.current? noteEntity ⟨["2"]⟩ = none ∧
      tx.current? noteEntity ⟨["3"]⟩ = some (note "3" "later") := by
  intro tx rows
  have hrows : rows = [note "3" "later", note "1" "again"] := by decide +kernel
  have hflush : (tx.flush Drafts.model).2 = .ok () := by rfl
  obtain ⟨t, hfits, -⟩ := Transaction.flush_eq_ok hflush
  obtain ⟨hkeys, -⟩ := current?_flush Drafts.resolve_config (by decide)
    Drafts.isReachable_transaction hfits (List.mem_singleton_self noteEntity)
  change ∀ key, (∀ row, tx.current? noteEntity key = some row ↔
    row ∈ rows ∧ noteEntity.key? row = some key) ∧ (tx.current? noteEntity key = none ↔
      ∀ row ∈ rows, noteEntity.key? row ≠ some key) at hkeys
  rw [hrows] at hkeys
  refine ⟨hrows, by decide +kernel, ((hkeys _).1 _).2 ?_, (hkeys _).2.2 ?_, ((hkeys _).1 _).2 ?_⟩
  · decide +kernel
  · decide +kernel
  · decide +kernel

end Depot
