import Depot.Proofs.Store.Reachable

/-!
# Properties of all rows

A property of single rows, which may differ from entity to entity, is asked of every row of the
tables. Writes keep it if the rows that they leave have it. In a session all the rows that count
are the committed ones, those that its transactions see, and those that they are going to write;
the only step that can bring in a row without the property is a call that saves one.

* `Tables.AllRows`, `Write.Leaves`: rows with a property, and writes that leave such rows.
* `Transaction.AllRows`, `Session.AllRows`: the same for all that a transaction or a session holds.
* `Session.Step.saved?`: the row that a step saves.

Results:
* `Tables.AllRows.applyAll`: a log that leaves rows with the property keeps it.
* `mem_rows_applyAll`: where the rows after a log come from.
* `Transaction.AllRows.allRows_stage_iff`: when a transaction keeps it with one more write.
* `Session.allRows_run_iff`: a step of a session keeps it exactly if the saved row has it.
-/

namespace Depot

/-! ## Tables -/

/-- Every row has a property, which may depend on the name of its entity. -/
def Tables.AllRows (P : String → Record → Prop) (t : Tables) : Prop :=
  ∀ name, ∀ row ∈ t.rows name, P name row

/-- The row that a write leaves, if any, has a property. -/
def Write.Leaves (P : String → Record → Prop) (w : Write) : Prop :=
  ∀ row ∈ w.row?, P w.entity row

variable {P : String → Record → Prop} {m : Model} {t t' : Tables}

theorem Tables.allRows_empty : Tables.empty.AllRows P := by
  intro name row hrow
  cases hrow

theorem Tables.AllRows.set (h : t.AllRows P) {entity : String} {rows : List Record}
    (hrows : ∀ row ∈ rows, P entity row) : (t.set entity rows).AllRows P := by
  intro name row hrow
  rw [Tables.rows_set] at hrow
  by_cases hname : name = entity
  · rw [if_pos hname] at hrow
    exact hname ▸ hrows row hrow
  · rw [if_neg hname] at hrow
    exact h name row hrow

theorem Tables.AllRows.apply {w : Write} (h : t.AllRows P) (hw : w.Leaves P)
    (happly : w.apply m t = .ok t') : t'.AllRows P := by
  intro name row hrow
  by_cases hname : w.entity = name
  · subst hname
    obtain ⟨e, rows, he, -, -⟩ := Write.apply_eq_ok happly
    obtain ⟨before, old, after, hbefore, hafter, -⟩ :=
      Write.applyToRows_eq_ok (rows_apply_self happly he)
    rw [hafter, List.mem_append, List.mem_append] at hrow
    rcases hrow with (hrow | hrow) | hrow
    · refine h w.entity row ?_
      rw [hbefore]
      exact List.mem_append_left _ (List.mem_append_left _ hrow)
    · exact hw row (Option.mem_toList.1 hrow)
    · refine h w.entity row ?_
      rw [hbefore]
      exact List.mem_append_right _ hrow
  · rw [rows_apply_of_ne happly hname] at hrow
    exact h name row hrow

theorem Tables.AllRows.applyAll {ws : List Write} (h : t.AllRows P)
    (hws : ∀ w ∈ ws, w.Leaves P) (happly : Depot.applyAll m t ws = .ok t') : t'.AllRows P :=
  applyAll_induction (fun w hw _ _ hall => hall.apply (hws w hw)) h happly

/-- A row that is there after a log was there before it, or is left by a write of the log. -/
theorem mem_rows_applyAll {ws : List Write} (happly : applyAll m t ws = .ok t') {name : String}
    {row : Record} (hrow : row ∈ t'.rows name) :
    row ∈ t.rows name ∨ ∃ w ∈ ws, w.entity = name ∧ w.row? = some row := by
  have hbefore : t.AllRows fun name row =>
      row ∈ t.rows name ∨ ∃ w ∈ ws, w.entity = name ∧ w.row? = some row :=
    fun _ _ hr => .inl hr
  exact hbefore.applyAll (fun w hw _ hr => .inr ⟨w, hw, rfl, hr⟩) happly name row hrow

/-! ## Transactions -/

/-- Every row that a transaction sees, and every row that it leaves, has a property. -/
structure Transaction.AllRows (P : String → Record → Prop) (tx : Transaction) : Prop where
  working : tx.working.AllRows P
  staged : ∀ w ∈ tx.staged, w.Leaves P
  flushed : ∀ w ∈ tx.flushed, w.Leaves P

namespace Transaction

variable {tx tx' : Transaction}

theorem allRows_begin {db : Database} (h : db.tables.AllRows P) : db.begin.AllRows P where
  working := h
  staged := by
    intro w hw
    cases hw
  flushed := by
    intro w hw
    cases hw

theorem AllRows.allRows_stage_iff (h : tx.AllRows P) (w : Write) :
    (tx.stage w).AllRows P ↔ w.Leaves P := by
  constructor
  · intro hstage
    exact hstage.staged w (List.mem_append_right _ List.mem_cons_self)
  · exact fun hw => ⟨h.working, forall_mem_stage h.staged hw, h.flushed⟩

/-- The row that a key has by now. -/
theorem AllRows.of_current? (h : tx.AllRows P) {e : Entity} {key : RowKey} {current : Record}
    (hc : tx.current? e key = some current) : P e.name current := by
  rcases Transaction.of_current? hc with ⟨w, hw, hentity, hrow⟩ | hfind
  · exact hentity ▸ h.staged w hw current hrow
  · exact h.working e.name current (findRow?_eq_some hfind).1

/-- Saving a row keeps the property exactly if the row has it, in either mode. -/
theorem AllRows.allRows_persist_iff (h : tx.AllRows P) {e : Entity} {r saved : Record}
    {mode : WriteMode} {stamp : Stamp} (hp : tx.persist e r mode stamp = .ok (saved, tx')) :
    tx'.AllRows P ↔ P e.name saved := by
  obtain ⟨w, -, hentity, hrow, rfl⟩ := persist_eq_ok hp
  rw [h.allRows_stage_iff, Write.Leaves, hrow, hentity]
  simp

theorem AllRows.remove (h : tx.AllRows P) {e : Entity} {r : Record}
    (hr : tx.remove e r = .ok tx') : tx'.AllRows P := by
  obtain ⟨key, -, rfl⟩ := remove_eq_ok hr
  rw [h.allRows_stage_iff]
  intro row hrow
  cases hrow

theorem AllRows.flush (h : tx.AllRows P) : (tx.flush m).1.AllRows P where
  working := h.working.applyAll (fun w hw => h.staged w (mem_flushing w hw))
    (applyAll_flushing m tx)
  staged := (forall_mem_flush h.staged h.flushed).1
  flushed := (forall_mem_flush h.staged h.flushed).2

end Transaction

/-! ## Databases -/

theorem Tables.AllRows.seed {db : Database} (h : db.tables.AllRows P) {entity : String}
    {rows : List Record} (hrows : ∀ row ∈ rows, P entity row) :
    (db.seed entity rows).1.tables.AllRows P := by
  refine h.applyAll ?_ (Database.applyAll_seeded db entity rows)
  intro w hw
  obtain ⟨e, row, key, he, hrow, -, rfl⟩ := Database.exists_of_mem_seeded hw
  rintro _ ⟨⟩
  show P e.name row
  rw [name_of_entity? he]
  exact hrows row hrow

theorem Tables.AllRows.commit {db db' : Database} (h : db.tables.AllRows P) {tx : Transaction}
    (htx : tx.AllRows P) (hc : db.commit tx = .ok db') : db'.tables.AllRows P :=
  h.applyAll (List.forall_mem_append.2 ⟨htx.flushed, htx.staged⟩) (Database.commit_tables hc)

/-! ## Sessions -/

namespace Session

/-- Every row of a session, committed or in one of its transactions, has a property. -/
structure AllRows (P : String → Record → Prop) (s : Session) : Prop where
  tables : s.db.tables.AllRows P
  transactions : ∀ name tx, s.transactions.field? name = some tx → tx.AllRows P

/-- The name of the entity and the row that a step saves, if it saves one. -/
def Step.saved? (stamps : Stamps) (s : Session) : Step → Option (String × Record)
  | .within name (.persist e r mode) => do
    let tx ← s.transactions.field? name
    let (saved, _) ← (tx.persist e r mode (stamps s.taken)).toOption
    some (e.name, saved)
  | _ => none

/-- The rows that a step seeds, if any, have a property. -/
def Step.Seeds (P : String → Record → Prop) : Step → Prop
  | .seed entity rs => ∀ row ∈ rs, P entity row
  | _ => True

variable {s : Session}

theorem allRows_start {db : Database} (h : db.tables.AllRows P) : (start db).AllRows P where
  tables := h
  transactions := by
    intro name tx htx
    cases htx

theorem AllRows.allRows_put_iff (h : s.AllRows P) {taken : Nat} (name : String)
    (tx : Transaction) :
    AllRows P { s with transactions := s.transactions.put name tx, taken } ↔ tx.AllRows P := by
  constructor
  · intro hput
    refine hput.transactions name tx ?_
    rw [Fields.field?_put, if_pos rfl]
  · exact fun htx => ⟨h.tables, forall_field?_put h.transactions name htx⟩

/-- The step lemma for calls: searches, removals and flushes bring in no row. -/
theorem allRows_call_iff (h : s.AllRows P) (stamps : Stamps) {name : String} {tx : Transaction}
    (htx : s.transactions.field? name = some tx) (c : TransactionCall) :
    (s.call stamps name tx c).2.AllRows P ↔
      ∀ x ∈ Step.saved? stamps s (.within name c), P x.1 x.2 := by
  have hold : tx.AllRows P := h.transactions name tx htx
  have hanswers := tx.answers_answer stamps s.db.model s.taken c
  rw [call, h.allRows_put_iff]
  generalize (tx.answer stamps s.db.model s.taken c).2.1 = tx' at hanswers ⊢
  generalize (tx.answer stamps s.db.model s.taken c).1 = reply at hanswers
  cases hanswers with
  | persisted hp => simp [hold.allRows_persist_iff hp, Step.saved?, htx, hp, Except.toOption]
  | notPersisted hp => simp [hold, Step.saved?, htx, hp, Except.toOption]
  | findOne e q populate => exact iff_of_true hold (fun _ hx => nomatch hx)
  | findPage e q options => exact iff_of_true hold (fun _ hx => nomatch hx)
  | removed hr => exact iff_of_true (hold.remove hr) (fun _ hx => nomatch hx)
  | notRemoved hr => exact iff_of_true hold (fun _ hx => nomatch hx)
  | flush => exact iff_of_true hold.flush (fun _ hx => nomatch hx)

/-- The step lemma: if the rows that are seeded have the property, a step keeps it exactly if the
    row that it saves has it. -/
theorem allRows_run_iff (h : s.AllRows P) (stamps : Stamps) {step : Step}
    (hseeds : step.Seeds P) :
    (s.run stamps step).2.AllRows P ↔ ∀ x ∈ step.saved? stamps s, P x.1 x.2 := by
  have hmoves := moves_run stamps s step
  generalize (s.run stamps step).2 = s' at hmoves ⊢
  cases hmoves with
  | seed entity rows =>
    exact iff_of_true ⟨h.tables.seed hseeds, h.transactions⟩ (fun _ hx => nomatch hx)
  | rows entity => exact iff_of_true h (fun _ hx => nomatch hx)
  | ping => exact iff_of_true h (fun _ hx => nomatch hx)
  | begin name =>
    refine iff_of_true ?_ (fun _ hx => nomatch hx)
    exact (h.allRows_put_iff name s.db.begin).2 (Transaction.allRows_begin h.tables)
  | drop name =>
    exact iff_of_true ⟨h.tables, forall_field?_close h.transactions name⟩ (fun _ hx => nomatch hx)
  | commit hopen hc =>
    refine iff_of_true ⟨?_, forall_field?_close h.transactions _⟩ (fun _ hx => nomatch hx)
    exact h.tables.commit (h.transactions _ _ hopen) hc
  | commitFailed hopen hc =>
    exact iff_of_true ⟨h.tables, forall_field?_close h.transactions _⟩ (fun _ hx => nomatch hx)
  | commitNotOpen hclosed => exact iff_of_true h (fun _ hx => nomatch hx)
  | within c hopen => exact allRows_call_iff h stamps hopen c
  | withinNotOpen c hclosed =>
    refine iff_of_true h ?_
    intro x hx
    cases c with
    | persist e r mode => simp [Step.saved?, hclosed] at hx
    | _ => cases hx

end Session

end Depot
