import Depot.Proofs.Store.Defaults
import Depot.Proofs.Store.Replay
import Depot.Proofs.Store.Rows

/-!
# Reachable databases

A database is reachable if steps of a session lead to it from a database without rows. The steps
are in any order and of any number of transactions; they use the entities of the model, and
records list their fields in order. In reachable databases rows have complete keys that tell them
apart, unless the column of the last change is part of a key.

* `Session.Step.IsOn`: steps that use the entities of a model.
* `Database.IsReachable`: the databases that such steps lead to.
* `Transaction.IsReachable`: the transactions that such steps leave open.
* `Tables.IsSound`, `Transaction.IsSound`, `Session.IsSound`: what holds of all that is reached.

Results:
* `isSound_run`, `isSound_runAll`: a step keeps a session sound, and so do steps.
* `isSound_of_isReachable`: reachable databases are sound.
* `Transaction.IsReachable.isSound`: reachable transactions are sound.
-/

namespace Depot

/-! ## Tables -/

/-- Rows with complete keys that tell them apart and with their fields in order, for every entity
    of a model. -/
def Tables.IsSound (m : Model) (t : Tables) : Prop :=
  ∀ name e, m.entity? name = some e →
    e.IsKeyed (t.rows name) ∧ ∀ row ∈ t.rows name, row.Sorted

/-- A write that leaves a row under its own key, by the entity that the model knows. -/
def Write.IsSound (m : Model) (w : Write) : Prop :=
  ∀ e, m.entity? w.entity = some e → w.IsProper e

theorem Write.isSound_of_isProper {m : Model} {e : Entity} (he : m.entity? e.name = some e)
    {w : Write} (hentity : w.entity = e.name) (hw : w.IsProper e) : w.IsSound m := by
  intro e' he'
  rw [hentity, he, Option.some.injEq] at he'
  exact he' ▸ hw

theorem Tables.isSound_empty (m : Model) : Tables.empty.IsSound m := by
  intro name e he
  refine ⟨.nil, ?_⟩
  intro row hrow
  cases hrow

theorem sorted_applyToRows {e : Entity} {w : Write} {rows rows' : List Record}
    (h : ∀ row ∈ rows, row.Sorted) (hw : w.IsProper e)
    (happly : w.applyToRows e rows = .ok rows') : ∀ row ∈ rows', row.Sorted := by
  obtain ⟨before, old, after, rfl, rfl, -⟩ := Write.applyToRows_eq_ok happly
  intro row hrow
  rcases List.mem_append.1 hrow with hrow | hrow
  · rcases List.mem_append.1 hrow with hrow | hrow
    · exact h row (List.mem_append_left _ (List.mem_append_left _ hrow))
    · exact (hw row (Option.mem_toList.1 hrow)).2
  · exact h row (List.mem_append_right _ hrow)

theorem sorted_applyRows {e : Entity} {ws : List Write} {rows rows' : List Record}
    (h : ∀ row ∈ rows, row.Sorted) (hws : ∀ w ∈ ws, w.IsProper e)
    (happly : applyRows e rows ws = .ok rows') : ∀ row ∈ rows', row.Sorted :=
  applyRows_induction (P := fun rows => ∀ row ∈ rows, row.Sorted)
    (fun w hw _ _ hsorted => sorted_applyToRows hsorted (hws w hw)) h happly

theorem Tables.IsSound.apply {m : Model} {t t' : Tables} {w : Write} (h : t.IsSound m)
    (hw : w.IsSound m) (happly : w.apply m t = .ok t') : t'.IsSound m := by
  intro name e he
  obtain ⟨hkeyed, hsorted⟩ := h name e he
  by_cases hname : w.entity = name
  · subst hname
    have hstep := rows_apply_self happly he
    exact ⟨isKeyed_applyToRows hkeyed (hw e he) hstep, sorted_applyToRows hsorted (hw e he) hstep⟩
  · rw [rows_apply_of_ne happly hname]
    exact ⟨hkeyed, hsorted⟩

theorem Tables.IsSound.applyAll {m : Model} {t t' : Tables} {ws : List Write} (h : t.IsSound m)
    (hws : ∀ w ∈ ws, w.IsSound m) (happly : Depot.applyAll m t ws = .ok t') : t'.IsSound m :=
  applyAll_induction (fun w hw _ _ hsound => hsound.apply (hws w hw)) h happly

/-! ## Transactions -/

/-- A transaction on sound tables whose writes leave rows under their own keys. -/
structure Transaction.IsSound (m : Model) (tx : Transaction) : Prop where
  working : tx.working.IsSound m
  staged : ∀ w ∈ tx.staged, w.IsSound m
  flushed : ∀ w ∈ tx.flushed, w.IsSound m

/-- A call that persists records with their fields in order as instances of the model's own
    entities. -/
def TransactionCall.IsOn (m : Model) : TransactionCall → Prop
  | .persist e r _ => m.entity? e.name = some e ∧ r.Sorted
  | _ => True

namespace Transaction

variable {m : Model} {tx : Transaction}

theorem IsSound.stage (h : tx.IsSound m) {w : Write} (hw : w.IsSound m) :
    (tx.stage w).IsSound m where
  working := h.working
  staged := forall_mem_stage h.staged hw
  flushed := h.flushed

/-- The row that a key has by now has its fields in order. -/
theorem IsSound.sorted_current (h : tx.IsSound m) {e : Entity} (he : m.entity? e.name = some e)
    {key : RowKey} {current : Record} (hc : tx.current? e key = some current) :
    current.Sorted := by
  rcases of_current? hc with ⟨w, hw, hentity, hrow⟩ | hfind
  · exact (h.staged w hw e (hentity ▸ he) current hrow).2
  · exact (h.working e.name e he).2 current (findRow?_eq_some hfind).1

theorem IsSound.persist (h : tx.IsSound m) (htime : ∀ e ∈ m.entities, updatedAt ∉ e.primaryKey)
    {e : Entity} (he : m.entity? e.name = some e) {r saved : Record} (hr : r.Sorted)
    {mode : WriteMode} {stamp : Stamp} {tx' : Transaction}
    (hp : tx.persist e r mode stamp = .ok (saved, tx')) : tx'.IsSound m := by
  have hrow : (e.columnFields r).Sorted := Fields.sorted_restrict hr _
  cases mode with
  | insert =>
    obtain ⟨hfill, key, hkey, rfl⟩ := insert_eq_ok hp
    refine h.stage (Write.isSound_of_isProper he rfl ?_)
    rintro row ⟨⟩
    exact ⟨hkey, sorted_fillDefaults hfill hrow⟩
  | update =>
    obtain ⟨key, current, hkey, hcurrent, rfl, rfl⟩ := update_eq_ok hp
    refine h.stage (Write.isSound_of_isProper he rfl ?_)
    rintro row ⟨⟩
    exact ⟨key?_touch (htime e (entity?_mem he)) hrow hkey,
      sorted_touch (h.sorted_current he hcurrent)⟩

theorem IsSound.remove (h : tx.IsSound m) {e : Entity} {r : Record} {tx' : Transaction}
    (hr : tx.remove e r = .ok tx') : tx'.IsSound m := by
  obtain ⟨key, -, rfl⟩ := remove_eq_ok hr
  refine h.stage ?_
  intro e' he' row hrow
  cases hrow

theorem IsSound.flush (h : tx.IsSound m) : (tx.flush m).1.IsSound m where
  working := h.working.applyAll (fun w hw => h.staged w (mem_flushing w hw))
    (applyAll_flushing m tx)
  staged := (forall_mem_flush h.staged h.flushed).1
  flushed := (forall_mem_flush h.staged h.flushed).2

theorem IsSound.answers (h : tx.IsSound m) (htime : ∀ e ∈ m.entities, updatedAt ∉ e.primaryKey)
    {stamp : Stamp} {c : TransactionCall} (hc : c.IsOn m) {reply : Except StoreError c.Reply}
    {tx' : Transaction} (hanswers : tx.Answers m stamp c reply tx') : tx'.IsSound m := by
  cases hanswers with
  | persisted hp => exact h.persist htime hc.1 hc.2 hp
  | removed hr => exact h.remove hr
  | flush => exact h.flush
  | _ => exact h

end Transaction

/-! ## Databases -/

variable {m : Model}

theorem isSound_seeded (db : Database) (entity : String) {rows : List Record}
    (hrows : ∀ row ∈ rows, row.Sorted) : ∀ w ∈ db.seeded entity rows, w.IsSound db.model := by
  intro w hw
  obtain ⟨e, row, key, he, hrow, hkey, rfl⟩ := Database.exists_of_mem_seeded hw
  refine Write.isSound_of_isProper (entity?_name he) rfl ?_
  rintro _ ⟨⟩
  exact ⟨hkey, hrows row hrow⟩

theorem Tables.IsSound.seed {db : Database} (h : db.tables.IsSound db.model) (entity : String)
    {rows : List Record} (hrows : ∀ row ∈ rows, row.Sorted) :
    (db.seed entity rows).1.tables.IsSound db.model :=
  h.applyAll (isSound_seeded db entity hrows) (Database.applyAll_seeded db entity rows)

theorem Tables.IsSound.commit {db db' : Database} (h : db.tables.IsSound db.model)
    {tx : Transaction} (htx : tx.IsSound db.model) (hc : db.commit tx = .ok db') :
    db'.tables.IsSound db.model :=
  h.applyAll (List.forall_mem_append.2 ⟨htx.flushed, htx.staged⟩) (Database.commit_tables hc)

theorem Transaction.isSound_begin {db : Database} (h : db.tables.IsSound m) :
    db.begin.IsSound m where
  working := h
  staged := by
    intro w hw
    cases hw
  flushed := by
    intro w hw
    cases hw

/-! ## Sessions -/

namespace Session

/-- A step that uses the entities of a model, with records whose fields are in order. -/
def Step.IsOn (m : Model) : Step → Prop
  | .seed _ rs => ∀ row ∈ rs, row.Sorted
  | .within _ c => c.IsOn m
  | _ => True

/-- A session on a model with sound rows and sound transactions. -/
structure IsSound (m : Model) (s : Session) : Prop where
  model : s.db.model = m
  tables : s.db.tables.IsSound m
  transactions : ∀ name tx, s.transactions.field? name = some tx → tx.IsSound m

variable {s : Session}

theorem isSound_start (m : Model) : (start (.create m)).IsSound m where
  model := rfl
  tables := Tables.isSound_empty m
  transactions := by
    intro name tx h
    cases h

/-- The step lemma: seeds and commits keep the committed rows sound, calls their transaction. -/
theorem IsSound.moves (h : s.IsSound m) (htime : ∀ e ∈ m.entities, updatedAt ∉ e.primaryKey)
    {stamps : Stamps} {step : Step} (hstep : step.IsOn m) {s' : Session}
    (hmoves : s.Moves stamps step s') : s'.IsSound m := by
  obtain ⟨rfl, htables, htransactions⟩ := h
  cases hmoves with
  | seed entity rows =>
    exact ⟨Database.model_seed s.db entity rows, htables.seed entity hstep, htransactions⟩
  | begin name =>
    exact ⟨rfl, htables, forall_field?_put htransactions name (Transaction.isSound_begin htables)⟩
  | commit hopen hc =>
    exact ⟨Database.model_commit hc, htables.commit (htransactions _ _ hopen) hc,
      forall_field?_close htransactions _⟩
  | drop name => exact ⟨rfl, htables, forall_field?_close htransactions name⟩
  | commitFailed hopen hc => exact ⟨rfl, htables, forall_field?_close htransactions _⟩
  | within c hopen =>
    have hanswers := (htransactions _ _ hopen).answers htime hstep
      (Transaction.answers_answer stamps s.db.model _ s.taken c)
    exact ⟨rfl, htables, forall_field?_put htransactions _ hanswers⟩
  | _ => exact ⟨rfl, htables, htransactions⟩

theorem isSound_run (h : s.IsSound m) (htime : ∀ e ∈ m.entities, updatedAt ∉ e.primaryKey)
    (stamps : Stamps) {step : Step} (hstep : step.IsOn m) : (s.run stamps step).2.IsSound m :=
  h.moves htime hstep (moves_run stamps s step)

theorem isSound_runAll (h : s.IsSound m) (htime : ∀ e ∈ m.entities, updatedAt ∉ e.primaryKey)
    (stamps : Stamps) {steps : List Step} (hsteps : ∀ step ∈ steps, step.IsOn m) :
    (s.runAll stamps steps).IsSound m :=
  runAll_induction (fun step hs _ _ hsound => hsound.moves htime (hsteps step hs)) h

end Session

/-- A database that steps lead to from one without rows. -/
def Database.IsReachable (m : Model) (db : Database) : Prop :=
  ∃ stamps steps, (∀ step ∈ steps, Session.Step.IsOn m step) ∧
    ((Session.start (.create m)).runAll stamps steps).db = db

theorem isSound_of_isReachable (htime : ∀ e ∈ m.entities, updatedAt ∉ e.primaryKey)
    {db : Database} (h : db.IsReachable m) : db.model = m ∧ db.tables.IsSound m := by
  obtain ⟨stamps, steps, hsteps, rfl⟩ := h
  have hsound := Session.isSound_runAll (Session.isSound_start m) htime stamps hsteps
  exact ⟨hsound.model, hsound.tables⟩

/-- A transaction that steps from a database without rows leave open under some name. -/
def Transaction.IsReachable (m : Model) (tx : Transaction) : Prop :=
  ∃ stamps steps name, (∀ step ∈ steps, Session.Step.IsOn m step) ∧
    ((Session.start (.create m)).runAll stamps steps).transactions.field? name = some tx

theorem Transaction.IsReachable.isSound {tx : Transaction} (h : tx.IsReachable m)
    (htime : ∀ e ∈ m.entities, updatedAt ∉ e.primaryKey) : tx.IsSound m := by
  obtain ⟨stamps, steps, name, hsteps, htx⟩ := h
  have hsound := Session.isSound_runAll (Session.isSound_start m) htime stamps hsteps
  exact hsound.transactions name tx htx

end Depot
