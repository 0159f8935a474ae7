import Depot.Proofs.Controller.Isolation
import Depot.Proofs.Store.RowInvariants

/-!
# What a request writes

A request works in one transaction, and what it writes is the log of that transaction: the write
of the instance comes first, and the writes of nested collections follow. If the request succeeds,
the log is applied to the committed rows as it is.

* `Program.logged`: the log of work in a new transaction of a client.
* `Controller.written`: the writes of a request.
* `Controller.inOrder`: rows with their fields in order.

Results:
* `creation_of_succeeds`, `update_of_succeeds`, `deletion_of_succeeds`: the operations with what
  they write.
* `applyAll_written`: the committed rows after a request.
* `inOrder_serve`: requests keep the fields of all rows in order.
-/

namespace Depot

/-- The log of work in a new transaction of a client. -/
def Program.logged {α : Type} (work : Program .transaction α) (stamps : Stamps)
    (client : Client) : List Write :=
  (work.run (Transaction.respond stamps client.db.model)
    (client.db.begin, client.taken)).state.1.log

theorem Program.logged_eq {α : Type} {work : Program .transaction α} {stamps : Stamps}
    {client : Client} {a : α} {w : Transaction × Nat}
    (h : work.Works stamps client.db.model (client.db.begin, client.taken) a w) :
    work.logged stamps client = w.1.log := by
  rw [logged, h.2]

namespace Controller

variable {c : Controller} {stamps : Stamps} {m : Model} {client : Client}

/-- The writes of a request, in their order; there are none if it fails before its transaction. -/
def written (c : Controller) (stamps : Stamps) (client : Client) : WriteRequest → List Write
  | .create r =>
    match c.bodyObject r with
    | .ok body => (c.createWork r body (c.options.scope r)).logged stamps client
    | .error _ => []
  | .update r =>
    match c.bodyObject r, c.populateNames r c.options.populate.one with
    | .ok body, .ok names =>
      (c.updateWork r body (addNames names (c.replacedCollections body))).logged stamps client
    | _, _ => []
  | .delete r =>
    match c.populateNames r c.options.populate.one with
    | .ok names => (c.deleteWork r names).logged stamps client
    | .error _ => []

/-! ## Operations with their writes -/

/-- The log of a transaction that stages a write and then those of nested collections. -/
theorem log_writePlans {r out : Record} {plans : List ChildPlan} {v : Write}
    {w w' : Transaction × Nat} {db : Database} (hw : w.1 = db.begin.stage v)
    (h : (c.writePlans r plans).Works stamps m w out w') :
    ∃ nested, w'.1.log = v :: nested ∧ ∀ u ∈ nested, ∃ p ∈ plans, u.entity = p.target.name := by
  obtain ⟨nested, hstaged, hnested⟩ := stages_writePlans h
  rw [hw] at hstaged
  rw [hstaged]
  exact ⟨nested, rfl, hnested⟩

theorem log_creation {r : Request} {out : Record} {client' : Client}
    (made : c.Creation stamps client r out client') :
    ∃ key nested, c.entity.key? made.stored = some key ∧
      made.ended.1.log = .insert c.entity.name key made.stored :: nested ∧
      ∀ u ∈ nested, ∃ p ∈ made.plans, u.entity = p.target.name := by
  obtain ⟨-, key, hkey, htx⟩ := Transaction.insert_eq_ok made.persisted
  obtain ⟨nested, hlog, hnested⟩ := log_writePlans htx made.children
  exact ⟨key, nested, hkey, hlog, hnested⟩

theorem log_update {r : Request} {out : Record} {client' : Client}
    (made : c.Update stamps client r out client') :
    ∃ key nested, c.entity.key? (c.entity.columnFields made.record) = some key ∧
      made.ended.1.log = .update c.entity.name key made.stored :: nested ∧
      ∀ u ∈ nested, ∃ p ∈ made.plans, u.entity = p.target.name := by
  obtain ⟨key, current, hkey, -, -, htx⟩ := Transaction.update_eq_ok made.persisted
  obtain ⟨nested, hlog, hnested⟩ := log_writePlans htx made.children
  exact ⟨key, nested, hkey, hlog, hnested⟩

/-- A creation writes the new instance and then its children. -/
theorem creation_of_succeeds (hooks : c.options.hooks = .none) {r : Request}
    (h : c.succeeds stamps client (.create r) = true) :
    ∃ out, ∃ made : c.Creation stamps client r out (c.serve stamps client (.create r)),
      ((c.createOne r).run (Client.answer stamps) client).result = .ok out ∧
        c.written stamps client (.create r) = made.ended.1.log := by
  obtain ⟨out, hout⟩ := exists_of_isOk h
  obtain ⟨made, hwork⟩ := creation_of_returns hooks ⟨hout, rfl⟩
  refine ⟨out, made, hout, ?_⟩
  rw [written, made.hasBody]
  exact Program.logged_eq hwork

/-- An update writes the instance over the row that its key has, and then its children. -/
theorem update_of_succeeds (hooks : c.options.hooks = .none) {r : Request}
    (h : c.succeeds stamps client (.update r) = true) :
    ∃ out, ∃ made : c.Update stamps client r out (c.serve stamps client (.update r)),
      ((c.updateOne r).run (Client.answer stamps) client).result = .ok out ∧
        c.written stamps client (.update r) = made.ended.1.log := by
  obtain ⟨out, hout⟩ := exists_of_isOk h
  obtain ⟨made, hnames, hwork⟩ := update_works_of_returns hooks ⟨hout, rfl⟩
  refine ⟨out, made, hout, ?_⟩
  rw [written, made.hasBody, hnames]
  exact Program.logged_eq hwork

/-- A deletion takes one row out and writes nothing else. -/
theorem deletion_of_succeeds (hooks : c.options.hooks = .none) {r : Request}
    (h : c.succeeds stamps client (.delete r) = true) :
    ∃ made : c.Deletion client r (c.serve stamps client (.delete r)),
      c.written stamps client (.delete r) = [.remove c.entity.name made.key] := by
  obtain ⟨u, hout⟩ := exists_of_isOk h
  have hreturns : (c.deleteOne r).Returns (Client.answer stamps) client u
      (c.serve stamps client (.delete r)) := ⟨hout, rfl⟩
  obtain ⟨made, w, hnames, hwork, hlog⟩ := deletion_of_returns hooks hreturns
  refine ⟨made, ?_⟩
  rw [written, hnames]
  exact (Program.logged_eq hwork).trans hlog

/-- What a request that succeeds writes is applied to the committed rows. -/
theorem applyAll_written (hooks : c.options.hooks = .none) {q : WriteRequest}
    (h : c.succeeds stamps client q = true) :
    applyAll client.db.model client.db.tables (c.written stamps client q) =
      .ok (c.serve stamps client q).db.tables := by
  cases q with
  | create r =>
    obtain ⟨out, made, -, hwritten⟩ := creation_of_succeeds hooks h
    rw [hwritten]
    exact made.applied
  | update r =>
    obtain ⟨out, made, -, hwritten⟩ := update_of_succeeds hooks h
    rw [hwritten]
    exact made.applied
  | delete r =>
    obtain ⟨made, hwritten⟩ := deletion_of_succeeds hooks h
    rw [hwritten]
    exact made.applied

/-! ## Fields in order -/

/-- The fields of a row are in order, whatever its entity is. -/
def inOrder (_ : String) (row : Record) : Prop := row.Sorted

variable {w w' : Transaction × Nat}

theorem inOrder_persist {e : Entity} {r saved : Record} {mode : WriteMode} {stamp : Stamp}
    {tx tx' : Transaction} (htx : tx.AllRows inOrder) (hr : mode = .insert → r.Sorted)
    (hp : tx.persist e r mode stamp = .ok (saved, tx')) : tx'.AllRows inOrder := by
  rw [htx.allRows_persist_iff hp]
  cases mode with
  | insert =>
    obtain ⟨hfill, -⟩ := Transaction.insert_eq_ok hp
    exact Transaction.sorted_fillDefaults hfill (Fields.sorted_restrict (hr rfl) _)
  | update =>
    obtain ⟨key, current, -, hcurrent, hsaved, -⟩ := Transaction.update_eq_ok hp
    have hsorted : current.Sorted := htx.of_current? hcurrent
    rw [hsaved]
    exact Transaction.sorted_touch hsorted

theorem inOrder_persistAll {e : Entity} {mode : WriteMode} {rows saved : List Record}
    (hw : w.1.AllRows inOrder) (hrows : mode = .insert → ∀ row ∈ rows, row.Sorted)
    (h : (c.persistAll e mode rows).Works stamps m w saved w') : w'.1.AllRows inOrder :=
  works_persistAll_induction
    (fun row hrow _ _ _ _ htx => inOrder_persist htx fun hmode => hrows hmode row hrow) hw h

theorem sorted_blank (e : Entity) (fields : Record) : (e.blank fields).Sorted :=
  Fields.sorted_overlay (Fields.sorted_ofList _) _

theorem inOrder_writePlan {p : ChildPlan} {parentKey : Json} {children : List Record}
    (hw : w.1.AllRows inOrder)
    (h : (c.writePlan p parentKey).Works stamps m w children w') : w'.1.AllRows inOrder := by
  obtain ⟨updated, w₁, created, w₂, hupdated, hcreated, hremoved, -⟩ := of_works_writePlan h
  have h₁ := inOrder_persistAll hw (fun hmode => by cases hmode) hupdated
  have hrows : ∀ row ∈ (ChildPlan.rows p parentKey).2, row.Sorted := by
    intro row hrow
    obtain ⟨fields, -, rfl⟩ := List.mem_map.1 hrow
    exact Fields.sorted_put (sorted_blank _ _) _ _
  have h₂ := inOrder_persistAll h₁ (fun _ => hrows) hcreated
  exact works_removeAll_induction (fun _ _ _ _ htx hremove => htx.remove hremove) h₂ hremoved

theorem inOrder_writePlans {r out : Record} {plans : List ChildPlan} (hw : w.1.AllRows inOrder)
    (h : (c.writePlans r plans).Works stamps m w out w') : w'.1.AllRows inOrder :=
  works_writePlans_induction (fun _ _ _ _ _ _ htx => inOrder_writePlan htx) hw h

/-- The rows that a request writes have their fields in order, if the committed ones do. -/
theorem inOrder_written (hooks : c.options.hooks = .none) {q : WriteRequest}
    (hclient : client.db.tables.AllRows inOrder) (h : c.succeeds stamps client q = true) :
    ∀ v ∈ c.written stamps client q, v.Leaves inOrder := by
  have hbegin := Transaction.allRows_begin hclient
  have hlog {tx : Transaction} (htx : tx.AllRows inOrder) : ∀ v ∈ tx.log, v.Leaves inOrder := by
    intro v hv
    rcases List.mem_append.1 hv with hv | hv
    · exact htx.flushed v hv
    · exact htx.staged v hv
  cases q with
  | create r =>
    obtain ⟨out, made, -, hwritten⟩ := creation_of_succeeds hooks h
    have hrecord : (made.record.overlay (c.options.scope r)).Sorted :=
      Fields.sorted_overlay (sorted_assignFields (sorted_blank _ _) made.assigned) _
    have hpersist : client.db.begin.persist c.entity _ .insert _ = .ok (made.stored, made.tx) :=
      made.persisted
    have htx := inOrder_persist hbegin (fun _ => hrecord) hpersist
    rw [hwritten]
    exact hlog (inOrder_writePlans htx made.children)
  | update r =>
    obtain ⟨out, made, -, hwritten⟩ := update_of_succeeds hooks h
    have hpersist : client.db.begin.persist c.entity _ .update _ = .ok (made.stored, made.tx) :=
      made.persisted
    have htx := inOrder_persist hbegin (fun hmode => by cases hmode) hpersist
    rw [hwritten]
    exact hlog (inOrder_writePlans htx made.children)
  | delete r =>
    obtain ⟨made, hwritten⟩ := deletion_of_succeeds hooks h
    rw [hwritten]
    intro v hv row hrow
    rw [List.mem_singleton.1 hv] at hrow
    cases hrow

theorem inOrder_serve (hooks : c.options.hooks = .none)
    (hclient : client.db.tables.AllRows inOrder) (q : WriteRequest) :
    (c.serve stamps client q).db.tables.AllRows inOrder := by
  cases h : c.succeeds stamps client q with
  | false =>
    rw [db_serve_of_not_succeeds h]
    exact hclient
  | true => exact hclient.applyAll (inOrder_written hooks hclient h) (applyAll_written hooks h)

end Controller

end Depot
