import Depot.Proofs.Controller.Children
import Depot.Proofs.Controller.Isolation
import Depot.Proofs.Controller.Reads

/-!
# The row that an update writes over

An update looks its row up as a request that reads it does, but what it writes is stored over the
row that has the key of what is written. The two are the same row as long as the body leaves the
key as it is. A body that names a key column takes another row's place, or fails.

* `Entity.ChangesOnly`: rows that are the same but for one of them, which keeps its key.

Results:
* `result_getOne_update`: an update starts from the row that a request for one instance shows.
* `updateOne_changesOnly_iff`: no row but the selected one is changed if and only if what is
  written has the key of the selected row.
* `changesOnly_of_keepsKey`: so it is if the body names no column of the key.
-/

namespace Depot

/-! ## Rows that differ in one -/

/-- Rows after a change of one of them, which keeps its key. -/
def Entity.ChangesOnly (e : Entity) (row : Record) (rows rows' : List Record) : Prop :=
  ∃ before stored after, rows = before ++ row :: after ∧ rows' = before ++ stored :: after ∧
    e.key? stored = e.key? row

/-- Two changes of one list, each of one row, that come to the same: they are changes of the same
    row, or none of them changes anything. -/
theorem eq_or_eq_of_replace {before before' after after' : List Record} {p q p' q' : Record}
    (h : before ++ p :: after = before' ++ q :: after')
    (h' : before ++ p' :: after = before' ++ q' :: after') :
    p = q ∧ p' = q' ∨ q' = q := by
  induction before generalizing before' with
  | nil =>
    cases before' with
    | nil =>
      obtain ⟨hpq, -⟩ := List.cons.inj h
      obtain ⟨hpq', -⟩ := List.cons.inj h'
      exact .inl ⟨hpq, hpq'⟩
    | cons b bs =>
      obtain ⟨-, hafter⟩ := List.cons.inj h
      obtain ⟨-, hafter'⟩ := List.cons.inj h'
      have hsame := List.append_cancel_left (hafter.symm.trans hafter')
      exact .inr (List.cons.inj hsame).1.symm
  | cons a as ih =>
    cases before' with
    | nil =>
      obtain ⟨haq, -⟩ := List.cons.inj h
      obtain ⟨haq', -⟩ := List.cons.inj h'
      exact .inr (haq'.symm.trans haq)
    | cons b bs => exact ih (List.cons.inj h).2 (List.cons.inj h').2

namespace Controller

variable {c : Controller} {stamps : Stamps} {client client' : Client} {r : Request}
  {out : Record}

/-! ## What is shown, and what is written over -/

/-- The row that an update starts from is the one that a request for one instance shows. -/
theorem result_getOne_update (hooks : c.options.hooks = .none)
    (h : c.Update stamps client r out client')
    (hnames : c.populateNames r c.options.populate.one = .ok h.names) :
    ((c.getOne r).run (Client.answer stamps) client).result =
      .ok (client.db.begin.populated c.entity h.names h.row) := by
  have hknown : ∀ name ∈ h.names, (c.entity.relation? name).isSome := by
    intro name hname
    exact (Transaction.populate_eq_ok_iff.1 h.populated).1 name
      (mem_addNames.2 (.inl hname))
  rw [result_getOne hooks]
  exact shown_of_find? hnames hknown h.selected h.found

/-- What an update writes has the key of the row that it is written over. -/
theorem key?_replacement (hc : c.IsPlain) {body row current stored : Record} {s : Selection}
    (hbody : c.bodyObject r = .ok body) (hs : c.keySelection r = .ok s)
    (hrow : (client.db.rows c.entity.name).find? s.selects = some row)
    (h : c.replacement? stamps client r = some (current, stored)) :
    current ∈ client.db.rows c.entity.name ∧
      c.entity.key? (row.overlay body) = c.entity.key? current := by
  obtain ⟨body', s', row', key, hbody', hs', hrow', hkey, hcurrent, -⟩ := replacement?_eq_some h
  rw [hbody, Except.ok.injEq] at hbody'
  rw [hs, Except.ok.injEq] at hs'
  subst hbody' hs'
  rw [hrow, Option.some.injEq] at hrow'
  subst hrow'
  obtain ⟨hmem, hkey'⟩ := findRow?_eq_some hcurrent
  exact ⟨hmem, by rw [hkey', ← hkey, hc.key?_columnFields]⟩

/-- The rows after an update differ in the selected row only if what is written has its key, and it
    keeps it, or if nothing is changed. -/
theorem changesOnly_update_iff (hc : c.IsPlain) (hapart : c.KeepsApart)
    (hmodel : client.db.model = c.model)
    (hrows : ∀ row ∈ client.db.rows c.entity.name, row.Sorted)
    (hkeyed : c.entity.IsKeyed (client.db.rows c.entity.name))
    (h : c.Update stamps client r out client') :
    ∃ current, c.replacement? stamps client r = some (current, h.stored) ∧
      (c.entity.ChangesOnly h.row (client.db.rows c.entity.name)
          (client'.db.rows c.entity.name) ↔
        c.entity.key? (h.row.overlay h.body) = c.entity.key? h.row ∧
            c.entity.key? h.stored = c.entity.key? h.row ∨
          h.stored = current) := by
  obtain ⟨before, current, after, hbefore, hreplace, hafter⟩ :=
    rows_update hc hapart hmodel hrows h
  obtain ⟨hcurrent, hwritten⟩ := key?_replacement hc h.hasBody h.selected h.found hreplace
  have hrow := List.mem_of_find?_eq_some h.found
  refine ⟨current, hreplace, ?_⟩
  constructor
  · rintro ⟨before', stored, after', hbefore', hafter', hkey⟩
    rcases eq_or_eq_of_replace (hbefore'.symm.trans hbefore) (hafter'.symm.trans hafter) with
      ⟨hsame, hstored⟩ | hstored
    · left
      rw [hwritten, ← hsame, ← hstored]
      exact ⟨rfl, hkey⟩
    · exact .inr hstored
  · rintro (⟨hkey, hkept⟩ | hstored)
    · obtain rfl : current = h.row := hkeyed.eq_of_key hcurrent hrow (hwritten.symm.trans hkey)
      exact ⟨before, h.stored, after, hbefore, hafter, hkept⟩
    · obtain ⟨before', after', hsplit⟩ := List.append_of_mem hrow
      refine ⟨before', h.row, after', hsplit, ?_, rfl⟩
      rw [hafter, hstored, ← hbefore, hsplit]

/-- The ordinary update: a body that names no column of the key changes the selected row only. -/
theorem changesOnly_of_keepsKey (hc : c.IsPlain) (hapart : c.KeepsApart)
    (hmodel : client.db.model = c.model)
    (hrows : ∀ row ∈ client.db.rows c.entity.name, row.Sorted)
    (hkeyed : c.entity.IsKeyed (client.db.rows c.entity.name))
    (htime : updatedAt ∉ c.entity.primaryKey)
    (h : c.Update stamps client r out client')
    (hbody : ∀ k ∈ c.entity.primaryKey, h.body.field? k = none) :
    c.entity.ChangesOnly h.row (client.db.rows c.entity.name) (client'.db.rows c.entity.name) := by
  obtain ⟨current, -, hiff⟩ := changesOnly_update_iff hc hapart hmodel hrows hkeyed h
  have hkept : c.entity.key? (h.row.overlay h.body) = c.entity.key? h.row := by
    apply key?_congr
    intro k hk
    rw [Fields.field?_overlay_of_none _ (hbody k hk)]
  refine hiff.2 (.inl ⟨hkept, ?_⟩)
  rw [key?_stored_update hc htime hrows h,
    columnFields_update hc h (hrows _ (List.mem_of_find?_eq_some h.found)),
    hc.key?_columnFields, hkept]

end Controller

/-- An update changes no row of the entity but the one that a request for one instance shows, and
    leaves this one under its key, if and only if the body leaves the key of that row as it is, and
    so does the time of the change, or nothing is changed at all. The resource has no hooks, its
    entity is not the target of one of its own to-many relations, and its rows have keys that tell
    them apart. -/
theorem updateOne_changesOnly_iff {config : ModelConfig} {m : Model} {resource entity : String}
    {o : Options} {c : Controller} (hm : config.resolve = .ok m)
    (hc : Controller.build m resource entity o = .ok c) (hooks : o.hooks = .none)
    (apart : ∀ r ∈ c.entity.relations, r.kind = .toMany → r.target ≠ c.entity.name)
    (stamps : Stamps) {client client' : Client} (hmodel : client.db.model = m)
    (hrows : ∀ row ∈ client.db.rows c.entity.name, row.Sorted)
    (hkeyed : c.entity.IsKeyed (client.db.rows c.entity.name)) {r : Request} {out : Record}
    (h : (c.updateOne r).Returns (Client.answer stamps) client out client') :
    ∃ names row body current stored, c.populateNames r o.populate.one = .ok names ∧
      ((c.getOne r).run (Client.answer stamps) client).result =
        .ok (client.db.begin.populated c.entity names row) ∧
      c.bodyObject r = .ok body ∧ c.replacement? stamps client r = some (current, stored) ∧
      (c.entity.ChangesOnly row (client.db.rows c.entity.name) (client'.db.rows c.entity.name) ↔
        c.entity.key? (row.overlay body) = c.entity.key? row ∧
            c.entity.key? stored = c.entity.key? row ∨
          stored = current) := by
  have hplain := Controller.isPlain_of_build hm hc hooks
  obtain ⟨rfl, -, rfl⟩ := Controller.build_eq_ok hc
  obtain ⟨update, hnames⟩ := Controller.update_of_returns hplain.hooks h
  obtain ⟨current, hreplace, hiff⟩ :=
    Controller.changesOnly_update_iff hplain apart hmodel hrows hkeyed update
  exact ⟨update.names, update.row, update.body, current, update.stored, hnames,
    Controller.result_getOne_update hplain.hooks update hnames, update.hasBody, hreplace, hiff⟩

/-! ## Updates of an order -/

namespace Orders

theorem isKeyed_start : controller.entity.IsKeyed (start.db.rows controller.entity.name) := by
  refine ⟨by decide +kernel, ?_⟩
  show [order "1" "mine" "acme", order "2" "theirs" "globex"].Pairwise _
  decide +kernel

theorem relations_apart : ∀ r ∈ controller.entity.relations, r.kind = .toMany →
    r.target ≠ controller.entity.name := by
  intro r hr
  cases hr

/-- The client after an update of the first order. -/
def updated (body : Record) : Client :=
  ((controller.updateOne (request "1" body)).run (Client.answer stamps) start).state

theorem returns_update (body : Record)
    (h : ((controller.updateOne (request "1" body)).run (Client.answer stamps) start).result.isOk =
      true) :
    ∃ out, (controller.updateOne (request "1" body)).Returns (Client.answer stamps) start out
      (updated body) := by
  obtain ⟨out, hout⟩ := exists_of_isOk h
  exact ⟨out, hout, rfl⟩

end Orders

/-- An update of the note of an order changes the order that its key names. -/
theorem changesOnly_order :
    Orders.entity.ChangesOnly (Orders.order "1" "mine" "acme") (Orders.start.db.rows "order")
      ((Orders.updated [("note", .str "changed")]).db.rows "order") := by
  obtain ⟨out, hout⟩ := Orders.returns_update [("note", .str "changed")] (by decide +kernel)
  obtain ⟨names, row, body, current, stored, hnames, hshown, hbody, hreplace, hiff⟩ :=
    updateOne_changesOnly_iff Orders.resolve_config Orders.build_controller rfl
      Orders.relations_apart Orders.stamps rfl Orders.sorted_start Orders.isKeyed_start hout
  obtain rfl : [] = names := Except.ok.inj hnames
  obtain rfl : Orders.order "1" "mine" "acme" = row := by
    have hfound : ((Orders.controller.getOne (Orders.request "1" [("note", .str "changed")])).run
        (Client.answer Orders.stamps) Orders.start).result =
          .ok (Orders.order "1" "mine" "acme") := by decide +kernel
    exact Except.ok.inj (hfound.symm.trans hshown)
  obtain rfl : [("note", .str "changed")] = body := Except.ok.inj hbody
  have hwritten : Orders.controller.replacement? Orders.stamps Orders.start
      (Orders.request "1" [("note", .str "changed")]) =
        some (Orders.order "1" "mine" "acme", Orders.order "1" "changed" "acme") := by
    decide +kernel
  obtain ⟨rfl, rfl⟩ := Prod.mk.inj (Option.some.inj (hwritten.symm.trans hreplace))
  exact hiff.2 (.inl ⟨by decide +kernel, by decide +kernel⟩)

/-- A body that names the key of another order takes that order's place: the selected one stays as
    it is, and the other one is written over. -/
theorem not_updateOne_changesOnly :
    ¬∀ (config : ModelConfig) (m : Model) (resource entity : String) (o : Options)
      (c : Controller) (stamps : Stamps) (client client' : Client) (r : Request) (out : Record),
      config.resolve = .ok m → Controller.build m resource entity o = .ok c → o.hooks = .none →
      (∀ r ∈ c.entity.relations, r.kind = .toMany → r.target ≠ c.entity.name) →
      client.db.model = m → (∀ row ∈ client.db.rows c.entity.name, row.Sorted) →
      c.entity.IsKeyed (client.db.rows c.entity.name) →
      (c.updateOne r).Returns (Client.answer stamps) client out client' →
      ∃ names row, c.populateNames r o.populate.one = .ok names ∧
        ((c.getOne r).run (Client.answer stamps) client).result =
          .ok (client.db.begin.populated c.entity names row) ∧
        c.entity.ChangesOnly row (client.db.rows c.entity.name)
          (client'.db.rows c.entity.name) := by
  intro h
  obtain ⟨out, hout⟩ := Orders.returns_update [("id", .str "2")] (by decide +kernel)
  obtain ⟨names, row, hnames, hshown, before, stored, after, hbefore, hafter, -⟩ :=
    h Orders.config _ "order" "order" Orders.options Orders.controller Orders.stamps Orders.start
      (Orders.updated [("id", .str "2")]) (Orders.request "1" [("id", .str "2")]) out
      Orders.resolve_config Orders.build_controller rfl Orders.relations_apart rfl
      Orders.sorted_start Orders.isKeyed_start hout
  obtain rfl : [] = names := Except.ok.inj hnames
  have hfound : ((Orders.controller.getOne (Orders.request "1" [("id", .str "2")])).run
      (Client.answer Orders.stamps) Orders.start).result =
        .ok (Orders.order "1" "mine" "acme") := by decide +kernel
  obtain rfl : Orders.order "1" "mine" "acme" = row := Except.ok.inj (hfound.symm.trans hshown)
  have hstart : Orders.start.db.rows "order" =
      [Orders.order "1" "mine" "acme"] ++ Orders.order "2" "theirs" "globex" :: [] := by
    decide +kernel
  have hend : (Orders.updated [("id", .str "2")]).db.rows "order" =
      [Orders.order "1" "mine" "acme"] ++ Orders.order "2" "mine" "acme" :: [] := by
    decide +kernel
  rcases eq_or_eq_of_replace (hbefore.symm.trans hstart) (hafter.symm.trans hend) with
    ⟨hsame, -⟩ | hsame
  · revert hsame
    decide +kernel
  · revert hsame
    decide +kernel

end Depot
